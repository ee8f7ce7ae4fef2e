import ScriptBench.Host.Instance
import ScriptBench.Proofs.Report.Ledger

/-!
Statuses add up, from single records to a whole run.

Two recursions look at the records: a block asks whether all of them passed when it is closed, and a
report counts failures when it is made. What is proved:

1. What every block has when it is closed, every block of a report has, however deep
   (`throughout_run`, `throughout_blocksAt`). So whatever is called, every block of a report without
   a skip has the status of the records in it (`judged_report`).
2. A skip sets marks and nothing else: taken out of the calls it leaves the same report but for
   statuses and marks (`report_skipped`).
3. The status of an instance is a fact about its calls and how it ended (`Ending.amounts`), and so
   is the status of a run (`RunReport.amounts`).
-/
namespace ScriptBench

namespace TestBlock

mutual

/-- A block and the blocks inside it, at every depth. -/
def subtree : TestBlock → List TestBlock
  | mk n o c s sk t records children => mk n o c s sk t records children :: subtrees children

def subtrees : List TestBlock → List TestBlock
  | [] => []
  | b :: rest => subtree b ++ subtrees rest

end

theorem subtrees_append (bs cs : List TestBlock) :
    subtrees (bs ++ cs) = subtrees bs ++ subtrees cs := by
  induction bs with
  | nil => rfl
  | cons b rest ih => rw [List.cons_append, subtrees, subtrees, ih, List.append_assoc]

theorem subtrees_singleton (b : TestBlock) : subtrees [b] = subtree b := by
  simp [subtrees]

/-- A record in the block, or in a block inside it, failed. -/
def HasFailure (b : TestBlock) : Prop := ∃ d ∈ b.subtree, ∃ a ∈ d.records, a.passed = false

theorem hasFailure_mk (n : String) (o c : Time) (s : TestStatus) (sk t : Bool)
    (records : List Assertion) (children : List TestBlock) :
    (mk n o c s sk t records children).HasFailure ↔
      (∃ a ∈ records, a.passed = false) ∨ ∃ b ∈ subtrees children, ∃ a ∈ b.records,
        a.passed = false := by
  rw [HasFailure, subtree]
  constructor
  · rintro ⟨d, hd, a, ha, hfailed⟩
    rcases List.mem_cons.mp hd with rfl | hd
    · exact .inl ⟨a, ha, hfailed⟩
    · exact .inr ⟨d, hd, a, ha, hfailed⟩
  · rintro (⟨a, ha, hfailed⟩ | ⟨d, hd, a, ha, hfailed⟩)
    · exact ⟨_, List.mem_cons_self, a, ha, hfailed⟩
    · exact ⟨d, List.mem_cons_of_mem _ hd, a, ha, hfailed⟩

mutual

theorem allPassed_iff (b : TestBlock) : b.allPassed = true ↔ ¬ b.HasFailure := by
  obtain ⟨n, o, c, s, sk, t, records, children⟩ := b
  have ih := allPassedList_iff children
  rw [allPassed, Bool.and_eq_true, ih, hasFailure_mk, not_or]
  refine and_congr_left fun _ => ?_
  simp [List.all_eq_true]

theorem allPassedList_iff (bs : List TestBlock) :
    allPassedList bs = true ↔ ¬ ∃ b ∈ subtrees bs, ∃ a ∈ b.records, a.passed = false := by
  cases bs with
  | nil => simp [allPassedList, subtrees]
  | cons b rest =>
    have hb := allPassed_iff b
    have hrest := allPassedList_iff rest
    rw [allPassedList, Bool.and_eq_true, hb, hrest, ← not_or, HasFailure]
    refine not_congr ?_
    simp only [subtrees, List.mem_append, or_and_right, exists_or]

end

/-- A block whose status says whether a record in it failed. -/
structure Judged (b : TestBlock) : Prop where
  skip : b.skip = false
  fail : b.status = .fail ↔ b.HasFailure
  pass : b.status = .pass ↔ ¬ b.HasFailure

theorem judged_of_status {b : TestBlock} (hskip : b.skip = false)
    (hstatus : b.status = if b.allPassed then .pass else .fail) : b.Judged := by
  have hpassed := allPassed_iff b
  refine ⟨hskip, ?_, ?_⟩
  · cases h : b.allPassed <;> simp_all
  · cases h : b.allPassed <;> simp_all

mutual

/-- A block without its marks: no status, not skipped. -/
def unmarked : TestBlock → TestBlock
  | mk n o c _ _ t records children => mk n o c .none false t records (unmarkedList children)

def unmarkedList : List TestBlock → List TestBlock
  | [] => []
  | b :: rest => unmarked b :: unmarkedList rest

end

mutual

theorem unmarked_markSkipped (b : TestBlock) : (markSkipped b).unmarked = b.unmarked := by
  obtain ⟨n, o, c, s, sk, t, records, children⟩ := b
  rw [markSkipped, unmarked, unmarked, unmarkedList_markSkipped children]

theorem unmarkedList_markSkipped (bs : List TestBlock) :
    unmarkedList (markSkippedList bs) = unmarkedList bs := by
  cases bs with
  | nil => rfl
  | cons b rest =>
    rw [markSkippedList, unmarkedList, unmarkedList, unmarked_markSkipped b,
      unmarkedList_markSkipped rest]

end

mutual

theorem skip_of_mem_subtree (b : TestBlock) :
    ∀ d ∈ (markSkipped b).subtree, d.skip = true ∧ d.status = .skip := by
  obtain ⟨n, o, c, s, sk, t, records, children⟩ := b
  intro d hd
  rw [markSkipped, subtree] at hd
  rcases List.mem_cons.mp hd with rfl | hd
  · exact ⟨rfl, rfl⟩
  · exact skip_of_mem_subtrees children d hd

theorem skip_of_mem_subtrees (bs : List TestBlock) :
    ∀ d ∈ subtrees (markSkippedList bs), d.skip = true ∧ d.status = .skip := by
  cases bs with
  | nil => simp [markSkippedList, subtrees]
  | cons b rest =>
    intro d hd
    rw [markSkippedList, subtrees] at hd
    rcases List.mem_append.mp hd with hd | hd
    · exact skip_of_mem_subtree b d hd
    · exact skip_of_mem_subtrees rest d hd

end

end TestBlock

open TestBlock

theorem OpenBlock.judged_finish {o : OpenBlock} (closedAt : Time) (truncated : Bool) :
    (o.finish closedAt truncated).Judged :=
  judged_of_status rfl rfl

namespace Aggregator

/-! ## Blocks -/

/-- Every block closed so far, however deep, has a property, and so has every time a block was
opened. -/
structure Throughout (T : Time → Prop) (P : TestBlock → Prop) (g : Aggregator) : Prop where
  closed : ∀ b ∈ subtrees g.closed, P b
  inside : ∀ o ∈ g.stack, T o.openedAt ∧ ∀ b ∈ subtrees o.children, P b

/-- The time of a call that opens or closes a block has a property. -/
def Step.At (T : Time → Prop) : Step → Prop
  | .openBlock now _ | .closeBlock now _ => T now
  | .append .. | .skip => True

section Throughout

variable {T : Time → Prop} {P : TestBlock → Prop} {g : Aggregator}

theorem throughout_empty : Throughout T P empty where
  closed := by simp [empty, subtrees]
  inside := by simp [empty]

theorem throughout_attach (hg : Throughout T P g) {block : TestBlock}
    (hblock : ∀ b ∈ subtree block, P b) :
    Throughout T P (attach block g) := by
  obtain ⟨records, stack, closed, diagnostics, skipped⟩ := g
  cases stack with
  | nil =>
    refine ⟨fun b hb => ?_, hg.inside⟩
    rw [attach, subtrees_append, subtrees_singleton] at hb
    rcases List.mem_append.mp hb with hb | hb
    · exact hg.closed b hb
    · exact hblock b hb
  | cons o outer =>
    refine ⟨hg.closed, fun o' ho' => ?_⟩
    rcases List.mem_cons.mp ho' with rfl | ho'
    · obtain ⟨hopened, hinside⟩ := hg.inside o List.mem_cons_self
      refine ⟨hopened, fun b hb => ?_⟩
      rw [subtrees_append, subtrees_singleton] at hb
      rcases List.mem_append.mp hb with hb | hb
      · exact hinside b hb
      · exact hblock b hb
    · exact hg.inside o' (List.mem_cons_of_mem _ ho')

/-- What a block must have when it is closed. -/
abbrev Closes (T : Time → Prop) (P : TestBlock → Prop) : Prop :=
  ∀ (o : OpenBlock) (closedAt : Time) (truncated : Bool), T o.openedAt → T closedAt →
    P (o.finish closedAt truncated)

theorem mem_subtree_finish {o : OpenBlock} {closedAt : Time} {truncated : Bool}
    (hblock : P (o.finish closedAt truncated)) (hinside : ∀ b ∈ subtrees o.children, P b) :
    ∀ b ∈ subtree (o.finish closedAt truncated), P b := by
  intro b hb
  rw [OpenBlock.finish, subtree] at hb
  rcases List.mem_cons.mp hb with rfl | hb
  · exact hblock
  · exact hinside b hb

/-- While calls are made no block is truncated, so nothing is asked of those. -/
theorem throughout_step (hcloses : ∀ (o : OpenBlock) (closedAt : Time), T o.openedAt → T closedAt →
      P (o.finish closedAt false)) (hg : Throughout T P g) {st : Step} (hst : st.At T) :
    Throughout T P (g.step st) := by
  obtain ⟨records, stack, closed, diagnostics, skipped⟩ := g
  cases st with
  | append passed message =>
    cases stack with
    | nil => exact ⟨hg.closed, hg.inside⟩
    | cons o outer =>
      refine ⟨hg.closed, fun o' ho' => ?_⟩
      rcases List.mem_cons.mp ho' with rfl | ho'
      · exact hg.inside o List.mem_cons_self
      · exact hg.inside o' (List.mem_cons_of_mem _ ho')
  | openBlock now name =>
    refine ⟨hg.closed, fun o ho => ?_⟩
    rcases List.mem_cons.mp ho with rfl | ho
    · exact ⟨hst, by simp [subtrees]⟩
    · exact hg.inside o ho
  | closeBlock now name =>
    simp only [step, closeBlock]
    cases stack with
    | nil => exact ⟨hg.closed, hg.inside⟩
    | cons o outer =>
      dsimp only
      split
      · have houter : Throughout T P ⟨records, outer, closed, diagnostics, skipped⟩ :=
          ⟨hg.closed, fun o' ho' => hg.inside o' (List.mem_cons_of_mem _ ho')⟩
        obtain ⟨hopened, hinside⟩ := hg.inside o List.mem_cons_self
        exact throughout_attach houter (mem_subtree_finish (hcloses o now hopened hst) hinside)
      · exact ⟨hg.closed, hg.inside⟩
  | skip => exact ⟨hg.closed, hg.inside⟩

theorem throughout_run (hcloses : ∀ (o : OpenBlock) (closedAt : Time), T o.openedAt → T closedAt →
      P (o.finish closedAt false)) (hg : Throughout T P g) {steps : List Step} (hsteps :
      ∀ st ∈ steps, st.At T) :
    Throughout T P (g.run steps) := by
  induction steps generalizing g with
  | nil => exact hg
  | cons st rest ih =>
    have hstep : Throughout T P (g.step st) :=
      throughout_step hcloses hg (hsteps st List.mem_cons_self)
    exact ih hstep fun st' hst' => hsteps st' (List.mem_cons_of_mem _ hst')

/-- Blocks that are still open have the property when they are closed all at once. -/
theorem throughout_fold (hcloses : Closes T P) {now : Time} (hnow : T now) (stack : List OpenBlock)
    (inner : Option TestBlock) (hstack : ∀ o ∈ stack, T o.openedAt ∧ ∀ b ∈ subtrees o.children, P b)
    (hinner : ∀ b ∈ subtrees inner.toList, P b) :
    ∀ b ∈ subtrees (fold now stack inner).toList, P b := by
  induction stack generalizing inner with
  | nil => exact hinner
  | cons o outer ih =>
    rw [fold]
    refine ih _ (fun o' ho' => hstack o' (List.mem_cons_of_mem _ ho')) ?_
    rw [Option.toList_some, subtrees_singleton]
    obtain ⟨hopened, hinside⟩ := hstack o List.mem_cons_self
    -- `o` is closed around what is closed inside it and around the blocks that were open inside it
    have hall : ∀ b ∈ subtrees (o.children ++ inner.toList), P b := by
      intro b hb
      rw [subtrees_append] at hb
      rcases List.mem_append.mp hb with hb | hb
      · exact hinside b hb
      · exact hinner b hb
    exact mem_subtree_finish
      (hcloses { o with children := o.children ++ inner.toList } now true hopened hnow) hall

end Throughout

/-- The blocks of a report before any mark of a skip. -/
def blocksAt (g : Aggregator) (now : Time) : List TestBlock :=
  g.closed ++ (fold now g.stack none).toList

theorem throughout_blocksAt {T : Time → Prop} {P : TestBlock → Prop} (hcloses : Closes T P)
    {g : Aggregator} (hg : Throughout T P g) {now : Time} (hnow : T now) :
    ∀ b ∈ subtrees (g.blocksAt now), P b := by
  intro b hb
  rw [blocksAt, subtrees_append] at hb
  rcases List.mem_append.mp hb with hb | hb
  · exact hg.closed b hb
  · exact throughout_fold hcloses hnow g.stack none hg.inside (by simp [subtrees]) b hb

/-! ## Skipping -/

theorem skipped_step (g : Aggregator) (st : Step) :
    (g.step st).skipped = (g.skipped || decide (st = .skip)) := by
  obtain ⟨records, stack, closed, diagnostics, skipped⟩ := g
  cases st with
  | append passed message => cases stack <;> simp [step, append]
  | openBlock now name => simp [step, openBlock]
  | closeBlock now name =>
    cases stack with
    | nil => simp [step, closeBlock]
    | cons o outer =>
      simp only [step, closeBlock]
      split
      · cases outer <;> simp [attach]
      · simp
  | skip => simp [step, skip]

theorem skipped_run (g : Aggregator) (steps : List Step) :
    (g.run steps).skipped = (g.skipped || decide (.skip ∈ steps)) := by
  induction steps generalizing g with
  | nil => simp [run]
  | cons st rest ih =>
    rw [run, List.foldl_cons, ← run, ih, skipped_step, Bool.or_assoc]
    congr 1
    simp only [List.mem_cons, Bool.decide_or, @eq_comm _ st]

theorem step_skipped (g : Aggregator) (skipped : Bool) {st : Step} (hst : st ≠ .skip) :
    ({ g with skipped } : Aggregator).step st = { g.step st with skipped } := by
  obtain ⟨records, stack, closed, diagnostics, _⟩ := g
  cases st with
  | append passed message => cases stack <;> rfl
  | openBlock now name => rfl
  | closeBlock now name =>
    cases stack with
    | nil => rfl
    | cons o outer =>
      simp only [step, closeBlock]
      split
      · cases outer <;> rfl
      · rfl
  | skip => exact absurd rfl hst

/-- Without its skips a sequence of calls leaves the same state, but for the flag it started
with. -/
theorem run_unskipped (g : Aggregator) (skipped : Bool) (steps : List Step) :
    ({ g with skipped } : Aggregator).run (steps.filter (· ≠ .skip)) =
      { g.run steps with skipped } := by
  induction steps generalizing g with
  | nil => rfl
  | cons st rest ih =>
    by_cases hst : st = .skip
    · subst hst
      rw [List.filter_cons_of_neg (by simp)]
      exact ih g.skip
    · rw [List.filter_cons_of_pos (by simpa using hst), run, List.foldl_cons,
        step_skipped g skipped hst]
      exact ih (g.step st)

end Aggregator

/-- Reports that say the same but for statuses and marks of a skip. -/
structure TestReport.SameRecords (r r' : TestReport) : Prop where
  records : r.records = r'.records
  blocks : unmarkedList r.blocks = unmarkedList r'.blocks
  diagnostics : r.diagnostics = r'.diagnostics
  passedCount : r.passedCount = r'.passedCount
  failedCount : r.failedCount = r'.failedCount

namespace Aggregator

/-- In a report without a skip every block, however deep, has the status of the records in it. -/
theorem judged_report {steps : List Step} (h : .skip ∉ steps) (now : Time) :
    ∀ b ∈ subtrees ((empty.run steps).report now).blocks, b.Judged := by
  have hskipped : (empty.run steps).skipped = false := by simp [skipped_run, h, empty]
  have hblocks : ((empty.run steps).report now).blocks = (empty.run steps).blocksAt now := by
    rw [report, hskipped]
    rfl
  rw [hblocks]
  -- being judged asks nothing of the times
  have hcloses : Closes (fun _ => True) TestBlock.Judged := fun _ closedAt truncated _ _ =>
    OpenBlock.judged_finish closedAt truncated
  have htimes : ∀ st ∈ steps, st.At fun _ => True := fun st _ => by cases st <;> exact trivial
  exact throughout_blocksAt hcloses
    (throughout_run (fun o closedAt => hcloses o closedAt false) throughout_empty htimes) trivial

/-- A skip marks every block, and leaves what the report would say without it. -/
theorem report_skipped {steps : List Step} (h : .skip ∈ steps) (now : Time) :
    let r := (empty.run steps).report now
    (∀ b ∈ subtrees r.blocks, b.skip = true ∧ b.status = .skip) ∧
      r.SameRecords ((empty.run (steps.filter (· ≠ .skip))).report now) := by
  intro r
  have hskipped : (empty.run steps).skipped = true := by simp [skipped_run, h]
  have hrun : empty.run (steps.filter (· ≠ .skip)) = { empty.run steps with skipped := false } :=
    run_unskipped empty false steps
  have hr : r =
    ⟨.skip, true, (empty.run steps).records, markSkippedList ((empty.run steps).blocksAt now),
      (empty.run steps).diagnostics ++ (empty.run steps).stack.map unclosed⟩ := by
    simp only [r, report, hskipped, if_true, blocksAt]
  have hcount : ∀ passed, r.count passed =
      ((empty.run (steps.filter (· ≠ .skip))).report now).count passed := by
    intro passed
    -- both reports have the rows of their aggregator, and the flag is no part of them
    rw [TestReport.count_eq, TestReport.count_eq, rows_report, rows_report, hrun]
    rfl
  refine ⟨?_, ?_, ?_, ?_, hcount true, hcount false⟩
  · rw [hr]
    exact skip_of_mem_subtrees _
  · rw [hr, hrun]
    rfl
  · rw [hr, hrun, unmarkedList_markSkipped]
    rfl
  · rw [hr, hrun]
    rfl

/-! ## The status of an instance -/

/-- A report counts records of a verdict if and only if one was recorded. -/
theorem count_pos (passed : Bool) (steps : List Step) (now : Time) :
    0 < ((empty.run steps).report now).count passed ↔
      ∃ message, .append passed message ∈ steps := by
  rw [count_report, List.countP_pos_iff]
  constructor
  · rintro ⟨a, ha, hpassed⟩
    obtain ⟨st, hst, hrecord⟩ := List.mem_filterMap.mp ha
    cases st with
    | append passed' message =>
      cases hrecord
      rw [beq_iff_eq] at hpassed
      exact ⟨message, hpassed ▸ hst⟩
    | openBlock now' name => cases hrecord
    | closeBlock now' name => cases hrecord
    | skip => cases hrecord
  · rintro ⟨message, hst⟩
    exact ⟨⟨passed, message⟩, List.mem_filterMap.mpr ⟨_, hst, rfl⟩, beq_self_eq_true passed⟩

end Aggregator

/-- Whether a call opens a block. -/
def Aggregator.Step.isOpening : Aggregator.Step → Bool
  | .openBlock .. => true
  | _ => false

theorem Ledger.length_blocks_run (l : Ledger) (steps : List Aggregator.Step) :
    (l.run steps).blocks.length = l.blocks.length + steps.countP (·.isOpening) := by
  induction steps generalizing l with
  | nil => rfl
  | cons st rest ih =>
    rw [run, List.foldl_cons, ← run, ih, List.countP_cons]
    cases st with
    | openBlock now name =>
      simp only [step, List.length_append, List.length_singleton, Aggregator.Step.isOpening,
        if_true]
      omega
    | closeBlock now name =>
      have hsame : (l.step (.closeBlock now name)).blocks = l.blocks := by rw [step]; split <;> rfl
      rw [hsame]
      rfl
    | append passed message => rfl
    | skip => rfl

theorem TestReport.blocks_eq_nil_iff (r : TestReport) : r.blocks = [] ↔ r.rows.length = 1 := by
  cases h : r.blocks with
  | nil => simp [rows, h, TestBlock.rowsList]
  | cons b rest =>
    obtain ⟨n, o, c, s, sk, t, records, children⟩ := b
    simp [rows, h, TestBlock.rowsList, TestBlock.rows]

namespace Aggregator

/-- A report has blocks if and only if one was opened. -/
theorem blocks_ne_nil_iff (steps : List Step) (now : Time) :
    ((empty.run steps).report now).blocks ≠ [] ↔ ∃ opened name, .openBlock opened name ∈ steps := by
  have hrows : ((empty.run steps).report now).rows.length = 1 + steps.countP (·.isOpening) := by
    rw [report_rows, Ledger.rows, List.length_map, Ledger.length_blocks_run]
    rfl
  rw [ne_eq, TestReport.blocks_eq_nil_iff, hrows]
  constructor
  · intro h
    obtain ⟨st, hst, hopens⟩ :=
      List.countP_pos_iff.mp (show 0 < steps.countP (·.isOpening) by omega)
    cases st with
    | openBlock opened name => exact ⟨opened, name, hst⟩
    | append passed message => cases hopens
    | closeBlock closed name => cases hopens
    | skip => cases hopens
  · rintro ⟨opened, name, hst⟩
    have hpos : 0 < steps.countP (·.isOpening) := List.countP_pos_iff.mpr ⟨_, hst, rfl⟩
    omega

end Aggregator

/-! ## Statuses -/

/-- What skips, failures and tests amount to. -/
structure TestStatus.Amounts (status : TestStatus) (skipped failed tested : Prop) : Prop where
  skip : skipped → status = .skip
  fail : ¬ skipped → failed → status = .fail
  pass : ¬ skipped → ¬ failed → tested → status = .pass
  none : ¬ skipped → ¬ failed → ¬ tested → status = .none

namespace TestStatus.Amounts

variable {status : TestStatus} {skipped failed tested : Prop}

theorem eq_skip_iff (h : status.Amounts skipped failed tested) : status = .skip ↔ skipped := by
  refine ⟨fun hstatus => Classical.byContradiction fun hskip => ?_, h.skip⟩
  by_cases hfail : failed
  · cases hstatus.symm.trans (h.fail hskip hfail)
  · by_cases htest : tested
    · cases hstatus.symm.trans (h.pass hskip hfail htest)
    · cases hstatus.symm.trans (h.none hskip hfail htest)

theorem eq_fail_iff (h : status.Amounts skipped failed tested) (hskip : ¬ skipped) :
    status = .fail ↔ failed := by
  refine ⟨fun hstatus => Classical.byContradiction fun hfail => ?_, h.fail hskip⟩
  by_cases htest : tested
  · cases hstatus.symm.trans (h.pass hskip hfail htest)
  · cases hstatus.symm.trans (h.none hskip hfail htest)

theorem eq_pass_iff (h : status.Amounts skipped failed tested) (hskip : ¬ skipped)
    (hfail : ¬ failed) :
    status = .pass ↔ tested := by
  refine ⟨fun hstatus => Classical.byContradiction fun htest => ?_, h.pass hskip hfail⟩
  cases hstatus.symm.trans (h.none hskip hfail htest)

end TestStatus.Amounts

namespace Aggregator

/-- Some call makes an assertion or opens a block. -/
def Tests (steps : List Step) : Prop :=
  (∃ passed message, .append passed message ∈ steps) ∨ ∃ opened name, .openBlock opened name ∈ steps

theorem skipped_report (steps : List Step) (now : Time) :
    ((empty.run steps).report now).skipped = true ↔ .skip ∈ steps := by
  have hskipped : ((empty.run steps).report now).skipped = (empty.run steps).skipped := by
    rw [report]
    split <;> rfl
  rw [hskipped, skipped_run]
  simp [empty]

/-- The status of a report is a fact about the calls. -/
theorem amounts (steps : List Step) (now : Time) :
    ((empty.run steps).report now).status.Amounts (.skip ∈ steps)
      (∃ message, .append false message ∈ steps) (Tests steps) := by
  have hfailed := count_pos false steps now
  have hpassed := count_pos true steps now
  have hblocks := blocks_ne_nil_iff steps now
  by_cases hskip : .skip ∈ steps
  · have hskipped : (empty.run steps).skipped = true := by simp [skipped_run, hskip]
    have hstatus : ((empty.run steps).report now).status = .skip := by simp [report, hskipped]
    exact ⟨fun _ => hstatus, fun h => absurd hskip h, fun h => absurd hskip h,
      fun h => absurd hskip h⟩
  · have hskipped : (empty.run steps).skipped = false := by simp [skipped_run, hskip, empty]
    have hstatus : ((empty.run steps).report now).status =
        verdict ((empty.run steps).report now) := by
      rw [report, hskipped]
      rfl
    rw [hstatus, verdict, TestReport.failedCount, TestReport.passedCount]
    refine ⟨fun h => absurd h hskip, fun _ hfail => ?_, fun _ hfail htest =>
      ?_, fun _ hfail htest => ?_⟩
    · rw [if_pos (hfailed.mpr hfail)]
    · rw [if_neg (mt hfailed.mp hfail), if_pos]
      obtain ⟨passed, message, hst⟩ | ⟨opened, name, hst⟩ := htest
      · cases passed with
        | false => exact absurd ⟨message, hst⟩ hfail
        | true => exact .inl (hpassed.mpr ⟨message, hst⟩)
      · exact .inr (hblocks.mpr ⟨opened, name, hst⟩)
    · rw [if_neg (mt hfailed.mp hfail), if_neg]
      rintro (h | h)
      · obtain ⟨message, hst⟩ := hpassed.mp h
        exact htest (.inl ⟨true, message, hst⟩)
      · exact htest (.inr (hblocks.mp h))

end Aggregator

/-! ## Instances and runs -/

/-- An instance at its end: the calls that changed its tests, how it ended, and when its report was
made. -/
structure Ending where
  inst : Instance
  calls : List Aggregator.Step
  status : Status
  endedAt : Time

namespace Ending

def report (e : Ending) : InstanceReport :=
  ({ e.inst with tests := Aggregator.empty.run e.calls } : Instance).report e.endedAt e.status

def Skipped (e : Ending) : Prop := .skip ∈ e.calls

/-- It stopped early, or an assertion failed. -/
def Failed (e : Ending) : Prop := e.status ≠ .success ∨ ∃ message, .append false message ∈ e.calls

/-- It made an assertion or opened a block. -/
def Tested (e : Ending) : Prop := Aggregator.Tests e.calls

theorem isSuccess_iff (status : Status) : status.isSuccess = true ↔ status = .success := by
  cases status <;> simp [Status.isSuccess]

theorem tests_report (e : Ending) :
    ∃ status, e.report.tests = { (Aggregator.empty.run e.calls).report e.endedAt with status } := by
  rw [report, Instance.report]
  dsimp only
  split
  · exact ⟨.fail, rfl⟩
  · exact ⟨_, rfl⟩

theorem skipped_report (e : Ending) : e.report.tests.skipped = true ↔ e.Skipped := by
  obtain ⟨status, htests⟩ := e.tests_report
  rw [htests, Skipped]
  exact Aggregator.skipped_report e.calls e.endedAt

theorem judged_report {e : Ending} (h : ¬ e.Skipped) :
    ∀ b ∈ subtrees e.report.tests.blocks, b.Judged := by
  obtain ⟨status, htests⟩ := e.tests_report
  rw [htests]
  exact Aggregator.judged_report h e.endedAt

/-- The same end after the same calls but for the skips. -/
def unskipped (e : Ending) : Ending := { e with calls := e.calls.filter (· ≠ .skip) }

theorem report_skipped {e : Ending} (h : e.Skipped) :
    (∀ b ∈ subtrees e.report.tests.blocks, b.skip = true ∧ b.status = .skip) ∧
      e.report.tests.SameRecords e.unskipped.report.tests := by
  obtain ⟨status, htests⟩ := e.tests_report
  obtain ⟨status', htests'⟩ := e.unskipped.tests_report
  obtain ⟨hblocks, hsame⟩ := Aggregator.report_skipped h e.endedAt
  rw [htests, htests']
  exact ⟨hblocks, hsame.records, hsame.blocks, hsame.diagnostics, hsame.passedCount,
    hsame.failedCount⟩

/-- The status of an instance is a fact about its calls and how it ended. -/
theorem amounts (e : Ending) : e.report.tests.status.Amounts e.Skipped e.Failed e.Tested := by
  have htests := Aggregator.amounts e.calls e.endedAt
  rw [report, Instance.report]
  by_cases hsuccess : e.status = .success
  · -- the status of the tests stands
    have hfailed : e.Failed ↔ ∃ message, .append false message ∈ e.calls := by
      simp [Failed, hsuccess]
    simp only [hsuccess, Status.isSuccess, Bool.not_true, Bool.false_and, Bool.false_eq_true,
      if_false]
    rw [hfailed]
    exact htests
  · have hfailed : e.Failed := .inl hsuccess
    have hnot : e.status.isSuccess = false := by
      rw [← Bool.not_eq_true, isSuccess_iff]
      exact hsuccess
    by_cases hskip : e.Skipped
    · have hstatus : ((Aggregator.empty.run e.calls).report e.endedAt).status = .skip :=
        htests.skip hskip
      simp only [hstatus, ne_eq, not_true_eq_false, decide_false, Bool.and_false,
        Bool.false_eq_true, if_false]
      exact ⟨fun _ => rfl, fun h => absurd hskip h, fun h => absurd hskip h,
        fun h => absurd hskip h⟩
    · have hstatus : ((Aggregator.empty.run e.calls).report e.endedAt).status ≠ .skip :=
        mt htests.eq_skip_iff.mp hskip
      simp only [hnot, hstatus, ne_eq, not_false_eq_true, decide_true, Bool.not_false,
        Bool.and_true, if_true]
      exact ⟨fun h => absurd h hskip, fun _ _ => rfl, fun _ h => absurd hfailed h,
        fun _ h => absurd hfailed h⟩

end Ending

/-- The status of a run is a fact about the calls of its instances and how they ended. -/
theorem RunReport.amounts (id : Identity) (shared : List (String × Json)) (run : List Ending) :
    (RunReport.ofInstances id (run.map (·.report)) shared).status.Amounts (∃ e ∈ run, e.Skipped)
      (∃ e ∈ run, e.Failed) (∃ e ∈ run, e.Tested) := by
  have hskipped : (run.map (·.report)).any (·.tests.skipped) = true ↔ ∃ e ∈ run, e.Skipped := by
    simp [List.any_eq_true, Ending.skipped_report]
  have hmem : ∀ status, status ∈ (run.map (·.report)).map (·.tests.status) ↔
      ∃ e ∈ run, e.report.tests.status = status := by simp
  rw [status, ofInstances]
  dsimp only
  by_cases hskip : ∃ e ∈ run, e.Skipped
  · rw [if_pos (hskipped.mpr hskip)]
    exact ⟨fun _ => rfl, fun h => absurd hskip h, fun h => absurd hskip h, fun h => absurd hskip h⟩
  · have hnone : ∀ e ∈ run, ¬ e.Skipped := fun e he h => hskip ⟨e, he, h⟩
    rw [if_neg (mt hskipped.mp hskip)]
    have hfailed : .fail ∈ (run.map (·.report)).map (·.tests.status) ↔ ∃ e ∈ run, e.Failed := by
      rw [hmem]
      exact exists_congr fun e => and_congr_right fun he => e.amounts.eq_fail_iff (hnone e he)
    refine ⟨fun h => absurd h hskip, fun _ hfail => ?_, fun _ hfail htest =>
      ?_, fun _ hfail htest => ?_⟩
    · rw [if_pos (hfailed.mpr hfail)]
    all_goals
      have hall : ∀ e ∈ run, ¬ e.Failed := fun e he h => hfail ⟨e, he, h⟩
      have htested : .pass ∈ (run.map (·.report)).map (·.tests.status) ↔ ∃ e ∈ run, e.Tested := by
        rw [hmem]
        exact exists_congr fun e =>
          and_congr_right fun he => e.amounts.eq_pass_iff (hnone e he) (hall e he)
      rw [if_neg (mt hfailed.mp hfail)]
    · rw [if_pos (htested.mpr htest)]
    · rw [if_neg (mt htested.mp htest)]

end ScriptBench
