import ScriptBench.Proofs.Report.Nesting

/-!
What the remarks and the truncated blocks of a report say of the openings and closings.

1. A close that is refused leaves a remark and nothing else (`closeBlock_refused`), so a report has
   a remark for every close that was refused, in their order, and one for every block that is still
   open (`diagnostics_report`).
2. The blocks still open are closed into one another at the end of the report. Nothing else in it is
   truncated, so the truncated blocks are a spine: each the last child of the one above it
   (`spine_report`).
3. A stack of names accepts a word of openings and closings, and is empty after it, exactly if the
   word is nested (`matched_eq_nil_iff`). So a report has no remark if and only if the calls were
   nested by name (`remarks_and_truncation`).
-/
namespace ScriptBench

/-! ## Words -/

/-- An opening or a closing, by name. -/
inductive Bracket where
  | opening (name : String)
  | closing (name : String)
  deriving DecidableEq, Repr

namespace Bracket

/-- Words in which every opening has its closing, of the same name. -/
inductive Nested : List Bracket → Prop where
  | nil : Nested []
  | pair {inner rest : List Bracket} (name : String) (hinner : Nested inner) (hrest : Nested rest) :
    Nested (.opening name :: inner ++ .closing name :: rest)

/-- The names that are open after a word, innermost first, unless one of its closings does not
fit. -/
def matched : List String → List Bracket → Option (List String)
  | names, [] => some names
  | names, .opening name :: word => matched (name :: names) word
  | [], .closing _ :: _ => none
  | current :: names, .closing name :: word => if current = name then matched names word else none

/-- Words that close some names, innermost first, with nested words in between. -/
inductive Unwinds : List String → List Bracket → Prop where
  | nil {word : List Bracket} (h : Nested word) : Unwinds [] word
  | cons {names : List String} {inner rest : List Bracket} (name : String) (hinner : Nested inner)
    (hrest : Unwinds names rest) : Unwinds (name :: names) (inner ++ .closing name :: rest)

variable {names : List String} {word word' : List Bracket}

theorem Nested.append (h : Nested word) (h' : Nested word') : Nested (word ++ word') := by
  induction h with
  | nil => exact h'
  | pair name hinner _ _ ih => simpa using hinner.pair name ih

theorem Unwinds.prepend (h : Nested word) (h' : Unwinds names word') :
    Unwinds names (word ++ word') := by
  cases h' with
  | nil hword => exact .nil (h.append hword)
  | cons name hinner hrest => simpa using Unwinds.cons name (h.append hinner) hrest

theorem matched_append (h : Nested word) (names : List String) (word' : List Bracket) :
    matched names (word ++ word') = matched names word' := by
  induction h generalizing names word' with
  | nil => rfl
  | pair name _ _ ihinner ihrest =>
    rw [List.append_assoc, List.cons_append, List.cons_append, matched, ihinner, matched,
      if_pos rfl, ihrest]

/-- A word after which nothing is open closes what was open before. -/
theorem unwinds_of_matched (h : matched names word = some []) : Unwinds names word := by
  -- on the word, for any names: an opening makes one more name to be closed
  induction word generalizing names with
  | nil =>
    cases h
    exact .nil .nil
  | cons b word ih =>
    cases b with
    | opening name =>
      obtain _ | ⟨_, hinner, hrest⟩ := ih h
      simpa using hrest.prepend (hinner.pair name .nil)
    | closing name =>
      cases names with
      | nil => cases h
      | cons current names =>
        rw [matched] at h
        split at h
        · rename_i hname
          exact hname ▸ .cons current .nil (ih h)
        · cases h

theorem matched_eq_nil_iff (word : List Bracket) : matched [] word = some [] ↔ Nested word := by
  constructor
  · intro h
    cases unwinds_of_matched h with
    | nil hword => exact hword
  · intro h
    rw [← List.append_nil word, matched_append h]
    rfl

end Bracket

/-! ## Truncated blocks -/

namespace TestBlock

theorem markSkippedList_eq_map (bs : List TestBlock) : markSkippedList bs = bs.map markSkipped := by
  induction bs with
  | nil => rfl
  | cons b rest ih => rw [markSkippedList, ih, List.map_cons]

mutual

theorem subtree_markSkipped (b : TestBlock) :
    subtree (markSkipped b) = (subtree b).map markSkipped := by
  obtain ⟨n, o, c, s, sk, t, records, children⟩ := b
  rw [markSkipped, subtree, subtree, List.map_cons, subtrees_markSkipped children, markSkipped]

theorem subtrees_markSkipped (bs : List TestBlock) :
    subtrees (markSkippedList bs) = (subtrees bs).map markSkipped := by
  cases bs with
  | nil => rfl
  | cons b rest =>
    rw [markSkippedList, subtrees, subtrees, List.map_append, subtree_markSkipped b,
      subtrees_markSkipped rest]

end

theorem truncated_markSkipped (b : TestBlock) : (markSkipped b).truncated = b.truncated := by
  obtain ⟨n, o, c, s, sk, t, records, children⟩ := b
  rfl

theorem children_markSkipped (b : TestBlock) :
    (markSkipped b).children = markSkippedList b.children := by
  obtain ⟨n, o, c, s, sk, t, records, children⟩ := b
  rfl

/-- What is in a block by itself, and when it was opened. -/
def own (b : TestBlock) : String × Time × List Assertion := (b.name, b.openedAt, b.records)

theorem own_markSkipped (b : TestBlock) : (markSkipped b).own = b.own := by
  obtain ⟨n, o, c, s, sk, t, records, children⟩ := b
  rfl

/-- Of some blocks and the blocks inside them the last is truncated, and the last child of that one,
and so on down the spine; and no other is. -/
inductive Spine : List TestBlock → List TestBlock → Prop where
  | closed {bs : List TestBlock} (h : ∀ d ∈ subtrees bs, d.truncated = false) : Spine bs []
  | last {bs spine : List TestBlock} {b : TestBlock} (h : ∀ d ∈ subtrees bs, d.truncated = false)
    (hb : b.truncated = true) (hinside : Spine b.children spine) : Spine (bs ++ [b]) (b :: spine)

variable {bs cs spine : List TestBlock}

theorem Spine.prepend (h : ∀ d ∈ subtrees bs, d.truncated = false) (hcs : Spine cs spine) :
    Spine (bs ++ cs) spine := by
  have hboth : ∀ ds, (∀ d ∈ subtrees ds, d.truncated = false) →
      ∀ d ∈ subtrees (bs ++ ds), d.truncated = false := by
    intro ds hds d hd
    rw [subtrees_append] at hd
    exact (List.mem_append.mp hd).elim (h d) (hds d)
  cases hcs with
  | closed hcs => exact .closed (hboth cs hcs)
  | @last ds _ _ hds hb hinside =>
    rw [← List.append_assoc]
    exact .last (hboth ds hds) hb hinside

theorem Spine.markSkipped (h : Spine bs spine) :
    Spine (markSkippedList bs) (spine.map markSkipped) := by
  have hclosed : ∀ ds, (∀ d ∈ subtrees ds, d.truncated = false) →
      ∀ d ∈ subtrees (markSkippedList ds), d.truncated = false := by
    intro ds hds d hd
    rw [subtrees_markSkipped] at hd
    obtain ⟨d', hd', rfl⟩ := List.mem_map.mp hd
    rw [truncated_markSkipped, hds d' hd']
  induction h with
  | closed h => exact .closed (hclosed _ h)
  | @last ds spine b h hb _ ih =>
    rw [markSkippedList_eq_map, List.map_append, ← markSkippedList_eq_map]
    exact .last (hclosed ds h) ((truncated_markSkipped b).trans hb) (children_markSkipped b ▸ ih)

/-- The truncated blocks are those of the spine. -/
theorem Spine.filter_truncated (h : Spine bs spine) :
    (subtrees bs).filter (·.truncated) = spine := by
  have hclosed : ∀ ds, (∀ d ∈ subtrees ds, d.truncated = false) →
      (subtrees ds).filter (·.truncated) = [] := by
    intro ds hds
    rw [List.filter_eq_nil_iff]
    exact fun d hd => by simp [hds d hd]
  induction h with
  | closed h => exact hclosed _ h
  | @last ds spine b h hb _ ih =>
    have hsubtree : subtree b = b :: subtrees b.children := by
      obtain ⟨n, o, c, s, sk, t, records, inside⟩ := b
      rfl
    rw [subtrees_append, List.filter_append, hclosed ds h, List.nil_append, subtrees_singleton,
      hsubtree, List.filter_cons_of_pos hb, ih]

end TestBlock

open TestBlock

/-- What is in an open block by itself, and when it was opened. -/
def OpenBlock.own (o : OpenBlock) : String × Time × List Assertion :=
  (o.name, o.openedAt, o.records)

/-- The opening or closing that a call asks for. -/
def Aggregator.Step.bracket? : Aggregator.Step → Option Bracket
  | .openBlock _ name => some (.opening name)
  | .closeBlock _ name => some (.closing name)
  | .append .. | .skip => none

namespace Aggregator

/-! ## Refused closings -/

theorem closeBlock_refused {g : Aggregator} {now : Time} {name : String}
    (h : (g.closeBlock now name).2 = false) :
    (g.closeBlock now name).1 = { g with diagnostics := g.diagnostics ++ [g.mismatch name] } := by
  rw [closeBlock] at h ⊢
  split
  · rfl
  · rename_i hstack
    rw [hstack] at h
    dsimp only at h ⊢
    split at h
    · cases h
    · rename_i hname
      rw [if_neg hname]

/-- What is remarked on a call. -/
def refusal? (g : Aggregator) : Step → Option Diagnostic
  | .closeBlock now name => if (g.closeBlock now name).2 then none else some (g.mismatch name)
  | _ => none

/-- The remarks on the closes that are refused, in the order of the calls. -/
def refusals (g : Aggregator) : List Step → List Diagnostic
  | [] => []
  | st :: rest => (g.refusal? st).toList ++ refusals (g.step st) rest

theorem diagnostics_attach (block : TestBlock) (g : Aggregator) :
    (attach block g).diagnostics = g.diagnostics := by
  rw [attach]
  split <;> rfl

theorem diagnostics_closeBlock {g : Aggregator} {now : Time} {name : String}
    (h : (g.closeBlock now name).2 = true) :
    (g.closeBlock now name).1.diagnostics = g.diagnostics := by
  rw [closeBlock] at h ⊢
  split
  · rename_i hstack
    rw [hstack] at h
    cases h
  · split
    · exact diagnostics_attach ..
    · rename_i hstack hname
      rw [hstack] at h
      simp [hname] at h

theorem diagnostics_step (g : Aggregator) (st : Step) :
    (g.step st).diagnostics = g.diagnostics ++ (g.refusal? st).toList := by
  cases st with
  | append passed message =>
    rw [step, append]
    split <;> exact (List.append_nil _).symm
  | openBlock now name => exact (List.append_nil _).symm
  | closeBlock now name =>
    rw [step, refusal?]
    split
    · rename_i h
      exact (diagnostics_closeBlock h).trans (List.append_nil _).symm
    · rename_i h
      rw [closeBlock_refused (by simpa using h)]
      rfl
  | skip => exact (List.append_nil _).symm

theorem diagnostics_run (g : Aggregator) (steps : List Step) :
    (g.run steps).diagnostics = g.diagnostics ++ g.refusals steps := by
  induction steps generalizing g with
  | nil => exact (List.append_nil _).symm
  | cons st rest ih =>
    rw [run, List.foldl_cons, ← run, ih, diagnostics_step, refusals, List.append_assoc]

theorem diagnostics_report (steps : List Step) (now : Time) :
    ((empty.run steps).report now).diagnostics =
      empty.refusals steps ++ (empty.run steps).stack.map unclosed := by
  rw [report]
  split <;> exact congrArg (· ++ _) (diagnostics_run empty steps)

theorem kind_mismatch (g : Aggregator) (name : String) :
    (g.mismatch name).kind = .structuralTestMismatch := by
  rw [mismatch]
  split <;> rfl

theorem kind_refusals (g : Aggregator) (steps : List Step) :
    ∀ d ∈ g.refusals steps, d.kind = .structuralTestMismatch := by
  induction steps generalizing g with
  | nil => simp [refusals]
  | cons st rest ih =>
    intro d hd
    rcases List.mem_append.mp hd with hd | hd
    · cases st with
      | closeBlock now name =>
        rw [refusal?] at hd
        split at hd
        · cases hd
        · rw [List.mem_singleton.mp hd, kind_mismatch]
      | append passed message => cases hd
      | openBlock now name => cases hd
      | skip => cases hd
    · exact ih _ d hd

/-! ## The spine of a report -/

/-- Blocks are not truncated while calls are made. -/
theorem throughout_untruncated (steps : List Step) :
    Throughout (fun _ => True) (fun b => b.truncated = false) (empty.run steps) :=
  throughout_run (fun _ _ _ _ => rfl) throughout_empty fun st _ => by cases st <;> exact trivial

/-- The open blocks closed into one another, with a spine inside them. -/
theorem spine_fold (now : Time) {stack : List OpenBlock} {inner : Option TestBlock}
    {spine : List TestBlock} (hstack : ∀ o ∈ stack, ∀ d ∈ subtrees o.children, d.truncated = false)
    (hinner : Spine inner.toList spine) :
    ∃ spine', Spine (fold now stack inner).toList spine' ∧
      spine'.map (·.own) = (stack.map (·.own)).reverse ++ spine.map (·.own) := by
  -- from the innermost outwards: what has been closed so far is the last child of the next
  induction stack generalizing inner spine with
  | nil => exact ⟨spine, hinner, rfl⟩
  | cons o outer ih =>
    let block := { o with children := o.children ++ inner.toList }.finish now true
    have hinside : Spine block.children spine := hinner.prepend (hstack o List.mem_cons_self)
    have hnone : ∀ d ∈ subtrees [], d.truncated = false := by simp [subtrees]
    have hblock : Spine (some block).toList (block :: spine) := Spine.last hnone rfl hinside
    obtain ⟨spine', hspine, hown⟩ :=
      ih (fun o' ho' => hstack o' (List.mem_cons_of_mem _ ho')) hblock
    refine ⟨spine', hspine, hown.trans ?_⟩
    rw [List.map_cons, List.map_cons, List.reverse_cons, List.append_assoc]
    rfl

/-- The blocks still open are the spine of the report, the outermost first. -/
theorem spine_report (steps : List Step) (now : Time) :
    ∃ spine, Spine ((empty.run steps).report now).blocks spine ∧
      spine.map (·.own) = ((empty.run steps).stack.map (·.own)).reverse := by
  have hsteps := throughout_untruncated steps
  have hnone : Spine (none : Option TestBlock).toList [] := .closed (by simp [subtrees])
  obtain ⟨spine, hspine, hown⟩ := spine_fold now (fun o ho => (hsteps.inside o ho).2) hnone
  rw [List.map_nil, List.append_nil] at hown
  have hblocks : Spine ((empty.run steps).blocksAt now) spine := hspine.prepend hsteps.closed
  rw [blocks_report]
  split
  · refine ⟨_, hblocks.markSkipped, ?_⟩
    rw [List.map_map, ← hown]
    exact List.map_congr_left fun b _ => own_markSkipped b
  · exact ⟨spine, hblocks, hown⟩

/-! ## Nesting -/

/-- The calls that are refused none are those that fit what is open. -/
theorem matched_step (g : Aggregator) (st : Step) (word : List Bracket) :
    Bracket.matched (g.stack.map (·.name)) (st.bracket?.toList ++ word) =
      if g.refusal? st = none then Bracket.matched ((g.step st).stack.map (·.name)) word
      else none := by
  obtain ⟨records, stack, closed, diagnostics, skipped⟩ := g
  cases st with
  | append passed message => cases stack <;> rfl
  | openBlock now name => rfl
  | closeBlock now name =>
    cases stack with
    | nil => rfl
    | cons o outer =>
      by_cases hname : o.name = name
      · have hattach :
          (attach (o.finish now false) ⟨records, outer, closed, diagnostics, skipped⟩).stack.map
            (·.name) = outer.map (·.name) := by cases outer <;> rfl
        simp [Step.bracket?, Bracket.matched, refusal?, step, closeBlock, hname, hattach]
      · simp [Step.bracket?, Bracket.matched, refusal?, closeBlock, hname]
  | skip => rfl

theorem matched_run (g : Aggregator) (steps : List Step) :
    Bracket.matched (g.stack.map (·.name)) (steps.filterMap (·.bracket?)) =
      if g.refusals steps = [] then some ((g.run steps).stack.map (·.name)) else none := by
  induction steps generalizing g with
  | nil => rfl
  | cons st rest ih =>
    have hword : (st :: rest).filterMap (·.bracket?) =
        st.bracket?.toList ++ rest.filterMap (·.bracket?) := by
      rw [List.filterMap_cons]
      cases st.bracket? <;> rfl
    rw [hword, matched_step, ih, refusals]
    -- a close that is refused is a closing that does not fit
    cases g.refusal? st with
    | none => exact if_pos rfl
    | some d => exact (if_neg (by simp)).trans (if_neg (by simp)).symm

/-- There is no remark exactly if the calls were nested by name. -/
theorem diagnostics_eq_nil_iff (steps : List Step) (now : Time) :
    ((empty.run steps).report now).diagnostics = [] ↔
      Bracket.Nested (steps.filterMap (·.bracket?)) := by
  have hmatched : Bracket.matched [] (steps.filterMap (·.bracket?)) =
      if empty.refusals steps = [] then some ((empty.run steps).stack.map (·.name)) else none :=
    matched_run empty steps
  rw [← Bracket.matched_eq_nil_iff, hmatched, diagnostics_report, List.append_eq_nil_iff,
    List.map_eq_nil_iff]
  split
  · rename_i hnone
    simp [hnone]
  · rename_i hsome
    simp [hsome]

end Aggregator

/-- Whatever is called, the report has a remark for each close that was refused, in the order of the
calls, and then one for each block that is still open, the innermost first. A close that is refused
leaves all else as it was. The truncated blocks are those still open: the outermost is the last
block of the report, and each other the last child of the one above it. There is no remark exactly
if the calls were nested by name. -/
theorem remarks_and_truncation (steps : List Aggregator.Step) (now : Time) :
    let tests := Aggregator.empty.run steps
    let report := tests.report now
    let refused := Aggregator.empty.refusals steps
    (report.diagnostics = refused ++ tests.stack.map Aggregator.unclosed ∧
        report.diagnostics.map (·.kind) = List.replicate refused.length .structuralTestMismatch ++
          List.replicate tests.stack.length .unclosedTestBlock) ∧
      (∀ closedAt name, (tests.closeBlock closedAt name).2 = false →
        (tests.closeBlock closedAt name).1 =
          { tests with diagnostics := tests.diagnostics ++ [tests.mismatch name] }) ∧
      (∃ spine, Spine report.blocks spine ∧ (subtrees report.blocks).filter (·.truncated) = spine ∧
        spine.map (·.own) = (tests.stack.map (·.own)).reverse) ∧
      (report.diagnostics = [] ↔ Bracket.Nested (steps.filterMap (·.bracket?))) := by
  intro tests report refused
  have hdiagnostics : report.diagnostics = refused ++ tests.stack.map Aggregator.unclosed :=
    Aggregator.diagnostics_report steps now
  obtain ⟨spine, hspine, hown⟩ := Aggregator.spine_report steps now
  refine ⟨⟨hdiagnostics, ?_⟩, fun _ _ => Aggregator.closeBlock_refused,
    ⟨spine, hspine, hspine.filter_truncated, hown⟩, Aggregator.diagnostics_eq_nil_iff steps now⟩
  rw [hdiagnostics, List.map_append, List.map_map,
    List.map_eq_replicate_iff.mpr (Aggregator.kind_refusals _ steps)]
  exact congrArg (_ ++ ·) (List.map_eq_replicate_iff.mpr fun _ _ => rfl)

end ScriptBench
