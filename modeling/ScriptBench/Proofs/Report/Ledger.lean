import ScriptBench.Proofs.Report.Rows

/-!
No assertion is lost, repeated or misplaced.

The ledger is what a list of calls says by itself, without trees: the chain of the blocks open now,
every chain there has been in the order of opening, and every record beside the chain that was open
when it came. A close that does not name the innermost block changes nothing in it.

1. `Ledger.Sound` holds of every ledger: chains differ, and what is around a chain is one
   (`sound_run`).
2. An aggregator that has the rows of a ledger keeps them under every call (`follows_step`).
3. So the rows of every report are those of the ledger of its calls
   (`every_record_is_in_its_block`).
-/
namespace ScriptBench

/-- What some calls say of blocks and records. -/
structure Ledger where
  /-- The blocks open now. -/
  chain : Chain
  /-- Every chain there has been, in the order of opening; outside of all blocks comes first. -/
  blocks : List Chain
  /-- Every record with the chain that was open when it came. -/
  appended : List (Chain × Assertion)

namespace Ledger

def empty : Ledger := ⟨[], [[]], []⟩

def step (l : Ledger) : Aggregator.Step → Ledger
  | .append passed message => { l with appended := l.appended ++ [(l.chain, ⟨passed, message⟩)] }
  | .openBlock now name =>
    let here : Chain := ⟨l.blocks.length, name, now⟩ :: l.chain
    { l with chain := here, blocks := l.blocks ++ [here] }
  | .closeBlock _ name =>
    if l.chain.head?.map (·.name) = some name then { l with chain := l.chain.tail } else l
  | .skip => l

def run (l : Ledger) (steps : List Aggregator.Step) : Ledger := steps.foldl step l

/-- The records that came under a chain, in their order. -/
def recordsOf (l : Ledger) (c : Chain) : List Assertion := (l.appended.filter (·.1 = c)).map (·.2)

/-- Every block with its records, in the order of opening. -/
def rows (l : Ledger) : List Row := l.blocks.map fun c => (c, l.recordsOf c)

/-- What holds of the ledger of any calls. -/
structure Sound (l : Ledger) : Prop where
  current : l.chain ∈ l.blocks
  around : ∀ c ∈ l.blocks, c.tail ∈ l.blocks
  numbered : ∀ c ∈ l.blocks, ∀ o ∈ c, o.number < l.blocks.length
  nodup : l.blocks.Nodup
  placed : ∀ e ∈ l.appended, e.1 ∈ l.blocks

theorem sound_empty : Sound empty where
  current := by simp [empty]
  around := by simp [empty]
  numbered := by simp [empty]
  nodup := by simp [empty]
  placed := by simp [empty]

theorem Sound.fresh {l : Ledger} (hl : Sound l) (name : String) (now : Time) (c : Chain) :
    ⟨l.blocks.length, name, now⟩ :: c ∉ l.blocks := fun h =>
  Nat.lt_irrefl _ (hl.numbered _ h _ List.mem_cons_self)

theorem sound_openBlock {l : Ledger} (hl : Sound l) (now : Time) (name : String) :
    Sound (l.step (.openBlock now name)) where
  current := by simp [step]
  around c hc := by
    rcases List.mem_append.mp hc with hc | hc
    · exact List.mem_append_left _ (hl.around c hc)
    · rw [List.mem_singleton.mp hc]
      exact List.mem_append_left _ hl.current
  numbered c hc o ho := by
    simp only [step, List.length_append, List.length_singleton]
    rcases List.mem_append.mp hc with hc | hc
    · exact Nat.lt_succ_of_lt (hl.numbered c hc o ho)
    · rw [List.mem_singleton.mp hc] at ho
      rcases List.mem_cons.mp ho with rfl | ho
      · exact Nat.lt_succ_self _
      · exact Nat.lt_succ_of_lt (hl.numbered _ hl.current o ho)
  nodup := by
    refine List.nodup_append.mpr ⟨hl.nodup, by simp, ?_⟩
    rintro c hc c' hc' rfl
    rw [List.mem_singleton.mp hc'] at hc
    exact hl.fresh name now l.chain hc
  placed e he := List.mem_append_left _ (hl.placed e he)

theorem sound_step {l : Ledger} (hl : Sound l) (st : Aggregator.Step) : Sound (l.step st) := by
  cases st with
  | append passed message =>
    refine { hl with placed := fun e he => ?_ }
    rcases List.mem_append.mp he with he | he
    · exact hl.placed e he
    · rw [List.mem_singleton.mp he]
      exact hl.current
  | openBlock now name => exact sound_openBlock hl now name
  | closeBlock now name =>
    rw [step]
    split
    · exact { hl with current := hl.around _ hl.current }
    · exact hl
  | skip => exact hl

theorem sound_run {l : Ledger} (hl : Sound l) (steps : List Aggregator.Step) :
    Sound (l.run steps) := by
  induction steps generalizing l with
  | nil => exact hl
  | cons st rest ih => exact ih (sound_step hl st)

/-! ## The rows of a ledger -/

theorem recordsOf_append (l : Ledger) (passed : Bool) (message : String) (c : Chain) :
    (l.step (.append passed message)).recordsOf c =
      l.recordsOf c ++ if l.chain = c then [⟨passed, message⟩] else [] := by
  by_cases h : l.chain = c <;> simp [recordsOf, step, h]

theorem rows_append {l : Ledger} (hl : Sound l) {before after : List Row} {records : List Assertion}
    (h : l.rows = before ++ (l.chain, records) :: after) (passed : Bool) (message : String) :
    (l.step (.append passed message)).rows =
      before ++ (l.chain, records ++ [⟨passed, message⟩]) :: after := by
  obtain ⟨bs, rest, hblocks, hbefore, hrest⟩ := List.map_eq_append_iff.mp h
  obtain ⟨c, cs, rfl, hc, hafter⟩ := List.map_eq_cons_iff.mp hrest
  obtain ⟨hchain, hrecords⟩ := Prod.mk.inj hc
  -- no other block has this chain
  have hnodup := hblocks ▸ hl.nodup
  have hbs : ∀ b ∈ bs, l.chain ≠ b := fun b hb heq =>
    (List.nodup_append.mp hnodup).2.2 b hb c List.mem_cons_self (heq.symm.trans hchain.symm)
  have hcs : ∀ b ∈ cs, l.chain ≠ b := fun b hb heq =>
    (List.nodup_cons.mp (List.nodup_append.mp hnodup).2.1).1 (hchain.trans heq ▸ hb)
  have hkept : ∀ xs : List Chain, (∀ b ∈ xs, l.chain ≠ b) →
      xs.map (fun b => (b, (l.step (.append passed message)).recordsOf b)) =
        xs.map fun b => (b, l.recordsOf b) := fun xs hxs =>
    List.map_congr_left fun b hb => by simp [recordsOf_append, hxs b hb]
  rw [rows, show (l.step (.append passed message)).blocks = bs ++ c :: cs from hblocks,
    List.map_append, List.map_cons, hkept bs hbs, hkept cs hcs, hbefore, hafter, recordsOf_append,
    hrecords, hchain, if_pos rfl]

theorem rows_openBlock {l : Ledger} (hl : Sound l) (now : Time) (name : String) :
    (l.step (.openBlock now name)).rows =
      l.rows ++ [(⟨l.rows.length, name, now⟩ :: l.chain, [])] := by
  -- a record under the new chain would have come under a chain there was before
  have hnone : l.recordsOf (⟨l.blocks.length, name, now⟩ :: l.chain) = [] := by
    rw [recordsOf, List.map_eq_nil_iff, List.filter_eq_nil_iff]
    intro e he heq
    exact hl.fresh name now l.chain (of_decide_eq_true heq ▸ hl.placed e he)
  have hsame : (l.step (.openBlock now name)).recordsOf = l.recordsOf := rfl
  rw [rows, rows, hsame, List.length_map, step, List.map_append, List.map_singleton, hnone]

theorem placed_filter (appended : List (Chain × Assertion)) {blocks : List Chain}
    (h : blocks.Nodup) :
    (blocks.flatMap fun c => appended.filter (·.1 = c)).Perm (appended.filter (·.1 ∈ blocks)) := by
  induction blocks with
  | nil => simp
  | cons c rest ih =>
    obtain ⟨hc, hrest⟩ := List.nodup_cons.mp h
    -- the records under `c`, and the others
    have hunder : (appended.filter (·.1 ∈ c :: rest)).filter (·.1 = c) =
        appended.filter (·.1 = c) := by
      rw [List.filter_filter]
      exact List.filter_congr fun e _ => by by_cases he : e.1 = c <;> simp [he]
    have hothers : (appended.filter (·.1 ∈ c :: rest)).filter (fun e => !decide (e.1 = c)) =
        appended.filter (·.1 ∈ rest) := by
      rw [List.filter_filter]
      exact List.filter_congr fun e _ => by by_cases he : e.1 = c <;> simp [he, hc]
    have hsplit := List.filter_append_perm (·.1 = c) (appended.filter (·.1 ∈ c :: rest))
    rw [hunder, hothers] at hsplit
    rw [List.flatMap_cons]
    exact ((ih hrest).append_left _).trans hsplit

/-- Every record is in the row of its chain, once. -/
theorem placed_perm {l : Ledger} (hl : Sound l) : (Row.placed l.rows).Perm l.appended := by
  have hplaced : Row.placed l.rows = l.blocks.flatMap fun c => l.appended.filter (·.1 = c) := by
    rw [Row.placed, rows, List.flatMap_map]
    congr 1
    funext c
    have hchain : ∀ e ∈ l.appended.filter (·.1 = c), ((c, ·) ∘ (·.2)) e = e := fun e he => by
      have hc : e.1 = c := by simpa using (List.mem_filter.mp he).2
      rw [← hc]
      rfl
    rw [recordsOf, List.map_map, List.map_congr_left hchain, List.map_id']
  rw [hplaced]
  refine (placed_filter l.appended hl.nodup).trans (.of_eq ?_)
  exact List.filter_eq_self.mpr fun e he => by simp [hl.placed e he]

/-- The record a call appends. -/
def record? : Aggregator.Step → Option Assertion
  | .append passed message => some ⟨passed, message⟩
  | _ => none

theorem appended_run (l : Ledger) (steps : List Aggregator.Step) :
    (l.run steps).appended.map (·.2) = l.appended.map (·.2) ++ steps.filterMap record? := by
  induction steps generalizing l with
  | nil => simp [run]
  | cons st rest ih =>
    rw [run, List.foldl_cons, ← run, ih, List.filterMap_cons]
    cases st with
    | append passed message => simp [step, record?]
    | openBlock now name => rfl
    | closeBlock now name =>
      rw [step]
      split <;> rfl
    | skip => rfl

end Ledger

namespace Aggregator

/-- An aggregator that has the rows of a ledger. -/
structure Follows (g : Aggregator) (l : Ledger) : Prop where
  chain : g.chain = l.chain
  rows : g.rows = l.rows

theorem follows_step {g : Aggregator} {l : Ledger} (hl : l.Sound) (h : Follows g l) (st : Step) :
    Follows (g.step st) (l.step st) := by
  cases st with
  | append passed message =>
    obtain ⟨hchain, before, records, after, hrows, hrows'⟩ := g.rows_append passed message
    rw [h.chain, h.rows] at hrows
    exact ⟨hchain.trans h.chain, by rw [step, hrows', h.chain, l.rows_append hl hrows]⟩
  | openBlock now name =>
    obtain ⟨hchain, hrows⟩ := g.rows_openBlock now name
    refine ⟨?_, ?_⟩
    · rw [step, hchain, h.chain, h.rows, Ledger.rows, List.length_map]
      rfl
    · rw [step, hrows, h.chain, h.rows, l.rows_openBlock hl]
  | closeBlock now name =>
    obtain ⟨hchain, hrows⟩ := g.rows_closeBlock now name
    rw [h.chain] at hchain
    simp only [step, Ledger.step]
    split
    · rename_i hname
      exact ⟨by rw [hchain, if_pos hname], hrows.trans h.rows⟩
    · rename_i hname
      exact ⟨by rw [hchain, if_neg hname], hrows.trans h.rows⟩
  | skip => exact ⟨h.chain, h.rows⟩

theorem follows_run {g : Aggregator} {l : Ledger} (hl : l.Sound) (h : Follows g l)
    (steps : List Step) :
    Follows (g.run steps) (l.run steps) := by
  induction steps generalizing g l with
  | nil => exact h
  | cons st rest ih => exact ih (Ledger.sound_step hl st) (follows_step hl h st)

theorem follows_empty : Follows empty .empty := ⟨rfl, rfl⟩

/-- The rows of a report are those of the ledger of its calls. -/
theorem report_rows (steps : List Step) (now : Time) :
    ((empty.run steps).report now).rows = (Ledger.empty.run steps).rows := by
  rw [rows_report, (follows_run Ledger.sound_empty follows_empty steps).rows]

/-- What a report counts are the records that were appended. -/
theorem count_report (passed : Bool) (steps : List Step) (now : Time) :
    ((empty.run steps).report now).count passed =
      (steps.filterMap Ledger.record?).countP (·.passed == passed) := by
  have hl : (Ledger.empty.run steps).Sound := Ledger.sound_run Ledger.sound_empty steps
  have happended := Ledger.appended_run .empty steps
  rw [show Ledger.empty.appended = [] from rfl, List.map_nil, List.nil_append] at happended
  rw [TestReport.count_eq, report_rows, Row.count, (Ledger.placed_perm hl).countP_eq, ← happended,
    List.countP_map]
  rfl

end Aggregator

/-- Whatever is called, the report has one row for each block that was opened, in the order of
opening, with the records that came while that block was the innermost, in their order. Every record
is in one row, under the blocks that were open when it came, and the report counts them all. -/
theorem every_record_is_in_its_block (steps : List Aggregator.Step) (now : Time) :
    let report := (Aggregator.empty.run steps).report now
    let calls := Ledger.empty.run steps
    report.rows = calls.blocks.map (fun c => (c, (calls.appended.filter (·.1 = c)).map (·.2))) ∧
      calls.blocks.Nodup ∧
      (Row.placed report.rows).Perm calls.appended ∧
      calls.appended.map (·.2) = steps.filterMap Ledger.record? ∧
      report.passedCount = (steps.filterMap Ledger.record?).countP (·.passed) ∧
      report.failedCount = (steps.filterMap Ledger.record?).countP (!·.passed) := by
  intro report calls
  have hl : calls.Sound := Ledger.sound_run Ledger.sound_empty steps
  have hrows : report.rows = calls.rows := Aggregator.report_rows steps now
  refine ⟨hrows, hl.nodup, hrows ▸ Ledger.placed_perm hl, Ledger.appended_run .empty steps, ?_, ?_⟩
  · have htrue := Aggregator.count_report true steps now
    simp only [beq_true] at htrue
    exact htrue
  · have hfalse := Aggregator.count_report false steps now
    simp only [beq_false] at hfalse
    exact hfalse

end ScriptBench
