import ScriptBench.Proofs.Report.Verdicts

/-!
How deep the blocks of a report are nested, and the times in it.

1. Marking blocks as skipped moves none of them (`levelsList_markSkipped`) and changes no time
   (`dated_markSkipped`).
2. A call leaves the depth as it is, or raises it to the number of open blocks (`levels_step`); so a
   report is nested as deep as there were ever blocks open at once (`levels_report`).
3. When the calls come at moments of the calendar, every time in the report is one (`dated_report`).
-/
namespace ScriptBench

namespace TestBlock

mutual

/-- How many blocks are nested in one another, the outermost counted. -/
def levels : TestBlock → Nat
  | mk _ _ _ _ _ _ _ children => levelsList children + 1

def levelsList : List TestBlock → Nat
  | [] => 0
  | b :: rest => max (levels b) (levelsList rest)

end

@[simp] theorem levelsList_nil : levelsList [] = 0 := rfl

@[simp] theorem levelsList_cons (b : TestBlock) (rest : List TestBlock) :
    levelsList (b :: rest) = max b.levels (levelsList rest) := rfl

@[simp] theorem levelsList_append (bs cs : List TestBlock) :
    levelsList (bs ++ cs) = max (levelsList bs) (levelsList cs) := by
  induction bs with
  | nil => simp
  | cons b rest ih => rw [List.cons_append, levelsList_cons, levelsList_cons, ih, Nat.max_assoc]

mutual

theorem levels_markSkipped (b : TestBlock) : (markSkipped b).levels = b.levels := by
  obtain ⟨n, o, c, s, sk, t, records, children⟩ := b
  rw [markSkipped, levels, levels, levelsList_markSkipped children]

theorem levelsList_markSkipped (bs : List TestBlock) :
    levelsList (markSkippedList bs) = levelsList bs := by
  cases bs with
  | nil => rfl
  | cons b rest =>
    rw [markSkippedList, levelsList_cons, levelsList_cons, levels_markSkipped b,
      levelsList_markSkipped rest]

end

/-- Opened and closed at moments of the calendar. -/
def Dated (b : TestBlock) : Prop := b.openedAt.isValid = true ∧ b.closedAt.isValid = true

mutual

theorem dated_markSkipped (b : TestBlock) (h : ∀ d ∈ b.subtree, d.Dated) :
    ∀ d ∈ (markSkipped b).subtree, d.Dated := by
  obtain ⟨n, o, c, s, sk, t, records, children⟩ := b
  intro d hd
  rw [markSkipped, subtree] at hd
  rcases List.mem_cons.mp hd with rfl | hd
  · exact h (mk n o c s sk t records children) List.mem_cons_self
  · exact dated_markSkippedList children (fun d hd => h d (List.mem_cons_of_mem _ hd)) d hd

theorem dated_markSkippedList (bs : List TestBlock) (h : ∀ d ∈ subtrees bs, d.Dated) :
    ∀ d ∈ subtrees (markSkippedList bs), d.Dated := by
  cases bs with
  | nil => exact h
  | cons b rest =>
    intro d hd
    rw [markSkippedList, subtrees] at hd
    rcases List.mem_append.mp hd with hd | hd
    · exact dated_markSkipped b (fun d hd => h d (List.mem_append_left _ hd)) d hd
    · exact dated_markSkippedList rest (fun d hd => h d (List.mem_append_right _ hd)) d hd

end

end TestBlock

open TestBlock

theorem OpenBlock.levels_finish (o : OpenBlock) (closedAt : Time) (truncated : Bool) :
    (o.finish closedAt truncated).levels = levelsList o.children + 1 := rfl

namespace Aggregator

/-! ## Depth -/

/-- How deep blocks are nested in open ones, those around them counted; the innermost stands
first. -/
def openLevels : List OpenBlock → Nat
  | [] => 0
  | o :: outer => max (levelsList o.children + (outer.length + 1)) (openLevels outer)

/-- How deep blocks are nested so far. -/
def levels (g : Aggregator) : Nat := max (levelsList g.closed) (openLevels g.stack)

/-- The greatest number of blocks that are open at once while calls are made. -/
def mostOpen (g : Aggregator) : List Step → Nat
  | [] => g.stack.length
  | st :: rest => max g.stack.length (mostOpen (g.step st) rest)

theorem length_le_openLevels (stack : List OpenBlock) : stack.length ≤ openLevels stack := by
  cases stack with
  | nil => exact Nat.zero_le _
  | cons o outer =>
    rw [openLevels, List.length_cons]
    omega

theorem length_le_levels (g : Aggregator) : g.stack.length ≤ g.levels :=
  Nat.le_trans (length_le_openLevels g.stack) (Nat.le_max_right _ _)

/-- Closing the innermost block leaves it where it was, one level inside the block around it. -/
theorem levels_attach (g : Aggregator) (block : TestBlock) :
    (attach block g).levels = max g.levels (g.stack.length + block.levels) := by
  obtain ⟨records, stack, closed, diagnostics, skipped⟩ := g
  cases stack with
  | nil =>
    simp only [levels, attach, openLevels, levelsList_append, levelsList_cons, levelsList_nil,
      List.length_nil]
    omega
  | cons o outer =>
    simp only [levels, attach, openLevels, levelsList_append, levelsList_cons, levelsList_nil,
      List.length_cons]
    omega

/-- A call leaves the depth as it is, or raises it to the number of open blocks. -/
theorem levels_step (g : Aggregator) (st : Step) :
    (g.step st).levels = max g.levels (g.step st).stack.length := by
  have hlength : g.stack.length ≤ g.levels := length_le_levels g
  obtain ⟨records, stack, closed, diagnostics, skipped⟩ := g
  cases st with
  | append passed message =>
    cases stack with
    | nil => exact (Nat.max_eq_left hlength).symm
    | cons o outer => exact (Nat.max_eq_left hlength).symm
  | openBlock now name =>
    simp only [step, openBlock, levels, openLevels, levelsList_nil, List.length_cons]
    omega
  | closeBlock now name =>
    simp only [step, closeBlock]
    cases stack with
    | nil => exact (Nat.max_eq_left hlength).symm
    | cons o outer =>
      dsimp only
      split
      · -- the block was counted among the open ones
        have hattach :=
          levels_attach ⟨records, outer, closed, diagnostics, skipped⟩ (o.finish now false)
        have hstack :
          (attach (o.finish now false)
          ⟨records, outer, closed, diagnostics, skipped⟩).stack.length =
            outer.length := by cases outer <;> rfl
        rw [hattach, hstack, OpenBlock.levels_finish]
        simp only [levels, openLevels]
        omega
      · exact (Nat.max_eq_left hlength).symm
  | skip => exact (Nat.max_eq_left hlength).symm

theorem levels_run (g : Aggregator) (steps : List Step) :
    (g.run steps).levels = max g.levels (g.mostOpen steps) := by
  induction steps generalizing g with
  | nil => exact (Nat.max_eq_left (length_le_levels g)).symm
  | cons st rest ih =>
    have hlength : g.stack.length ≤ g.levels := length_le_levels g
    have hopen : (g.step st).stack.length ≤ (g.step st).mostOpen rest := by
      cases rest with
      | nil => exact Nat.le_refl _
      | cons st' rest => exact Nat.le_max_left _ _
    calc (g.run (st :: rest)).levels
        = max (g.step st).levels ((g.step st).mostOpen rest) := ih (g.step st)
      _ = max (max g.levels (g.step st).stack.length) ((g.step st).mostOpen rest) := by
        rw [levels_step]
      _ = max g.levels (g.mostOpen (st :: rest)) := by
        rw [mostOpen]
        omega

theorem levelsList_fold (now : Time) (stack : List OpenBlock) (inner : Option TestBlock) :
    levelsList (fold now stack inner).toList =
      max (openLevels stack) (stack.length + levelsList inner.toList) := by
  induction stack generalizing inner with
  | nil => simp [fold, openLevels]
  | cons o outer ih =>
    rw [fold, ih, openLevels, Option.toList_some, levelsList_cons, OpenBlock.levels_finish,
      List.length_cons, levelsList_append, levelsList_nil]
    omega

theorem levelsList_blocksAt (g : Aggregator) (now : Time) :
    levelsList (g.blocksAt now) = g.levels := by
  have hlength : g.stack.length ≤ openLevels g.stack := length_le_openLevels g.stack
  rw [blocksAt, levelsList_append, levelsList_fold, Option.toList_none, levelsList_nil, levels]
  omega

theorem blocks_report (g : Aggregator) (now : Time) :
    (g.report now).blocks = if g.skipped then markSkippedList (g.blocksAt now)
      else g.blocksAt now := by
  rw [report]
  split <;> rfl

/-- A report is nested as deep as blocks were ever open at once. -/
theorem levels_report (steps : List Step) (now : Time) :
    levelsList ((empty.run steps).report now).blocks = empty.mostOpen steps := by
  have hrun : (empty.run steps).levels = empty.mostOpen steps := by
    rw [levels_run]
    exact Nat.max_eq_right (Nat.zero_le _)
  rw [blocks_report]
  split
  · rw [levelsList_markSkipped, levelsList_blocksAt, hrun]
  · rw [levelsList_blocksAt, hrun]

/-! ## Times -/

/-- The call comes at a moment of the calendar, if it takes the time at all. -/
abbrev Step.Timely (st : Step) : Prop := st.At (·.isValid = true)

theorem dated_report {steps : List Step} (hsteps : ∀ st ∈ steps, st.Timely) {now : Time}
    (hnow : now.isValid = true) :
    ∀ b ∈ subtrees ((empty.run steps).report now).blocks, b.Dated := by
  have hcloses : Closes (·.isValid = true) TestBlock.Dated := fun _ _ _ hopened hclosed =>
    ⟨hopened, hclosed⟩
  have hblocks := throughout_blocksAt hcloses
    (throughout_run (fun o closedAt => hcloses o closedAt false) throughout_empty hsteps) hnow
  rw [blocks_report]
  split
  · exact dated_markSkippedList _ hblocks
  · exact hblocks

end Aggregator

end ScriptBench
