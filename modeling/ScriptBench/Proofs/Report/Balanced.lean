import ScriptBench.Report.Aggregator

/-!
Balanced sequences of calls on the tests.

A sequence is balanced if whatever it opens it closes, innermost first. What it records itself, and
the blocks it closes itself, are its own.

1. A balanced sequence adds its own records and blocks to the innermost open block, or to the top if
   none is open, and changes nothing else but that it may skip the tests (`run_balanced`).
2. So a balanced sequence between an opening and a closing adds one closed block (`run_bracketed`).
-/
namespace ScriptBench

/-- A block with what was recorded in it, opened and closed in time. -/
def TestBlock.closed (name : String) (openedAt closedAt : Time) (records : List Assertion)
    (children : List TestBlock) : TestBlock :=
  (OpenBlock.mk name openedAt records children).finish closedAt false

namespace Aggregator

/-- The tests with more records and blocks in the innermost open block, and maybe skipped. -/
def gain (g : Aggregator) (records : List Assertion) (blocks : List TestBlock) (skips : Bool) :
    Aggregator :=
  match g.stack with
  | [] =>
    { g with
      records := g.records ++ records
      closed := g.closed ++ blocks
      skipped := g.skipped || skips }
  | b :: outer =>
    { g with
      stack := { b with records := b.records ++ records, children := b.children ++ blocks } :: outer
      skipped := g.skipped || skips }

/-- The sequence is balanced, with records and blocks of its own. -/
inductive Balanced : List Step → List Assertion → List TestBlock → Prop where
  | nil : Balanced [] [] []
  | append {steps : List Step} {records : List Assertion} {blocks : List TestBlock}
    (h : Balanced steps records blocks) (passed : Bool) (message : String) :
    Balanced (steps ++ [.append passed message]) (records ++ [⟨passed, message⟩]) blocks
  | skip {steps : List Step} {records : List Assertion} {blocks : List TestBlock}
    (h : Balanced steps records blocks) : Balanced (steps ++ [.skip]) records blocks
  | block {steps inner : List Step} {records innerRecords : List Assertion}
    {blocks innerBlocks : List TestBlock} (h : Balanced steps records blocks)
    (hinner : Balanced inner innerRecords innerBlocks) (name : String) (openedAt closedAt : Time) :
    Balanced (steps ++ .openBlock openedAt name :: inner ++ [.closeBlock closedAt name]) records
      (blocks ++ [.closed name openedAt closedAt innerRecords innerBlocks])

variable {g : Aggregator} {records records' : List Assertion} {blocks blocks' : List TestBlock}
  {skips skips' : Bool}

theorem gain_nothing (g : Aggregator) : g.gain [] [] false = g := by
  obtain ⟨rs, stack, closed, diagnostics, skipped⟩ := g
  cases stack <;> simp [gain]

theorem gain_gain (g : Aggregator) : (g.gain records blocks skips).gain records' blocks' skips' =
    g.gain (records ++ records') (blocks ++ blocks') (skips || skips') := by
  obtain ⟨rs, stack, closed, diagnostics, skipped⟩ := g
  cases stack <;> simp [gain, List.append_assoc, Bool.or_assoc]

theorem gain_keeps (g : Aggregator) :
    (g.gain records blocks skips).openNames = g.openNames ∧
      (g.gain records blocks skips).diagnostics = g.diagnostics := by
  obtain ⟨rs, stack, closed, diagnostics, skipped⟩ := g
  cases stack <;> exact ⟨rfl, rfl⟩

theorem append_eq_gain (g : Aggregator) (passed : Bool) (message : String) :
    g.append passed message = g.gain [⟨passed, message⟩] [] false := by
  obtain ⟨rs, stack, closed, diagnostics, skipped⟩ := g
  cases stack <;> simp [gain, append]

theorem skip_eq_gain (g : Aggregator) : g.skip = g.gain [] [] true := by
  obtain ⟨rs, stack, closed, diagnostics, skipped⟩ := g
  cases stack <;> simp [gain, skip]

/-- What was gained in a block since it was opened is in it when it is closed. -/
theorem close_gain_open (g : Aggregator) (name : String) (openedAt closedAt : Time) :
    (((g.openBlock openedAt name).gain records blocks skips).closeBlock closedAt name).1 =
      g.gain [] [.closed name openedAt closedAt records blocks] skips := by
  obtain ⟨rs, stack, closed, diagnostics, skipped⟩ := g
  cases stack <;> simp [gain, openBlock, closeBlock, attach, TestBlock.closed]

theorem run_append (g : Aggregator) (steps steps' : List Step) :
    g.run (steps ++ steps') = (g.run steps).run steps' :=
  List.foldl_append

/-- A balanced sequence adds its own records and blocks. -/
theorem run_balanced {steps : List Step} (h : Balanced steps records blocks) (g : Aggregator) :
    g.run steps = g.gain records blocks (decide (.skip ∈ steps)) := by
  induction h generalizing g with
  | nil => exact (gain_nothing g).symm
  | append h passed message ih =>
    rw [run_append, ih]
    show (g.gain _ _ _).append passed message = _
    rw [append_eq_gain, gain_gain]
    simp
  | skip h ih =>
    rw [run_append, ih]
    show (g.gain _ _ _).skip = _
    rw [skip_eq_gain, gain_gain]
    simp
  | @block steps inner _ innerRecords _ innerBlocks h hinner name openedAt closedAt ih ihinner =>
    have hinside : (g.run steps).run
      (.openBlock openedAt name :: inner ++ [.closeBlock closedAt name]) =
        (((g.run steps).openBlock openedAt name).run inner |>.closeBlock closedAt name).1 := by
      rw [run_append]
      rfl
    rw [List.append_assoc, run_append, hinside, ihinner, close_gain_open, ih, gain_gain]
    simp

/-- Between an opening and a closing a balanced sequence makes one block. -/
theorem run_bracketed {inner : List Step} (h : Balanced inner records blocks) (g : Aggregator)
    (name : String) (openedAt closedAt : Time) :
    g.run (.openBlock openedAt name :: inner ++ [.closeBlock closedAt name]) =
      g.gain [] [.closed name openedAt closedAt records blocks] (decide (.skip ∈ inner)) := by
  have hblock := run_balanced (Balanced.nil.block h name openedAt closedAt) g
  simpa using hblock

theorem Balanced.trans {steps steps' : List Step} (h : Balanced steps records blocks)
    (h' : Balanced steps' records' blocks') :
    Balanced (steps ++ steps') (records ++ records') (blocks ++ blocks') := by
  induction h' with
  | nil => simpa using h
  | append _ passed message ih => simpa [List.append_assoc] using ih.append passed message
  | skip _ ih => simpa [List.append_assoc] using ih.skip
  | block _ hinner name openedAt closedAt ih _ =>
    simpa [List.append_assoc] using ih.block hinner name openedAt closedAt

end Aggregator

end ScriptBench
