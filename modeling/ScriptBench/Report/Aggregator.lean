import ScriptBench.Report.Tests

/-!
Gathering assertions into nested blocks while scripts run.

Open blocks form a stack. A record goes to the innermost open block, a closed block becomes the last
child of the block around it, and closing anything but the innermost block changes nothing and
leaves a diagnostic. A report closes what is still open, innermost first, without changing the
state.

This is `TestAggregator`: `append_assert` (here `append`), `open_test` (`openBlock`), `close_test`
(`closeBlock`), `test_skip` (`skip`), `open_blocks` (`openNames`) and `report`.
-/
namespace ScriptBench

/-- A block that is still open. -/
structure OpenBlock where
  name : String
  openedAt : Time
  records : List Assertion
  children : List TestBlock
  deriving Inhabited

/-- The block closed: it fails if a record in it failed. -/
def OpenBlock.finish (b : OpenBlock) (closedAt : Time) (truncated : Bool) : TestBlock :=
  let passed := b.records.all (·.passed) && TestBlock.allPassedList b.children
  .mk b.name b.openedAt closedAt (if passed then .pass else .fail)
    false truncated b.records b.children

/-- The tests of an instance so far; `stack` has the innermost open block first. -/
structure Aggregator where
  records : List Assertion
  stack : List OpenBlock
  closed : List TestBlock
  diagnostics : List Diagnostic
  skipped : Bool
  deriving Inhabited

namespace Aggregator

def empty : Aggregator := ⟨[], [], [], [], false⟩

/-- Records the result of an assertion in the innermost open block. -/
def append (g : Aggregator) (passed : Bool) (message : String) : Aggregator :=
  match g.stack with
  | [] => { g with records := g.records ++ [⟨passed, message⟩] }
  | b :: outer =>
    { g with stack := { b with records := b.records ++ [⟨passed, message⟩] } :: outer }

def openBlock (g : Aggregator) (now : Time) (name : String) : Aggregator :=
  { g with stack := ⟨name, now, [], []⟩ :: g.stack }

/-- The remark about a close that names another block than the innermost. -/
def mismatch (g : Aggregator) (name : String) : Diagnostic :=
  match g.stack with
  | [] => ⟨.structuralTestMismatch, "close_test(`" ++ name ++ "`) with no open block"⟩
  | b :: _ =>
    ⟨.structuralTestMismatch, "close_test(`" ++ name ++ "`) while `" ++ b.name ++
      "` is the innermost open block"⟩

/-- Puts a closed block where it belongs. -/
def attach (block : TestBlock) (g : Aggregator) : Aggregator :=
  match g.stack with
  | [] => { g with closed := g.closed ++ [block] }
  | b :: outer => { g with stack := { b with children := b.children ++ [block] } :: outer }

/-- Closes the innermost block if it has this name; tells whether it did. -/
def closeBlock (g : Aggregator) (now : Time) (name : String) : Aggregator × Bool :=
  match g.stack with
  | [] => ({ g with diagnostics := g.diagnostics ++ [g.mismatch name] }, false)
  | b :: outer =>
    if b.name = name then (attach (b.finish now false) { g with stack := outer }, true)
    else ({ g with diagnostics := g.diagnostics ++ [g.mismatch name] }, false)

/-- Skips the tests of the instance, the earlier ones too. -/
def skip (g : Aggregator) : Aggregator := { g with skipped := true }

/-- The names of the open blocks, outermost first. -/
def openNames (g : Aggregator) : List String := (g.stack.map (·.name)).reverse

/-- Closes the open blocks into one, innermost first, around a block already closed. -/
def fold (now : Time) : List OpenBlock → Option TestBlock → Option TestBlock
  | [], inner => inner
  | b :: outer, inner =>
    fold now outer (some ({ b with children := b.children ++ inner.toList }.finish now true))

/-- The remark about a block that is still open. -/
def unclosed (b : OpenBlock) : Diagnostic :=
  ⟨.unclosedTestBlock, "test block `" ++ b.name ++ "` was never closed"⟩

/-- The verdict over records and blocks that were not skipped. -/
def verdict (r : TestReport) : TestStatus :=
  if 0 < r.failedCount then .fail
  else if 0 < r.passedCount ∨ r.blocks ≠ [] then .pass
  else .none

/-- The report as of now. -/
def report (g : Aggregator) (now : Time) : TestReport :=
  let blocks := g.closed ++ (fold now g.stack none).toList
  let draft : TestReport :=
    ⟨.none, g.skipped, g.records, blocks, g.diagnostics ++ g.stack.map unclosed⟩
  if g.skipped then { draft with blocks := TestBlock.markSkippedList blocks, status := .skip }
  else { draft with status := verdict draft }

/-! The four calls as data, for statements about whole sequences of them. -/

/-- A call that changes the tests of an instance. -/
inductive Step where
  | append (passed : Bool) (message : String)
  | openBlock (now : Time) (name : String)
  | closeBlock (now : Time) (name : String)
  | skip
  deriving DecidableEq, Repr

def step (g : Aggregator) : Step → Aggregator
  | .append passed message => g.append passed message
  | .openBlock now name => g.openBlock now name
  | .closeBlock now name => (g.closeBlock now name).1
  | .skip => g.skip

/-- The state after a sequence of calls. -/
def run (g : Aggregator) (steps : List Step) : Aggregator := steps.foldl step g

end Aggregator

end ScriptBench
