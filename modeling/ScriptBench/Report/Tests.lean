import ScriptBench.Log

/-!
What a test report holds: assertion records in nested blocks, diagnostics, and a status.

These are `TestReport` with `passed_count`, `failed_count` and `find_block`, `TestBlockReport` (here
`TestBlock`) with `all_passed`, `AssertionRecord` (`Assertion`), `Diagnostic` and `TestStatus`.
-/
namespace ScriptBench

/-- The verdict over a block, an instance or a run. -/
inductive TestStatus where
  | none
  | pass
  | fail
  | skip
  deriving DecidableEq, Repr, Inhabited

namespace TestStatus

def name : TestStatus → String
  | .none => "none"
  | .pass => "pass"
  | .fail => "fail"
  | .skip => "skip"

def all : List TestStatus := [.none, .pass, .fail, .skip]

def decoder : Decoder TestStatus := .choice (all.map fun s => (s.name, s))

end TestStatus

/-- The result of one assertion. -/
structure Assertion where
  passed : Bool
  message : String
  deriving DecidableEq, Repr, Inhabited

namespace Assertion

def toJson (a : Assertion) : Json := .obj [("passed", .bool a.passed), ("message", .str a.message)]

def decoder : Decoder Assertion :=
  .record "AssertionRecord" ⟨false, ""⟩
    [.need "passed" .bool fun x a => { a with passed := x },
     .need "message" .string fun x a => { a with message := x }]

end Assertion

/-- A test block with its own records and the blocks opened inside it. A truncated block was still
open when the report was made. -/
inductive TestBlock where
  | mk (name : String) (openedAt closedAt : Time) (status : TestStatus) (skip truncated : Bool)
      (records : List Assertion) (children : List TestBlock)
  deriving Repr, Inhabited

namespace TestBlock

def name : TestBlock → String
  | mk n .. => n

def openedAt : TestBlock → Time
  | mk _ t .. => t

def closedAt : TestBlock → Time
  | mk _ _ t .. => t

def status : TestBlock → TestStatus
  | mk _ _ _ s .. => s

def skip : TestBlock → Bool
  | mk _ _ _ _ s .. => s

def truncated : TestBlock → Bool
  | mk _ _ _ _ _ t .. => t

def records : TestBlock → List Assertion
  | mk _ _ _ _ _ _ rs _ => rs

def children : TestBlock → List TestBlock
  | mk _ _ _ _ _ _ _ cs => cs

mutual

/-- Every record of a block and of the blocks inside it passed. -/
def allPassed : TestBlock → Bool
  | mk _ _ _ _ _ _ records children => records.all (·.passed) && allPassedList children

def allPassedList : List TestBlock → Bool
  | [] => true
  | b :: rest => allPassed b && allPassedList rest

end

mutual

/-- How many records of a block and of the blocks inside it have a verdict. -/
def count (passed : Bool) : TestBlock → Nat
  | mk _ _ _ _ _ _ records children =>
    records.countP (·.passed == passed) + countList passed children

def countList (passed : Bool) : List TestBlock → Nat
  | [] => 0
  | b :: rest => count passed b + countList passed rest

end

mutual

/-- The first block of a name, a block before the blocks inside it. -/
def find? (name : String) : TestBlock → Option TestBlock
  | mk n o c s sk t records children =>
    if n = name then some (mk n o c s sk t records children) else findList? name children

def findList? (name : String) : List TestBlock → Option TestBlock
  | [] => none
  | b :: rest => (find? name b).or (findList? name rest)

end

mutual

/-- The block and all blocks inside it, marked as skipped. -/
def markSkipped : TestBlock → TestBlock
  | mk n o c _ _ t records children => mk n o c .skip true t records (markSkippedList children)

def markSkippedList : List TestBlock → List TestBlock
  | [] => []
  | b :: rest => markSkipped b :: markSkippedList rest

end

mutual

/-- No block is closed before it is opened. -/
def ordered : TestBlock → Bool
  | mk _ o c _ _ _ _ children => o.le c && orderedList children

def orderedList : List TestBlock → Bool
  | [] => true
  | b :: rest => ordered b && orderedList rest

end

mutual

def toJson : TestBlock → Json
  | mk n o c s sk t records children =>
    .obj [("name", .str n), ("opened_at", o.toJson), ("closed_at", c.toJson),
      ("status", .str s.name),
      ("skip", .bool sk), ("truncated", .bool t), ("records", .arr (records.map Assertion.toJson)),
      ("children", .arr (toJsonList children))]

def toJsonList : List TestBlock → List Json
  | [] => []
  | b :: rest => toJson b :: toJsonList rest

end

/-- Reads blocks nested at most `levels` deep. -/
def decodeLevels : Nat → Decoder TestBlock
  | 0 => fun _ n => n.mismatch "struct TestBlockReport"
  | levels + 1 =>
    .record "TestBlockReport" (mk "" .epoch .epoch .none false false [] [])
      [.need "name" .string fun x (mk _ o c s sk t rs cs) => mk x o c s sk t rs cs,
       .need "opened_at" Time.decoder fun x (mk n _ c s sk t rs cs) => mk n x c s sk t rs cs,
       .need "closed_at" Time.decoder fun x (mk n o _ s sk t rs cs) => mk n o x s sk t rs cs,
       .need "status" TestStatus.decoder fun x (mk n o c _ sk t rs cs) => mk n o c x sk t rs cs,
       .need "skip" .bool fun x (mk n o c s _ t rs cs) => mk n o c s x t rs cs,
       .need "truncated" .bool fun x (mk n o c s sk _ rs cs) => mk n o c s sk x rs cs,
       .need "records" (.list Assertion.decoder) fun x (mk n o c s sk t _ cs) =>
         mk n o c s sk t x cs,
       .need "children" (.list (decodeLevels levels)) fun x (mk n o c s sk t rs _) =>
         mk n o c s sk t rs x]

/-- Blocks may be nested as deep as brackets may be opened. -/
def decoder : Decoder TestBlock := fun budget n => decodeLevels (budget + 1) budget n

end TestBlock

/-- What is wrong with the way blocks were opened and closed. -/
inductive DiagnosticKind where
  | structuralTestMismatch
  | unclosedTestBlock
  deriving DecidableEq, Repr, Inhabited

namespace DiagnosticKind

def name : DiagnosticKind → String
  | .structuralTestMismatch => "structural_test_mismatch"
  | .unclosedTestBlock => "unclosed_test_block"

def decoder : Decoder DiagnosticKind :=
  .choice ([.structuralTestMismatch, .unclosedTestBlock].map fun k => (k.name, k))

end DiagnosticKind

/-- A remark about the block structure. -/
structure Diagnostic where
  kind : DiagnosticKind
  message : String
  deriving DecidableEq, Repr, Inhabited

namespace Diagnostic

def toJson (d : Diagnostic) : Json := .obj [("kind", .str d.kind.name), ("message", .str d.message)]

def decoder : Decoder Diagnostic :=
  .record "Diagnostic" ⟨.structuralTestMismatch, ""⟩
    [.need "kind" DiagnosticKind.decoder fun x d => { d with kind := x },
     .need "message" .string fun x d => { d with message := x }]

end Diagnostic

/-- The tests of one instance. -/
structure TestReport where
  status : TestStatus
  skipped : Bool
  records : List Assertion
  blocks : List TestBlock
  diagnostics : List Diagnostic
  deriving Inhabited, Repr

namespace TestReport

/-- How many records of the whole report have a verdict. -/
def count (passed : Bool) (r : TestReport) : Nat :=
  r.records.countP (·.passed == passed) + TestBlock.countList passed r.blocks

def passedCount (r : TestReport) : Nat := r.count true

def failedCount (r : TestReport) : Nat := r.count false

/-- The first block of a name in the order of the report. -/
def findBlock? (name : String) (r : TestReport) : Option TestBlock :=
  TestBlock.findList? name r.blocks

def toJson (r : TestReport) : Json :=
  .obj [("status", .str r.status.name), ("skipped", .bool r.skipped),
    ("records", .arr (r.records.map Assertion.toJson)),
    ("blocks", .arr (TestBlock.toJsonList r.blocks)),
    ("diagnostics", .arr (r.diagnostics.map Diagnostic.toJson))]

def decoder : Decoder TestReport :=
  .record "TestReport" ⟨.none, false, [], [], []⟩
    [.need "status" TestStatus.decoder fun x r => { r with status := x },
     .need "skipped" .bool fun x r => { r with skipped := x },
     .need "records" (.list Assertion.decoder) fun x r => { r with records := x },
     .need "blocks" (.list TestBlock.decoder) fun x r => { r with blocks := x },
     .need "diagnostics" (.list Diagnostic.decoder) fun x r => { r with diagnostics := x }]

end TestReport

end ScriptBench
