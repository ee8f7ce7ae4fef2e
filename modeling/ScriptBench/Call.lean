import ScriptBench.HostError
import ScriptBench.Http.Message
import ScriptBench.Log
import ScriptBench.Operation

/-!
Host calls with typed arguments, and the grammar of their arguments.

`Call.parse` looks up the name first, then the number of arguments, then the arguments from left to
right; the first that does not fit is reported.

`Call` is `OpCall` with `parse` and `operation`; what is asked of each argument is what `Args` asks:
`string`, `boolean`, `number`, `count`, `strings`, `request`.
-/
namespace ScriptBench

/-- A host operation with its arguments. -/
inductive Call where
  | sleep (ms : Nat)
  | httpFetch (request : Request)
  | waitShared (key : String)
  | log (level : LogLevel) (message : String)
  | getTestcase
  | response
  | setEnv (key value : String)
  | getEnv (key : String)
  | addHeader (name value : String)
  | addParams (name value : String)
  | setShared (key : String) (value : Json)
  | getShared (key : String)
  | openTest (name : String)
  | closeTest (name : String)
  | appendAssert (passed : Bool) (message : String)
  | testSkip
  | assert (expect actual : Json)
  | assertNlp (expect actual : String) (threshold : Binary64)
  | equal (a b : Json)
  | nlpKeywords (text : String) (k : Nat)
  | nlpTags (text : String)
  | nlpTagFilter (text : String) (tags : List String)
  | nlpSimilarity (a b : String)
  deriving Repr

namespace Call

/-- The catalog entry of a call. -/
def operation : Call → Operation
  | .sleep _ => .sleep
  | .httpFetch _ => .httpFetch
  | .waitShared _ => .waitShared
  | .log .info _ => .log
  | .log .warn _ => .warn
  | .log .error _ => .error
  | .getTestcase => .getTestcase
  | .response => .response
  | .setEnv .. => .setEnv
  | .getEnv _ => .getEnv
  | .addHeader .. => .addHeader
  | .addParams .. => .addParams
  | .setShared .. => .setShared
  | .getShared _ => .getShared
  | .openTest _ => .openTest
  | .closeTest _ => .closeTest
  | .appendAssert .. => .appendAssert
  | .testSkip => .testSkip
  | .assert .. => .assert
  | .assertNlp .. => .assertNlp
  | .equal .. => .equal
  | .nlpKeywords .. => .nlpKeywords
  | .nlpTags _ => .nlpTags
  | .nlpTagFilter .. => .nlpTagFilter
  | .nlpSimilarity .. => .nlpSimilarity

end Call

/-- What is wrong with the arguments of a call. -/
inductive ArgumentFault where
  | notArray
  | wrongCount (expected got : Nat)
  /-- The argument at a place, counted from zero, is not what is expected. -/
  | wrongType (place : Nat) (expected : String)
  /-- The request does not decode. -/
  | badRequest (fault : Fault)
  deriving DecidableEq, Repr

def ArgumentFault.message : ArgumentFault → String
  | .notArray => "arguments must be an array"
  | .wrongCount expected got =>
    "expected " ++ toString expected ++ " argument(s), got " ++ toString got
  | .wrongType place expected =>
    "argument " ++ toString (place + 1) ++ " must be " ++ expected
  | .badRequest fault => fault.message

namespace Argument

/-- The largest count. -/
def maxCount : Nat := Nat.pow 2 64 - 1

def string (place : Nat) : Json → Except ArgumentFault String
  | .str s => .ok s
  | _ => .error (.wrongType place "a string")

def boolean (place : Nat) : Json → Except ArgumentFault Bool
  | .bool b => .ok b
  | _ => .error (.wrongType place "a boolean")

/-- Any number, as a double. -/
def number (place : Nat) : Json → Except ArgumentFault Binary64
  | .int n => .ok (.ofInt n)
  | .float x => if x.isFinite then .ok x else .error (.wrongType place "a number")
  | _ => .error (.wrongType place "a number")

/-- The whole part of a number that is not negative, at most `maxCount`. -/
def count (place : Nat) : Json → Except ArgumentFault Nat
  | .int n =>
    if 0 ≤ n then .ok n.toNat else .error (.wrongType place "a non-negative number")
  | .float x =>
    if x.isFinite && Binary64.zero.le x then .ok (x.truncate maxCount)
    else .error (.wrongType place "a non-negative number")
  | _ => .error (.wrongType place "a non-negative number")

/-- The items of an array of strings. -/
def strings (place : Nat) : Json → Except ArgumentFault (List String)
  | .arr items =>
    items.mapM fun
      | .str s => .ok s
      | _ => .error (.wrongType place "an array of strings")
  | _ => .error (.wrongType place "an array of strings")

/-- A request: any object whose known members fit. -/
def request (place : Nat) : Json → Except ArgumentFault Request
  | .obj members =>
    match Decoder.ofJson Request.decoder (.obj members) with
    | .ok r => .ok r
    | .error fault => .error (.badRequest fault)
  | _ => .error (.wrongType place "a request object")

end Argument

namespace Call

open Argument in
/-- The call of an operation with these arguments. -/
def ofArguments : Operation → List Json → Except ArgumentFault Call
  | .sleep, [a] => return .sleep (← count 0 a)
  | .httpFetch, [a] => return .httpFetch (← request 0 a)
  | .waitShared, [a] => return .waitShared (← string 0 a)
  | .log, [a] => return .log .info (← string 0 a)
  | .warn, [a] => return .log .warn (← string 0 a)
  | .error, [a] => return .log .error (← string 0 a)
  | .getTestcase, [] => return .getTestcase
  | .response, [] => return .response
  | .setEnv, [a, b] => return .setEnv (← string 0 a) (← string 1 b)
  | .getEnv, [a] => return .getEnv (← string 0 a)
  | .addHeader, [a, b] => return .addHeader (← string 0 a) (← string 1 b)
  | .addParams, [a, b] => return .addParams (← string 0 a) (← string 1 b)
  | .setShared, [a, b] => return .setShared (← string 0 a) b
  | .getShared, [a] => return .getShared (← string 0 a)
  | .openTest, [a] => return .openTest (← string 0 a)
  | .closeTest, [a] => return .closeTest (← string 0 a)
  | .appendAssert, [a, b] => return .appendAssert (← boolean 0 a) (← string 1 b)
  | .testSkip, [] => return .testSkip
  | .assert, [a, b] => return .assert a b
  | .assertNlp, [a, b, c] => return .assertNlp (← string 0 a) (← string 1 b) (← number 2 c)
  | .equal, [a, b] => return .equal a b
  | .nlpKeywords, [a, b] => return .nlpKeywords (← string 0 a) (← count 1 b)
  | .nlpTags, [a] => return .nlpTags (← string 0 a)
  | .nlpTagFilter, [a, b] => return .nlpTagFilter (← string 0 a) (← strings 1 b)
  | .nlpSimilarity, [a, b] => return .nlpSimilarity (← string 0 a) (← string 1 b)
  | op, values => throw (.wrongCount op.arity values.length)

/-- The call a name and its arguments stand for. -/
def parse (name : String) (args : Json) : Except HostError Call :=
  match Operation.ofName? name with
  | none => .error (.unknownOperation name)
  | some op =>
    let call :=
      match args with
      | .arr values => ofArguments op values
      | _ => .error .notArray
    call.mapError fun fault => .invalidArgument op.name fault.message

/-! The written form of a call, for traces. -/

/-- The arguments by name. Untyped values are given as their text, and numbers as decimal text. -/
def arguments : Call → List (String × Json)
  | .sleep ms => [("ms", .str (toString ms))]
  | .httpFetch r =>
    [("method", .str r.method), ("url", .str r.url),
     ("headers", .arr (r.headers.map NamedValue.toJson)),
     ("params", .arr (r.params.map NamedValue.toJson)), ("body", .str r.body)]
  | .waitShared key | .getShared key | .getEnv key => [("key", .str key)]
  | .log level message => [("level", .str level.name), ("message", .str message)]
  | .setEnv key value => [("key", .str key), ("value", .str value)]
  | .addHeader name value | .addParams name value => [("name", .str name), ("value", .str value)]
  | .setShared key value => [("key", .str key), ("value_text", .str value.text)]
  | .openTest name | .closeTest name => [("name", .str name)]
  | .appendAssert passed message => [("passed", .bool passed), ("message", .str message)]
  | .assert expect actual => [("expect_text", .str expect.text), ("actual_text", .str actual.text)]
  | .assertNlp expect actual threshold =>
    [("expect", .str expect), ("actual", .str actual),
     ("threshold", .str (DoubleFormat.plain.text threshold))]
  | .equal a b => [("a_text", .str a.text), ("b_text", .str b.text)]
  | .nlpKeywords text k => [("text", .str text), ("k", .str (toString k))]
  | .nlpTags text => [("text", .str text)]
  | .nlpTagFilter text tags => [("text", .str text), ("tags", .arr (tags.map .str))]
  | .nlpSimilarity a b => [("a", .str a), ("b", .str b)]
  | .getTestcase | .response | .testSkip => []

def toJson (c : Call) : Json :=
  .obj [("op", .str c.operation.name), ("args", .obj c.arguments)]

end Call

end ScriptBench
