import ScriptBench.Script.Machine

/-!
A script as a program of host calls.

`Program` is what is left of a script when its inner workings are forgotten: the calls it makes,
each with what it does for every possible answer, and how it ends. `Program.ofSource` runs the
machine between the calls. The number of machine steps is bounded by the size of the script, because
no statement but `spin` is run more than once.

`Program.ofSource` is a script as `wrap_source` wraps it, and `Machine.outcome` is what
`execute_scopes_sync` reads of it in the end.
-/
namespace ScriptBench

/-- How a scope ended. -/
inductive Outcome where
  | settled
  /-- It failed, with the text of what went wrong. -/
  | failed (message : String)
  /-- It could not be started. -/
  | refused (message : String)
  deriving DecidableEq, Repr, Inhabited

/-- The behaviour of a script. -/
inductive Program where
  | call (name args : String) (next : Answer → Program)
  | finish (outcome : Outcome)
  /-- Goes on until it is interrupted, and then so. -/
  | spin (interrupted : Program)
  deriving Inhabited

namespace Machine

/-- How a scope ended, read off its globals when no work is left. -/
def outcome (scope : String) (m : Machine) : Outcome :=
  let kept (name : String) : Value := (Value.lookup (.ofString name) m.globals).getD .undefined
  let error? : Option String :=
    match kept errorSlot with
    | .string t => t.toString?
    | _ => none
  match error?, kept doneFlag with
  | some message, _ => .failed message
  | none, .bool true => .settled
  | none, _ =>
    .failed ("script `" ++ scope ++ "` never settled (awaiting a promise nothing resolves)")

/-- The behaviour of a machine for so many steps. -/
def program (scope : String) : Nat → Machine → Program
  | 0, m => .finish (m.outcome scope)
  | fuel + 1, m =>
    match m.turn with
    | .next m => program scope fuel m
    | .ask r m => .call r.operation.name r.argsText fun a => program scope fuel (m.answer a)
    | .halt => .finish (m.outcome scope)
    | .spin m => .spin (program scope fuel m)

end Machine

namespace Program

/-- Steps of the machine that are enough for a body. -/
def enough (steps : List Step) : Nat := 64 * (Step.sizeList steps + 1)

/-- What is reported of a value thrown outside of the asynchronous body: name and message of an
object that has a message, a string itself. -/
def thrownText (v : Value) : String :=
  let field (name : String) : Option String :=
    match Value.member (.ofString name) v with
    | .ok (.string t) => t.toString?
    | _ => none
  let nameless := "Exception generated by QuickJS"
  match v with
  | .string t => (t.toString?).getD nameless
  | .undefined => nameless
  | .null => nameless
  | _ =>
    match field "message", field "name" with
    | some message, some name => name ++ ": " ++ message
    | some message, none => message
    | none, _ => nameless

/-- The behaviour of the source of a scope. A memory limit that leaves no room for the first object
refuses every source. -/
def ofSource (memoryLimit : Nat) (scope : String) (source : Source) : Program :=
  if memoryLimit ≤ 1 then .finish (.refused "Allocation failed while creating object")
  else
    match source with
    | .malformed => .finish (.failed "SyntaxError: expecting ';'")
    | .throwsOutside e =>
      match Machine.eval [] [] e with
      | .ok v => .finish (.failed (thrownText v))
      | .error e => .finish (.failed (thrownText e))
    | .body steps => Machine.program scope (enough steps) (Machine.start memoryLimit steps)

end Program

end ScriptBench
