import ScriptBench.Host.Call
import ScriptBench.Run.Execution

/-!
Running a chain of scopes against prepared answers.

A rehearsal has no instance: every call that can be read is noted and gets the next prepared answer,
`null` when none is left. A call that cannot be read is answered with its error and not noted. A
script that would go on for ever runs out of its time.
-/
namespace ScriptBench

/-- A scope entered, or a call. -/
inductive Note where
  | scope (name : String)
  | call (c : Call)
  deriving Repr

/-- The notes so far, latest first, the answers left, and whether the time is over. -/
structure Rehearsal where
  notes : List Note
  replies : List Answer
  timedOut : Bool

namespace Rehearsal

/-- The answer to a call. -/
def answer (r : Rehearsal) (name argsText : String) : Rehearsal × Answer :=
  match Host.readCall name argsText with
  | .error e => (r, .error e)
  | .ok c =>
    if c.operation.isSuspending && r.timedOut then (r, .error .cancelled)
    else
      match r.replies with
      | [] => ({ r with notes := .call c :: r.notes }, .ok .null)
      | a :: rest => ({ r with notes := .call c :: r.notes, replies := rest }, a)

/-- Runs one scope. -/
def perform : Program → Rehearsal → Rehearsal × Outcome
  | .call name args next, r =>
    let (r, a) := r.answer name args
    perform (next a) r
  | .finish outcome, r => (r, outcome)
  | .spin interrupted, r => perform interrupted { r with timedOut := true }

/-- Runs a chain up to its first failure. -/
def performChain (memoryLimit : Nat) : List Scope → Rehearsal → Rehearsal × Except ScriptError Unit
  | [], r => (r, .ok ())
  | scope :: rest, r =>
    if r.timedOut then (r, .error .cancelled)
    else
      let (r, outcome) := perform scope.program { r with notes := .scope scope.name :: r.notes }
      match outcome.result memoryLimit r.timedOut with
      | .ok () => performChain memoryLimit rest r
      | .error e => (r, .error e)

/-- What a chain notes against prepared answers, and the error that ended it. -/
def run (config : Config) (chain : List Scope) (replies : List Answer) :
    List Note × Except ScriptError Unit :=
  let (r, result) := performChain config.memoryLimit chain ⟨[], replies, false⟩
  (r.notes.reverse, if r.timedOut then .error .timeout else result)

end Rehearsal

end ScriptBench
