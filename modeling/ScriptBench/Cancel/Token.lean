/-!
Cancelling, and waiting to be cancelled.

Cancelling is two steps: raise the flag, then wake whoever waits. Waiting is three: prepare to be
woken, look at the flag, and sleep unless the flag is up. A wake-up reaches every waiter that has
prepared, asleep or not, so preparing before looking loses none. All clones of a token share one
state.

This is `CancellationToken`: `cancel` (here `raiseFlag` and `announce`), `is_cancelled`
(`isCancelled`), and `cancelled`, of which every call is a `Waiter` (`join`, `advance`).
-/
namespace ScriptBench

/-- Where a waiter stands. `woken` tells whether a wake-up has reached it since it prepared. -/
inductive WaiterPhase where
  | starting
  /-- Prepared, and about to look at the flag. -/
  | prepared (woken : Bool)
  /-- It has seen the flag down and sleeps, unless woken. -/
  | asleep (woken : Bool)
  | returned
  deriving DecidableEq, Repr, Inhabited

/-- A waiter, and how often it has prepared. -/
structure Waiter where
  phase : WaiterPhase
  rounds : Nat
  deriving DecidableEq, Repr, Inhabited

/-- The state that all clones of a token share. `announcing` counts the cancels that have raised the
flag and not yet woken anybody, `completed` those that have done both. -/
structure Token where
  cancelled : Bool
  clones : Nat
  announcing : Nat
  completed : Nat
  waiters : List Waiter
  deriving DecidableEq, Repr, Inhabited

namespace Token

/-- A token that nobody has cancelled. -/
def fresh : Token := ⟨false, 0, 0, 0, []⟩

/-- What a clone says; it does not matter which. -/
def isCancelled (t : Token) (_clone : Nat) : Bool := t.cancelled

def clone (t : Token) : Token := { t with clones := t.clones + 1 }

/-- First half of a cancel. -/
def raiseFlag (t : Token) : Token := { t with cancelled := true, announcing := t.announcing + 1 }

/-- A wake-up reaches a waiter. -/
def wake (w : Waiter) : Waiter :=
  match w.phase with
  | .prepared _ => { w with phase := .prepared true }
  | .asleep _ => { w with phase := .asleep true }
  | _ => w

/-- Second half of a cancel, for one that has raised the flag. -/
def announce (t : Token) : Token :=
  match t.announcing with
  | 0 => t
  | n + 1 =>
    { t with announcing := n, completed := t.completed + 1, waiters := t.waiters.map wake }

/-- A new waiter. -/
def join (t : Token) : Token := { t with waiters := t.waiters ++ [⟨.starting, 0⟩] }

/-- The next step of a waiter; one that sleeps and was not woken does nothing. -/
def advanceWaiter (cancelled : Bool) (w : Waiter) : Waiter :=
  match w.phase with
  | .starting => ⟨.prepared false, w.rounds + 1⟩
  | .prepared woken => { w with phase := if cancelled then .returned else .asleep woken }
  | .asleep true => { w with phase := .starting }
  | .asleep false => w
  | .returned => w

def advance (t : Token) (i : Nat) : Token :=
  { t with waiters := t.waiters.modify i (advanceWaiter t.cancelled) }

/-- One atomic step of anybody who holds the token. -/
inductive Step where
  | clone
  | raiseFlag
  | announce
  | join
  | advance (i : Nat)
  deriving DecidableEq, Repr

def step (t : Token) : Step → Token
  | .clone => t.clone
  | .raiseFlag => t.raiseFlag
  | .announce => t.announce
  | .join => t.join
  | .advance i => t.advance i

/-- The token after a sequence of steps. -/
def run (t : Token) (steps : List Step) : Token := steps.foldl step t

/-- A whole cancel. -/
def cancel (t : Token) : Token := t.raiseFlag.announce

/-- Lets every waiter take as many steps as it can: three lead from any phase to rest. -/
def settle (t : Token) : Token :=
  let once (w : Waiter) : Waiter := advanceWaiter t.cancelled w
  { t with waiters := t.waiters.map fun w => once (once (once (once w))) }

end Token

end ScriptBench
