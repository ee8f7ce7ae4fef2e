import ScriptBench.Json.Text
import ScriptBench.Json.Untyped

/-!
The values instances of a run share, and waiting for one.

A value is kept as its text. A wait looks for a value once; if there is none it registers under its
key and sleeps until a `set` of that key delivers the text to it. Looking and registering are one
step, and so are storing and delivering; each operation below is such a step, so every interleaving
of clients is a list of operations.

This is `SharedStore`: `set`, `get` (here `get?`), `wait` (`begin`, `resume`, and `abandon` where it
is given up), `waiter_count` (`waiterCount`) and `snapshot`.
-/
namespace ScriptBench

/-- Where a wait stands. -/
inductive WaitPhase where
  /-- Registered under its key, asleep. -/
  | parked
  /-- A text has been delivered and is not yet taken. -/
  | delivered (text : String)
  /-- The wait has given its value. -/
  | returned (text : String)
  | abandoned
  deriving DecidableEq, Repr, Inhabited

/-- A wait: its key, where it stands, and how often it has looked for a value. -/
structure Wait where
  key : String
  phase : WaitPhase
  looks : Nat
  deriving DecidableEq, Repr, Inhabited

/-- What the store knows of a key: its value as text, and the waits registered under it. -/
structure Slot where
  value : Option String
  waiters : List Nat
  deriving DecidableEq, Repr, Inhabited

/-- The shared values and all waits so far; a wait is known by its place in the list. -/
structure Store where
  slots : KeyMap Slot
  waits : List Wait
  deriving DecidableEq, Repr, Inhabited

namespace Store

def empty : Store := ⟨[], []⟩

/-- The value of a stored text; a text that cannot be read counts as null. -/
def decode (text : String) : Json := (Json.parse? text).getD .null

def slot (s : Store) (key : String) : Slot := (s.slots.get? key).getD ⟨none, []⟩

/-- Where a wait stands; nobody takes an unknown one. -/
def phase (s : Store) (id : Nat) : WaitPhase := (s.waits[id]?.map (·.phase)).getD .abandoned

/-- Nobody takes what would be delivered to this wait. -/
def isClosed (s : Store) (id : Nat) : Bool := s.phase id = .abandoned

def setPhase (waits : List Wait) (id : Nat) (phase : WaitPhase) : List Wait :=
  waits.modify id fun w => { w with phase }

/-- Delivers a text to a wait that sleeps. -/
def deliver (text : String) (waits : List Wait) (id : Nat) : List Wait :=
  waits.modify id fun w => if w.phase = .parked then { w with phase := .delivered text } else w

/-- Stores a text under a key and delivers it to every wait registered there. -/
def setText (s : Store) (key text : String) : Store :=
  { slots := s.slots.insert key ⟨some text, []⟩
    waits := (s.slot key).waiters.foldl (deliver text) s.waits }

/-- Stores a value under a key and resumes every wait for it. -/
def set (s : Store) (key : String) (v : Json) : Store := s.setText key v.text

/-- The value of a key, if it was ever set. -/
def get? (s : Store) (key : String) : Option Json := (s.slot key).value.map decode

/-- A wait looks for its value: it returns with it, or registers after the abandoned waits of its
key are taken off the list. -/
def look (s : Store) (id : Nat) : Store :=
  match s.waits[id]? with
  | none => s
  | some w =>
    let w := { w with looks := w.looks + 1 }
    match (s.slot w.key).value with
    | some text => { s with waits := s.waits.set id { w with phase := .returned text } }
    | none =>
      let live := (s.slot w.key).waiters.filter fun i => !s.isClosed i
      { slots := s.slots.insert w.key ⟨none, live ++ [id]⟩
        waits := s.waits.set id { w with phase := .parked } }

/-- The wait that the next `begin` starts. -/
def nextWait (s : Store) : Nat := s.waits.length

/-- Starts a wait for a key. -/
def begin (s : Store) (key : String) : Store :=
  ({ s with waits := s.waits ++ [⟨key, .parked, 0⟩] } : Store).look s.nextWait

/-- Gives a wait the chance to go on: it takes what was delivered, and looks again should it sleep
without being registered. -/
def resume (s : Store) (id : Nat) : Store :=
  match s.waits[id]? with
  | none => s
  | some w =>
    match w.phase with
    | .delivered text => { s with waits := setPhase s.waits id (.returned text) }
    | .parked => if id ∈ (s.slot w.key).waiters then s else s.look id
    | _ => s

/-- Drops a wait that has not returned. -/
def abandon (s : Store) (id : Nat) : Store :=
  match s.phase id with
  | .returned _ => s
  | _ => { s with waits := setPhase s.waits id .abandoned }

/-- What a wait has returned. -/
def result? (s : Store) (id : Nat) : Option Json :=
  match s.phase id with
  | .returned text => some (decode text)
  | _ => none

/-- How many waits sleep on a key. -/
def waiterCount (s : Store) (key : String) : Nat :=
  (s.slot key).waiters.countP fun id => !s.isClosed id

/-- The keys that hold a value, with their values. -/
def snapshot (s : Store) : KeyMap Json :=
  s.slots.filterMap fun (key, slot) => slot.value.map fun text => (key, decode text)

/-! The operations that change a store, as data. -/

/-- One atomic step of a client. -/
inductive Step where
  | set (key : String) (value : Json)
  | begin (key : String)
  | resume (id : Nat)
  | abandon (id : Nat)
  deriving Repr

def step (s : Store) : Step → Store
  | .set key value => s.set key value
  | .begin key => s.begin key
  | .resume id => s.resume id
  | .abandon id => s.abandon id

/-- The store after a sequence of steps. -/
def run (s : Store) (steps : List Step) : Store := steps.foldl step s

end Store

end ScriptBench
