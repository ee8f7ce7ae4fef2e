import ScriptBench.HostError
import ScriptBench.Shared.Store

/-!
Clients of one store that wait under names of their own, with a clock that only moves when somebody
has to wait for it.
-/
namespace ScriptBench

/-- A wait under a name: its number in the store, the time at which it gives up, and whether it
has. -/
structure NamedWait where
  id : Nat
  key : String
  deadline : Option Nat
  expired : Bool
  deriving DecidableEq, Repr, Inhabited

/-- A store with its clients; times are milliseconds. -/
structure Clients where
  store : Store
  now : Nat
  waits : KeyMap NamedWait
  /-- Waits whose name has been given to a later one; nobody asks for them, but they go on. -/
  nameless : List NamedWait
  deriving Inhabited

namespace Clients

inductive Step where
  | set (key : String) (value : Json)
  | get (key : String)
  | count (key : String)
  | snapshot
  | wait (name key : String) (limit : Option Nat)
  | done (name : String)
  | abort (name : String)
  | join (name : String)
  deriving Repr

inductive Reply where
  | nothing
  | value (v : Option Json)
  | count (n : Nat)
  | shared (values : KeyMap Json)
  | done (b : Bool)
  | joined (result : Answer)
  /-- There is no wait of this name, or nothing will ever end it. -/
  | unknown

def empty : Clients := ⟨.empty, 0, [], []⟩

/-- Every wait, with a name or without. -/
def allWaits (c : Clients) : List NamedWait := c.waits.map (·.2) ++ c.nameless

/-- Lets every wait go on that can. -/
def settle (c : Clients) : Clients :=
  { c with store := c.allWaits.foldl (fun s w => s.resume w.id) c.store }

/-- Lets time pass up to a moment: waits whose time is over give up. -/
def passTime (c : Clients) (moment : Nat) : Clients :=
  let isOver (w : NamedWait) : Bool :=
    match w.deadline with
    | some d => d ≤ moment && (c.store.result? w.id).isNone
    | none => false
  { c with
    store := (c.allWaits.filter isOver).foldl (fun s w => s.abandon w.id) c.store
    now := max c.now moment
    waits := c.waits.map fun (name, w) => (name, { w with expired := w.expired || isOver w }) }

def drop (c : Clients) (name : String) : Clients :=
  { c with waits := c.waits.filter fun w => w.1 != name }

/-- What a wait has come to. -/
def resultOf (c : Clients) (w : NamedWait) : Reply :=
  if w.expired then .joined (.error (.timeout w.key))
  else
    match c.store.result? w.id with
    | some v => .joined (.ok v)
    | none => .unknown

def step (c : Clients) : Step → Clients × Reply
  | .set key value => ({ c with store := c.store.set key value }.settle, .nothing)
  | .get key => (c, .value (c.store.get? key))
  | .count key => (c, .count (c.store.waiterCount key))
  | .snapshot => (c, .shared c.store.snapshot)
  | .wait name key limit =>
    let w : NamedWait := ⟨c.store.nextWait, key, limit.map (c.now + ·), false⟩
    ({ c with
       store := c.store.begin key
       waits := c.waits.insert name w
       nameless := (c.waits.get? name).toList ++ c.nameless }, .nothing)
  | .done name =>
    (c, .done (match c.waits.get? name with
      | some w => w.expired || (c.store.result? w.id).isSome
      | none => false))
  | .abort name =>
    match c.waits.get? name with
    | some w => ({ c with store := c.store.abandon w.id }.drop name, .nothing)
    | none => (c, .nothing)
  | .join name =>
    match c.waits.get? name with
    | none => (c, .unknown)
    | some w =>
      let c :=
        match w.deadline, c.store.result? w.id with
        | some d, none => c.passTime d
        | _, _ => c
      (c.drop name, c.resultOf ((c.waits.get? name).getD w))

/-- The answers to a list of steps, and the clients after them. -/
def run (c : Clients) (steps : List Step) : Clients × List Reply :=
  let (c, replies) := steps.foldl
    (fun (c, replies) s => let (c, r) := c.step s; (c, r :: replies)) (c, [])
  (c, replies.reverse)

end Clients

end ScriptBench
