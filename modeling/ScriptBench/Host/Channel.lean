/-!
A bounded queue between senders and one receiver.

An offer is lost when there is no room; a send waits for room instead, in the order in which sends
were made, and what waits goes before later offers. When the receiver is gone everything is lost.
-/
namespace ScriptBench

/-- What is queued, which sends wait for room, and what has been received so far. -/
structure Channel (α : Type) where
  capacity : Nat
  queue : List α
  waiting : List α
  received : List α
  receiving : Bool
  deriving Repr, Inhabited

namespace Channel

variable {α : Type}

/-- A channel with nothing in it. -/
def ofCapacity (capacity : Nat) : Channel α := ⟨capacity, [], [], [], true⟩

/-- There is room, and nobody waits for it. -/
def hasRoom (c : Channel α) : Bool := c.queue.length < c.capacity && c.waiting.isEmpty

/-- Queues an item if there is room. -/
def offer (c : Channel α) (x : α) : Channel α :=
  if c.receiving && c.hasRoom then { c with queue := c.queue ++ [x] } else c

/-- Queues an item as soon as there is room. -/
def send (c : Channel α) (x : α) : Channel α :=
  if !c.receiving then c
  else if c.hasRoom then { c with queue := c.queue ++ [x] }
  else { c with waiting := c.waiting ++ [x] }

/-- Takes the first item out of the queue; the first send that waits gets its place. -/
def receive (c : Channel α) : Channel α :=
  match c.queue with
  | [] => c
  | x :: rest =>
    let c := { c with received := c.received ++ [x] }
    match c.waiting with
    | [] => { c with queue := rest }
    | w :: later => { c with queue := rest ++ [w], waiting := later }

/-- Receives until nothing is left. -/
def drain (c : Channel α) : Channel α :=
  { c with received := c.received ++ c.queue ++ c.waiting, queue := [], waiting := [] }

/-- The receiver goes away. -/
def abandon (c : Channel α) : Channel α := { c with queue := [], waiting := [], receiving := false }

end Channel

end ScriptBench
