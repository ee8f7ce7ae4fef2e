import ScriptBench.Host.Call

/-!
Callers that share a world.

A caller holds one instance and makes one call at a time. A call that waits goes on when what it
waits for has come or its time is over, and is cut off when the instance has been cancelled.
Whatever callers do is a move, so every way in which they can interleave is a list of moves. A
caller keeps a history of what it did and what came of it.
-/
namespace ScriptBench

/-- What is done with an instance. -/
inductive Deed where
  | called (name argsText : String)
  /-- A call has its answer; `cut` tells whether it waited until it was cancelled. -/
  | answered (name argsText : String) (cut : Bool)
  | entered (scope : String)
  | cancelled
  | wrote (level : LogLevel) (message : String)
  | reported (status : Status)
  deriving DecidableEq, Repr

/-- What is done with an instance, and what comes of it. -/
inductive Happening where
  | called (name argsText : String)
  /-- `found` is what the shared values gave to a call that reads one of them. -/
  | answered (name argsText : String) (answer : Answer) (cut : Bool) (found : Option Json)
  | entered (scope : String)
  | cancelled
  | wrote (level : LogLevel) (message : String)
  | reported (status : Status) (report : InstanceReport)

def Happening.deed : Happening → Deed
  | .called name argsText => .called name argsText
  | .answered name argsText _ cut _ => .answered name argsText cut
  | .entered scope => .entered scope
  | .cancelled => .cancelled
  | .wrote level message => .wrote level message
  | .reported status _ => .reported status

/-- A call that waits. -/
structure PendingCall where
  name : String
  argsText : String
  on : Suspension
  deriving DecidableEq, Repr

/-- An instance, what it was made of, whether it is cancelled, the call it waits in, and its
history. -/
structure Caller where
  settings : Settings
  setup : Setup
  inst : Instance
  cancelled : Bool
  pending : Option PendingCall
  history : List Happening

namespace Caller

/-- A caller that has done nothing yet. -/
def start (settings : Settings) (number : Nat) (setup : Setup) : Caller :=
  ⟨settings, setup, .ofSetup .nil number setup, false, none, []⟩

inductive Act where
  | call (name argsText : String)
  /-- What the call waits for has come, or its time is over. -/
  | goOn
  /-- The call is told that its instance is cancelled. -/
  | cutOff
  | enterScope (scope : String)
  | cancel
  | log (level : LogLevel) (message : String)
  | report (status : Status)
  deriving DecidableEq, Repr

def note (c : Caller) (happenings : List Happening) : Caller :=
  { c with history := c.history ++ happenings }

/-- What an answer owes to the shared values: what a read found, and what a wait has brought. -/
def found (store : Store) (name argsText : String) (a : Answer) : Option Json :=
  match Host.readCall name argsText with
  | .ok (.getShared key) => store.get? key
  | .ok (.waitShared _) => a.toOption
  | _ => none

/-- Makes a call, unless one waits. -/
def call (c : Caller) (w : World) (name argsText : String) : Caller × World :=
  match c.pending with
  | some _ => (c, w)
  | none =>
    match Host.call c.settings c.cancelled ⟨c.inst, w⟩ name argsText with
    | (h, .answered a) =>
      ({ c with inst := h.inst }.note
          [.called name argsText, .answered name argsText a false (found w.store name argsText a)],
        h.world)
    | (h, .suspended on) =>
      ({ c with inst := h.inst, pending := some ⟨name, argsText, on⟩ }.note [.called name argsText],
        h.world)

/-- Ends the call that waits. -/
def finish (c : Caller) (p : PendingCall) (cut : Bool) : Host × Answer → Caller × World
  | (h, a) =>
    ({ c with inst := h.inst, pending := none }.note
      [.answered p.name p.argsText a cut (found h.world.store p.name p.argsText a)], h.world)

/-- The call that waits goes on; one that waits for an answer the network never gives does not. -/
def goOn (c : Caller) (w : World) : Caller × World :=
  match c.pending with
  | none => (c, w)
  | some p =>
    match p.on with
    | .network => (c, w)
    | on => c.finish p false (Host.conclude c.settings ⟨c.inst, w⟩ on)

/-- The call that waits is cut off, if the instance is cancelled. -/
def cutOff (c : Caller) (w : World) : Caller × World :=
  match c.pending with
  | none => (c, w)
  | some p => if c.cancelled then c.finish p true (Host.interrupt ⟨c.inst, w⟩ p.on) else (c, w)

def act (c : Caller) (w : World) : Act → Caller × World
  | .call name argsText => c.call w name argsText
  | .goOn => c.goOn w
  | .cutOff => c.cutOff w
  | .enterScope scope =>
    let h : Host := Host.enterScope ⟨c.inst, w⟩ scope
    ({ c with inst := h.inst }.note [.entered scope], h.world)
  | .cancel => ({ c with cancelled := true }.note [.cancelled], w)
  | .log level message =>
    let h := Host.log c.settings ⟨c.inst, w⟩ level message
    ({ c with inst := h.inst }.note [.wrote level message], h.world)
  | .report status => (c.note [.reported status (c.inst.report c.settings.now status)], w)

end Caller

/-- Callers in the order in which they came, and the world they share. -/
structure Party where
  callers : List Caller
  world : World

namespace Party

/-- Nobody is there yet, and some values have been shared before. -/
def start (shared : List Store.Step) (channel : Option (Channel Event)) : Party :=
  ⟨[], ⟨Store.empty.run shared, [], channel⟩⟩

inductive Move where
  | join (settings : Settings) (setup : Setup)
  | act (i : Nat) (a : Caller.Act)
  /-- Somebody who is no caller shares a value. -/
  | share (key : String) (value : Json)
  /-- Whoever watches does something to the channel of events. -/
  | watch (channel : Option (Channel Event))

def step (p : Party) : Move → Party
  | .join settings setup =>
    { p with callers := p.callers ++ [.start settings p.callers.length setup] }
  | .act i a =>
    match p.callers[i]? with
    | none => p
    | some c => ⟨p.callers.set i (c.act p.world a).1, (c.act p.world a).2⟩
  | .share key value => { p with world := { p.world with store := p.world.store.set key value } }
  | .watch channel => { p with world := { p.world with channel } }

/-- The party after a list of moves. -/
def run (p : Party) (moves : List Move) : Party := moves.foldl step p

end Party

end ScriptBench
