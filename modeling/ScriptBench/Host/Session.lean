import ScriptBench.Host.Call

/-!
Calling the host without a script.

A session is an instance, its token, and helpers in the background. A helper watches a key of the
shared store and steps in as soon as a call waits for that key. What a call answers thus depends on
three things only: the state it meets, its text, and what happens while it waits
(`Host.answerWhile`).
-/
namespace ScriptBench

/-- What happens to a call while it waits. -/
inductive Meanwhile where
  /-- Nothing: its time runs out. -/
  | nothing
  /-- Somebody shares a value. -/
  | share (key : String) (value : Json)
  /-- The instance is cancelled. -/
  | cancel
  deriving Repr, Inhabited

namespace Host

/-- Ends a suspended call by what happened meanwhile; the flag tells whether the instance is
cancelled afterwards. -/
def endWait (s : Settings) (cancelled : Bool) (h : Host) (on : Suspension) :
    Meanwhile → Host × Bool × Answer
  | .nothing =>
    let (h, a) := h.conclude s on
    (h, cancelled, a)
  | .share key value =>
    let (h, a) := (h.withStore (h.world.store.set key value)).conclude s on
    (h, cancelled, a)
  | .cancel =>
    let (h, a) := h.interrupt on
    (h, true, a)

/-- The answer to a call, given what happens should it wait. -/
def answerWhile (s : Settings) (cancelled : Bool) (h : Host) (name argsText : String)
    (meanwhile : Suspension → Meanwhile) : Host × Bool × Answer :=
  match h.call s cancelled name argsText with
  | (h, .answered a) => (h, cancelled, a)
  | (h, .suspended on) => h.endWait s cancelled on (meanwhile on)

end Host

/-- What a helper does when somebody waits. -/
inductive Intervention where
  | share (value : Json)
  | cancel
  deriving Repr, Inhabited

/-- An instance called by hand. Helpers stand in the order in which they were set up, each with its
key. -/
structure Session where
  host : Host
  cancelled : Bool
  helpers : List (String × Intervention)
  deriving Inhabited

namespace Session

inductive Step where
  | call (name argsText : String)
  | enterScope (scope : String)
  | cancel
  | log (level : LogLevel) (message : String)
  | report (status : Status)
  | tests
  | info
  | share (key : String) (value : Json)
  | shared
  | whenWaiting (key : String) (act : Intervention)
  deriving Repr

inductive Reply where
  | nothing
  | answer (a : Answer)
  /-- How many lines the log has. -/
  | logged (lines : Nat)
  | report (r : InstanceReport)
  | tests (r : TestReport)
  | info (name : String) (config : Config)
  | shared (values : KeyMap Json)

/-- A session of an instance in a world. -/
def start (setup : Setup) (world : World) : Session :=
  ⟨⟨.ofSetup .nil 0 setup, world⟩, false, []⟩

/-- What the helpers do to a call that waits. -/
def meanwhile (helpers : List (String × Intervention)) : Suspension → Meanwhile
  | .wait key _ =>
    match helpers.lookup key with
    | some (.share value) => .share key value
    | some .cancel => .cancel
    | none => .nothing
  | _ => .nothing

/-- The helpers left when one of a key has done its work. -/
def spend (key : String) : List (String × Intervention) → List (String × Intervention)
  | [] => []
  | (k, act) :: rest => if k = key then rest else (k, act) :: spend key rest

/-- The helpers left when a call has waited. -/
def helpersAfter (helpers : List (String × Intervention)) :
    Suspension → List (String × Intervention)
  | .wait key _ => spend key helpers
  | _ => helpers

/-- Calls the host. -/
def call (s : Settings) (n : Session) (name argsText : String) : Session × Answer :=
  match n.host.call s n.cancelled name argsText with
  | (host, .answered a) => ({ n with host }, a)
  | (host, .suspended on) =>
    let (host, cancelled, a) := host.endWait s n.cancelled on (meanwhile n.helpers on)
    (⟨host, cancelled, helpersAfter n.helpers on⟩, a)

def step (s : Settings) (n : Session) : Step → Session × Reply
  | .call name argsText =>
    let (n, a) := n.call s name argsText
    (n, .answer a)
  | .enterScope scope => ({ n with host := n.host.enterScope scope }, .nothing)
  | .cancel => ({ n with cancelled := true }, .nothing)
  | .log level message =>
    let host := n.host.log s level message
    ({ n with host }, .logged host.inst.logs.length)
  | .report status => (n, .report (n.host.inst.report s.now status))
  | .tests => (n, .tests (n.host.inst.tests.report s.now))
  | .info => (n, .info n.host.inst.name s.config)
  | .share key value =>
    ({ n with host := n.host.withStore (n.host.world.store.set key value) }, .nothing)
  | .shared => (n, .shared n.host.world.store.snapshot)
  | .whenWaiting key act => ({ n with helpers := n.helpers ++ [(key, act)] }, .nothing)

/-- The replies to a list of steps, and the session after them. -/
def run (s : Settings) (n : Session) (steps : List Step) : Session × List Reply :=
  let (n, replies) := steps.foldl
    (fun (n, replies) step =>
      let (n, r) := n.step s step
      (n, r :: replies)) (n, [])
  (n, replies.reverse)

/-- Ends a session: the report of its instance, and the world after whoever watches has received
everything. -/
def finish (s : Settings) (n : Session) (status : Status) : World × InstanceReport :=
  let host := n.host.announce status
  ({ host.world with channel := host.world.channel.map Channel.drain },
    host.inst.report s.now status)

end Session

end ScriptBench
