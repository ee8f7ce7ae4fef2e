import ScriptBench.Host.Call
import ScriptBench.Script.Program

/-!
An instance that runs a chain of scopes.

An execution moves one step at a time: it enters a scope, makes the next call of the scope's
program, or ends. Between two moves others may move, time may pass, and the instance may be
cancelled. The first scope that fails ends the chain. A time limit cancels the instance and settles
how it is said to have ended, whatever it does afterwards.

An execution goes on as `execute` of `ScriptHost` does, with `run_scripts` and `execute_scopes_sync`
(here `advance`) and `classify` (`Outcome.result`).
-/
namespace ScriptBench

/-- A scope and what its script does. `size` bounds the number of its calls. -/
structure Scope where
  name : String
  program : Program
  size : Nat
  deriving Inhabited

/-- The scope of a source. -/
def Scope.ofSource (memoryLimit : Nat) (name : String) (source : Source) : Scope :=
  ⟨name, .ofSource memoryLimit name source, source.size⟩

/-- Whether a text contains another one. -/
def mentions (part : List Char) : List Char → Bool
  | [] => part.isEmpty
  | c :: rest => part.isPrefixOf (c :: rest) || mentions part rest

namespace Outcome

/-- What the end of a scope means for its chain. -/
def result (memoryLimit : Nat) (cancelled : Bool) : Outcome → Except ScriptError Unit
  | .settled => .ok ()
  | .refused message => .error (.setup message)
  | .failed message =>
    if cancelled then .error .cancelled
    else if mentions "out of memory".toList message.toList then .error (.memoryLimit memoryLimit)
    else .error (.script message)

end Outcome

/-- Where an execution stands. -/
inductive Phase where
  /-- Before the next scope of the chain. -/
  | between
  | running (program : Program)
  /-- A call waits, since a moment of the clock. -/
  | suspended (on : Suspension) (since : Nat) (next : Answer → Program)
  /-- Nothing is left to do but to tell those who watch. -/
  | leaving (status : Status)
  | finished (report : InstanceReport)
  deriving Inhabited

/-- An instance, the scopes it has not yet entered, and where it stands. Times are milliseconds;
`budget` bounds the number of moves it can make. -/
structure Execution where
  inst : Instance
  startedAt : Nat
  budget : Nat
  chain : List Scope
  cancelled : Bool
  timedOut : Bool
  phase : Phase
  deriving Inhabited

namespace Execution

/-- Moves that are enough for a chain: a few for each scope, two for each call, and the end. -/
def enough (chain : List Scope) : Nat :=
  chain.foldr (fun scope n => 4 * scope.size + 8 + n) 8

/-- An execution at its start. -/
def start (number clock : Nat) (setup : Setup) (chain : List Scope) : Execution :=
  ⟨.ofSetup .nil number setup, clock, enough chain, chain, false, false, .between⟩

/-- The report, once there is one. -/
def report? (e : Execution) : Option InstanceReport :=
  match e.phase with
  | .finished r => some r
  | _ => none

def isFinished (e : Execution) : Bool := e.report?.isSome

/-- Ends the execution: an error is logged, and those who watch are to be told. -/
def finish (s : Settings) (e : Execution) (w : World) (result : Except ScriptError Unit) :
    Execution × World :=
  let result := if e.timedOut then .error .timeout else result
  let h : Host := ⟨e.inst, w⟩
  let h := match result with
    | .ok () => h
    | .error err => h.log s .error err.message
  let status := Status.ofOutcome result
  let h := h.announce status
  ({ e with inst := h.inst, phase := .leaving status }, h.world)

/-- Goes on with a program. -/
def goOn (e : Execution) (h : Host) (p : Program) : Execution × World :=
  ({ e with inst := h.inst, phase := .running p }, h.world)

/-- The next move. Nothing moves that waits for others or for time, unless it is cancelled. -/
def advance (s : Settings) (clock : Nat) (e : Execution) (w : World) : Execution × World :=
  let h : Host := ⟨e.inst, w⟩
  match e.phase with
  | .finished _ => (e, w)
  | .leaving status =>
    if h.isAnnouncing status then (e, w)
    else ({ e with phase := .finished (e.inst.report s.now status) }, w)
  | .between =>
    match e.chain with
    | [] => e.finish s w (.ok ())
    | scope :: rest =>
      if e.cancelled then e.finish s w (.error .cancelled)
      else { e with chain := rest }.goOn (h.enterScope scope.name) scope.program
  | .running (.call name args next) =>
    match h.call s e.cancelled name args with
    | (h, .answered a) => e.goOn h (next a)
    | (h, .suspended on) => ({ e with inst := h.inst, phase := .suspended on clock next }, h.world)
  | .running (.finish outcome) =>
    match outcome.result s.config.memoryLimit e.cancelled with
    | .ok () => ({ e with phase := .between }, w)
    | .error err => e.finish s w (.error err)
  | .running (.spin interrupted) => if e.cancelled then e.goOn h interrupted else (e, w)
  | .suspended on _ next =>
    if e.cancelled then
      let (h, a) := h.interrupt on
      e.goOn h (next a)
    else
      match on with
      | .wait key id =>
        if ((w.store.resume id).result? id).isSome then
          let (h, a) := h.conclude s (.wait key id)
          e.goOn h (next a)
        else (e, w)
      | _ => (e, w)

/-- Whether the next move does anything. -/
def canAdvance (e : Execution) (w : World) : Bool :=
  match e.phase with
  | .finished _ => false
  | .leaving status => !Host.isAnnouncing ⟨e.inst, w⟩ status
  | .running (.spin _) => e.cancelled
  | .suspended (.wait _ id) _ _ => e.cancelled || ((w.store.resume id).result? id).isSome
  | .suspended _ _ _ => e.cancelled
  | _ => true

/-- When the call that waits gives up waiting. -/
def due? (s : Settings) (e : Execution) : Option Nat :=
  match e.phase with
  | .suspended (.sleep ms) since _ => some (since + ms)
  | .suspended (.wait _ _) since _ => some (since + s.config.waitSharedTimeoutMs)
  | _ => none

/-- When the whole execution has to be over. Telling those who watch may take longer. -/
def limit? (s : Settings) (e : Execution) : Option Nat :=
  match e.phase with
  | .finished _ => none
  | .leaving _ => none
  | _ => if e.timedOut then none else some (e.startedAt + s.config.timeoutMs)

/-- The call that waits goes on, if its time has come. -/
def elapse (s : Settings) (clock : Nat) (e : Execution) (w : World) : Execution × World :=
  match e.phase, e.due? s with
  | .suspended on _ next, some due =>
    if due ≤ clock && !e.cancelled then
      let (h, a) := (⟨e.inst, w⟩ : Host).conclude s on
      e.goOn h (next a)
    else (e, w)
  | _, _ => (e, w)

/-- The execution is cancelled for good, if its time is over. -/
def expire (s : Settings) (clock : Nat) (e : Execution) : Execution :=
  match e.limit? s with
  | some limit => if limit ≤ clock then { e with cancelled := true, timedOut := true } else e
  | none => e

end Execution

end ScriptBench
