import ScriptBench.Run.Schedule

/-!
Directing a run step by step from outside.

Instances started one by one get a handle, which joining uses up. Commands take effect at once; only
joining, executing, and waiting for waiters carry the run on.
-/
namespace ScriptBench

/-- A run and its handles: for each instance started by hand its number, until it is joined. -/
structure Director where
  run : Run
  handles : List (Option Nat)
  deriving Inhabited

namespace Director

inductive Command where
  | spawn (setup : Setup) (chain : List Scope)
  | cancel (handle : Nat)
  | join (handle : Nat)
  | untilWaiters (key : String) (n : Nat)
  | waiters (key : String)
  | share (key : String) (value : Json)
  | shared
  | execute (instances : List (Setup × List Scope))

inductive Reply where
  | nothing
  | number (n : Nat)
  | reached (b : Bool)
  | report (r : Option InstanceReport)
  | shared (values : KeyMap Json)
  | executed (r : RunReport)

/-- Nothing started yet. -/
def ofWorld (world : World) : Director := ⟨.ofWorld world, []⟩

/-- The number of the instance of a handle that has not been joined. -/
def number? (d : Director) (handle : Nat) : Option Nat := d.handles[handle]?.join

/-- How many waits sleep on a key. -/
def waiters (d : Director) (key : String) : Nat := d.run.world.store.waiterCount key

def obey (s : Settings) (d : Director) : Command → Director × Reply
  | .spawn setup chain =>
    let handle := d.handles.length
    (⟨d.run.step s (.start setup chain), d.handles ++ [some d.run.executions.length]⟩,
      .number handle)
  | .cancel handle =>
    match d.number? handle with
    | some i => ({ d with run := d.run.step s (.cancel i) }, .nothing)
    | none => (d, .nothing)
  | .join handle =>
    match d.number? handle with
    | some i =>
      let run := d.run.await s i
      (⟨run, d.handles.set handle none⟩, .report (run.report? i))
    | none => (d, .report none)
  | .untilWaiters key n =>
    let reached (r : Run) : Bool := n ≤ r.world.store.waiterCount key
    let run := d.run.carryOn s reached
    ({ d with run }, .reached (reached run))
  | .waiters key => (d, .number (d.waiters key))
  | .share key value => ({ d with run := d.run.step s (.share key value) }, .nothing)
  | .shared => (d, .shared d.run.world.store.snapshot)
  | .execute instances =>
    let (run, report) := d.run.execute s instances
    ({ d with run }, .executed report)

/-- The replies to a list of commands, and the director after them. -/
def follow (s : Settings) (d : Director) (commands : List Command) : Director × List Reply :=
  let (d, replies) := commands.foldl
    (fun (d, replies) c =>
      let (d, r) := d.obey s c
      (d, r :: replies)) (d, [])
  (d, replies.reverse)

/-- The events of each instance, in the order in which the instances were started, once everything
has been received. -/
def events (d : Director) : List (List Event) :=
  let received := (d.run.world.channel.map fun c => c.drain.received).getD []
  d.run.numbers.map fun i => received.filter fun
    | .log n _ => n = i
    | .finished n _ => n = i

end Director

end ScriptBench
