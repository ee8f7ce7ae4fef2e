import ScriptBench.Run.Execution

/-!
Many executions that share a world.

A run changes by moves: an execution advances, time passes and ends what was waited for, or somebody
outside of the scripts steps in. Every way in which executions can interleave is a list of moves.

This is `Run` with `spawn` (here `Move.start`), and `RunningInstance` with `cancel` and `join`
(`report?`).
-/
namespace ScriptBench

/-- All executions in the order in which they were started, what they share, and the clock in
milliseconds. -/
structure Run where
  executions : List Execution
  world : World
  clock : Nat
  deriving Inhabited

namespace Run

/-- A run that nothing has been started in. -/
def ofWorld (world : World) : Run := ⟨[], world, 0⟩

inductive Move where
  | start (setup : Setup) (chain : List Scope)
  | advance (i : Nat)
  /-- The call that an execution waits for is over, if its time has come. -/
  | elapse (i : Nat)
  /-- An execution has used up its time, if its time has come. -/
  | expire (i : Nat)
  | cancel (i : Nat)
  | share (key : String) (value : Json)
  | pass (ms : Nat)
  /-- Whoever watches receives one event. -/
  | receive
  /-- Whoever watches goes away. -/
  | unwatch

/-- Lets one execution act on the world. -/
def act (r : Run) (i : Nat) (f : Execution → World → Execution × World) : Run :=
  match r.executions[i]? with
  | none => r
  | some e =>
    let (e, world) := f e r.world
    { r with executions := r.executions.set i e, world }

def withChannel (r : Run) (f : Channel Event → Channel Event) : Run :=
  { r with world := { r.world with channel := r.world.channel.map f } }

def step (s : Settings) (r : Run) : Move → Run
  | .start setup chain =>
    { r with executions :=
        r.executions ++ [.start r.executions.length r.clock setup chain] }
  | .advance i => r.act i (Execution.advance s r.clock)
  | .elapse i => r.act i (Execution.elapse s r.clock)
  | .expire i => r.act i fun e w => (e.expire s r.clock, w)
  | .cancel i => r.act i fun e w => ({ e with cancelled := true }, w)
  | .share key value => { r with world := { r.world with store := r.world.store.set key value } }
  | .pass ms => { r with clock := r.clock + ms }
  | .receive => r.withChannel Channel.receive
  | .unwatch => r.withChannel Channel.abandon

/-- The run after a list of moves. -/
def follow (s : Settings) (r : Run) (moves : List Move) : Run := moves.foldl (step s) r

/-- The report of an execution, once there is one. -/
def report? (r : Run) (i : Nat) : Option InstanceReport := r.executions[i]?.bind Execution.report?

def isFinished (r : Run) (i : Nat) : Bool := (r.report? i).isSome

end Run

end ScriptBench
