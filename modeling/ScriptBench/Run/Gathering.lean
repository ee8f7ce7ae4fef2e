import ScriptBench.Run.Schedule

/-!
Gathering the reports of a run under any schedule.

`Run.execute` lets all executions move in turns. Here whoever gathers the reports is one of many who
act: it starts the next instance, takes the next report that is there, or makes the report of the
run, one thing at a time, and anybody else may act in between. Every schedule is a list of such
steps.

The steps are those of `spawn`, `join` and `execute` of `Run`.
-/
namespace ScriptBench

/-- A run whose reports are gathered. -/
structure Gathering where
  run : Run
  /-- The instances that are still to be started. -/
  coming : List (Setup × List Scope)
  /-- The executions of those that were started, in the order in which they were given. -/
  started : List Nat
  /-- The reports taken so far, in that order. -/
  reports : List InstanceReport
  result : Option RunReport

namespace Gathering

/-- Nothing is started yet. -/
def ofRun (r : Run) (instances : List (Setup × List Scope)) : Gathering :=
  ⟨r, instances, [], [], none⟩

inductive Step where
  /-- The next instance is started. -/
  | spawn
  /-- All are started, and the next report is taken if it is there. -/
  | join
  /-- All reports are taken, and the report of the run is made. -/
  | conclude
  | move (m : Run.Move)
  /-- Somebody outside of all scripts uses the shared store. -/
  | use (st : Store.Step)

def step (s : Settings) (g : Gathering) : Step → Gathering
  | .spawn =>
    match g.coming with
    | [] => g
    | (setup, chain) :: rest =>
      { g with
        run := g.run.step s (.start setup chain)
        coming := rest
        started := g.started ++ [g.run.executions.length] }
  | .join =>
    match g.coming, g.started[g.reports.length]?.bind g.run.report? with
    | [], some report => { g with reports := g.reports ++ [report] }
    | _, _ => g
  | .conclude =>
    if g.result.isNone && g.coming.isEmpty && g.reports.length == g.started.length then
      { g with result := some (.ofInstances .nil g.reports g.run.world.store.snapshot) }
    else g
  | .move m => { g with run := g.run.step s m }
  | .use st =>
    { g with
      run := { g.run with world := { g.run.world with store := g.run.world.store.step st } } }

/-- The state after a list of steps. -/
def follow (s : Settings) (g : Gathering) (steps : List Step) : Gathering := steps.foldl (step s) g

end Gathering

end ScriptBench
