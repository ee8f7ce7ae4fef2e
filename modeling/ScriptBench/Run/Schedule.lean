import ScriptBench.Run.State

/-!
Carrying a run on until something has come about.

All executions move in turns for as long as one of them can; then the clock goes to the next moment
at which a wait or an execution runs out of time. Each turn and each such moment is a list of moves,
so what is said of all lists of moves holds of every schedule.

`Run.execute` is `execute` of `Run` under this schedule.
-/
namespace ScriptBench

namespace Run

/-- The numbers of all executions. -/
def numbers (r : Run) : List Nat := List.range r.executions.length

/-- One move of every execution, in order. -/
def turn (s : Settings) (r : Run) : Run := r.follow s (r.numbers.map .advance)

def canAdvance (r : Run) : Bool := r.executions.any fun e => e.canAdvance r.world

/-- Turns for as long as somebody can move. -/
def settle (s : Settings) : Nat → Run → Run
  | 0, r => r
  | fuel + 1, r => if r.canAdvance then settle s fuel (r.turn s) else r

/-- The next moment at which time runs out for somebody. -/
def nextMoment? (s : Settings) (r : Run) : Option Nat :=
  (r.executions.flatMap fun e => (e.due? s).toList ++ (e.limit? s).toList).min?

/-- The clock goes to a moment, and what is over by then ends. -/
def passTo (s : Settings) (r : Run) (moment : Nat) : Run :=
  r.follow s (.pass (moment - r.clock) :: r.numbers.map .elapse ++ r.numbers.map .expire)

/-- Moves that are enough for all executions. -/
def enough (r : Run) : Nat := r.executions.foldr (fun e n => e.budget + n) 1

/-- Carries the run on until a goal is reached or nothing will ever happen again; `fuel` bounds how
often the clock is set. -/
def carry (s : Settings) (goal : Run → Bool) : Nat → Run → Run
  | 0, r => r
  | fuel + 1, r =>
    let r := r.settle s r.enough
    if goal r then r
    else
      match r.nextMoment? s with
      | none => r
      | some moment => carry s goal fuel (r.passTo s moment)

/-- Carries the run on until a goal is reached. Nothing moves when it is reached already. -/
def carryOn (s : Settings) (r : Run) (goal : Run → Bool) : Run :=
  if goal r then r else r.carry s goal r.enough

/-- Carries the run on until an execution has ended. -/
def await (s : Settings) (r : Run) (i : Nat) : Run := r.carryOn s fun r => r.isFinished i

/-- Starts executions, waits for all of them, and reports on them in the order given. -/
def execute (s : Settings) (r : Run) (instances : List (Setup × List Scope)) : Run × RunReport :=
  let first := r.executions.length
  let mine := (List.range instances.length).map (first + ·)
  let r := r.follow s (instances.map fun (setup, chain) => .start setup chain)
  let r := mine.foldl (await s) r
  let reports := mine.filterMap r.report?
  (r, .ofInstances .nil reports r.world.store.snapshot)

/-- Runs one instance to its end, cancelled before it starts if so asked. -/
def alone (s : Settings) (world : World) (setup : Setup) (chain : List Scope) (cancelled : Bool) :
    World × Option InstanceReport :=
  let beforehand := if cancelled then [Move.cancel 0] else []
  let r := ((Run.ofWorld world).follow s (.start setup chain :: beforehand)).await s 0
  (r.world, r.report? 0)

end Run

end ScriptBench
