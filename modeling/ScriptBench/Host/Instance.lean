import ScriptBench.Config
import ScriptBench.Report.Aggregator
import ScriptBench.Report.Run

/-!
The state of one instance: what it was given, and what it has recorded so far.

`Setup` is `InstanceSetup`, and `Instance` is what an `InstanceContext` holds, with its `report`.
-/
namespace ScriptBench

/-- What an instance is given. -/
structure Setup where
  name : String
  testcase : Json
  env : KeyMap String
  lastResponse : Option Response
  deriving Inhabited

/-- An instance; `number` is its place in the run. -/
structure Instance where
  id : Identity
  number : Nat
  name : String
  testcase : Json
  lastResponse : Option Response
  scope : String
  env : KeyMap String
  envOverrides : List EnvOverride
  headers : List NamedValue
  params : List NamedValue
  logs : List LogEntry
  tests : Aggregator
  deriving Inhabited

namespace Instance

/-- The instance at its start; the response it was given is normalized. -/
def ofSetup (id : Identity) (number : Nat) (s : Setup) : Instance :=
  { id, number, name := s.name, testcase := s.testcase
    lastResponse := s.lastResponse.map Response.normalize
    scope := "", env := s.env, envOverrides := [], headers := [], params := [], logs := []
    tests := .empty }

/-- The override list with one more write: the entry of the key changes, or a new one is added. -/
def override (key value : String) : List EnvOverride → List EnvOverride
  | [] => [⟨key, value⟩]
  | o :: rest => if o.key = key then ⟨key, value⟩ :: rest else o :: override key value rest

/-- Gives a variable of the environment a value. -/
def setEnv (i : Instance) (key value : String) : Instance :=
  { i with env := i.env.insert key value, envOverrides := override key value i.envOverrides }

/-- The report under a status. Tests of an instance that stopped early count as failed, unless they
were skipped. -/
def report (i : Instance) (now : Time) (status : Status) : InstanceReport :=
  let tests := i.tests.report now
  let tests :=
    if !status.isSuccess && tests.status ≠ .skip then { tests with status := .fail } else tests
  { id := i.id, name := i.name, status, tests, logs := i.logs, env := i.env
    envOverrides := i.envOverrides, headers := i.headers, params := i.params }

end Instance

end ScriptBench
