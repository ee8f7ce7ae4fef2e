import ScriptBench.Http.Message
import ScriptBench.Identity
import ScriptBench.Report.Tests
import ScriptBench.Status

/-!
What an instance leaves behind, and what a run of instances leaves behind.

These are `EnvOverride`, `InstanceReport` with `abort_reason`, and `RunReport` with `status` and
`all_succeeded`.
-/
namespace ScriptBench

/-- A value an instance gave to a variable of its environment. -/
structure EnvOverride where
  key : String
  value : String
  deriving DecidableEq, Repr, Inhabited

namespace EnvOverride

def toJson (o : EnvOverride) : Json := .obj [("key", .str o.key), ("value", .str o.value)]

def decoder : Decoder EnvOverride :=
  .record "EnvOverride" ⟨"", ""⟩
    [.need "key" .string fun x o => { o with key := x },
     .need "value" .string fun x o => { o with value := x }]

end EnvOverride

/-- Everything an instance recorded. The environment is in key order. -/
structure InstanceReport where
  id : Identity
  name : String
  status : Status
  tests : TestReport
  logs : List LogEntry
  env : List (String × String)
  envOverrides : List EnvOverride
  headers : List NamedValue
  params : List NamedValue
  deriving Inhabited, Repr

namespace InstanceReport

/-- Why the instance stopped early, if it did. -/
def abortReason (r : InstanceReport) : Option String := r.status.abortReason

def envJson (env : List (String × String)) : Json := .obj (env.map fun (k, v) => (k, .str v))

def toJson (r : InstanceReport) : Json :=
  .obj [("instance_id", r.id.toJson), ("name", .str r.name), ("status", r.status.toJson),
    ("tests", r.tests.toJson), ("logs", .arr (r.logs.map LogEntry.toJson)), ("env", envJson r.env),
    ("env_overrides", .arr (r.envOverrides.map EnvOverride.toJson)),
    ("headers", .arr (r.headers.map NamedValue.toJson)),
    ("params", .arr (r.params.map NamedValue.toJson))]

def decoder : Decoder InstanceReport :=
  .record "InstanceReport" ⟨.nil, "", .success, default, [], [], [], [], []⟩
    [.need "instance_id" Identity.decoder fun x r => { r with id := x },
     .need "name" .string fun x r => { r with name := x },
     .need "status" Status.decoder fun x r => { r with status := x },
     .need "tests" TestReport.decoder fun x r => { r with tests := x },
     .need "logs" (.list LogEntry.decoder) fun x r => { r with logs := x },
     .need "env" (.map .string) fun x r => { r with env := x },
     .need "env_overrides" (.list EnvOverride.decoder) fun x r => { r with envOverrides := x },
     .need "headers" (.list NamedValue.decoder) fun x r => { r with headers := x },
     .need "params" (.list NamedValue.decoder) fun x r => { r with params := x }]

end InstanceReport

/-- The result of a run: the instances in the order in which they were given, whether any of them
skipped its tests, and the shared values in key order. -/
structure RunReport where
  id : Identity
  instances : List InstanceReport
  skipped : Bool
  shared : List (String × Json)
  deriving Inhabited, Repr

namespace RunReport

/-- The report of a run over the reports of its instances. -/
def ofInstances (id : Identity) (instances : List InstanceReport)
    (shared : List (String × Json)) : RunReport :=
  ⟨id, instances, instances.any (·.tests.skipped), shared⟩

/-- A skip anywhere skips the whole run; otherwise any failure fails it. -/
def status (r : RunReport) : TestStatus :=
  let statuses := r.instances.map (·.tests.status)
  if r.skipped then .skip
  else if .fail ∈ statuses then .fail
  else if .pass ∈ statuses then .pass
  else .none

def allSucceeded (r : RunReport) : Bool := r.instances.all (·.status.isSuccess)

def toJson (r : RunReport) : Json :=
  .obj [("run_id", r.id.toJson), ("instances", .arr (r.instances.map InstanceReport.toJson)),
    ("skipped", .bool r.skipped), ("shared", .obj r.shared)]

def decoder : Decoder RunReport :=
  .record "RunReport" ⟨.nil, [], false, []⟩
    [.need "run_id" Identity.decoder fun x r => { r with id := x },
     .need "instances" (.list InstanceReport.decoder) fun x r => { r with instances := x },
     .need "skipped" .bool fun x r => { r with skipped := x },
     .need "shared" (.map .any) fun x r => { r with shared := x }]

end RunReport

end ScriptBench
