import ScriptBench.Json.Decoder

/-!
The limits under which an instance runs, and the sources of a script chain.

These are `ScriptConfig` and `ScriptScope`.
-/
namespace ScriptBench

/-- Limits of one instance, times in milliseconds and sizes in bytes. -/
structure Config where
  timeoutMs : Nat
  memoryLimit : Nat
  maxStackSize : Nat
  maxSleepMs : Nat
  waitSharedTimeoutMs : Nat
  deriving DecidableEq, Repr

namespace Config

/-- Half a minute, 64 MiB of memory, 1 MiB of stack, and ten seconds for a sleep and for a wait. -/
def default : Config := ⟨30000, 67108864, 1048576, 10000, 10000⟩

instance : Inhabited Config := ⟨default⟩

def toJson (c : Config) : Json :=
  .obj [("timeout_ms", .int c.timeoutMs), ("memory_limit", .int c.memoryLimit),
    ("max_stack_size", .int c.maxStackSize), ("max_sleep_ms", .int c.maxSleepMs),
    ("wait_shared_timeout_ms", .int c.waitSharedTimeoutMs)]

/-- The largest number of a limit. -/
def maxLimit : Nat := Nat.pow 2 64 - 1

def decoder : Decoder Config :=
  .record "ScriptConfig" default
    [.opt "timeout_ms" (.natural "u64" maxLimit) fun x c => { c with timeoutMs := x },
     .opt "memory_limit" (.natural "usize" maxLimit) fun x c => { c with memoryLimit := x },
     .opt "max_stack_size" (.natural "usize" maxLimit) fun x c => { c with maxStackSize := x },
     .opt "max_sleep_ms" (.natural "u64" maxLimit) fun x c => { c with maxSleepMs := x },
     .opt "wait_shared_timeout_ms" (.natural "u64" maxLimit)
       fun x c => { c with waitSharedTimeoutMs := x }]

end Config

/-- A script and the scope it belongs to, as text. -/
structure ScopeSource where
  scope : String
  source : String
  deriving DecidableEq, Repr, Inhabited

namespace ScopeSource

def toJson (s : ScopeSource) : Json := .obj [("scope", .str s.scope), ("source", .str s.source)]

def decoder : Decoder ScopeSource :=
  .record "ScriptScope" ⟨"", ""⟩
    [.need "scope" .string fun x s => { s with scope := x },
     .need "source" .string fun x s => { s with source := x }]

end ScopeSource

end ScriptBench
