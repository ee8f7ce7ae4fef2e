import ScriptBench.Json.Decoder
import ScriptBench.Json.Text

/-!
Failures of a single host operation, and the envelope in which an answer reaches a script.

These are `BridgeError` (here `HostError`), `ErrorKind` and `envelope`.
-/
namespace ScriptBench

/-- The tag a script sees as the error's `kind`. -/
inductive ErrorKind where
  | unknownOperation
  | invalidArgument
  | networkError
  | timeout
  | cancelled
  | hostError
  deriving DecidableEq, Repr

namespace ErrorKind

def name : ErrorKind → String
  | .unknownOperation => "UnknownOperation"
  | .invalidArgument => "InvalidArgument"
  | .networkError => "NetworkError"
  | .timeout => "Timeout"
  | .cancelled => "Cancelled"
  | .hostError => "HostError"

def all : List ErrorKind :=
  [.unknownOperation, .invalidArgument, .networkError, .timeout, .cancelled, .hostError]

def decoder : Decoder ErrorKind := .choice (all.map fun k => (k.name, k))

end ErrorKind

/-- Why a host operation failed. -/
inductive HostError where
  | unknownOperation (name : String)
  | invalidArgument (operation reason : String)
  | network (detail : String)
  | timeout (key : String)
  | cancelled
  | collaborator (detail : String)
  deriving DecidableEq, Repr

namespace HostError

def message : HostError → String
  | .unknownOperation name => "Unknown operation `" ++ name ++ "`"
  | .invalidArgument operation reason =>
    "Invalid argument for `" ++ operation ++ "`: " ++ reason
  | .network detail => "Network error: " ++ detail
  | .timeout key => "Timed out waiting for shared value `" ++ key ++ "`"
  | .cancelled => "Operation cancelled"
  | .collaborator detail => "Host collaborator failed: " ++ detail

def kind : HostError → ErrorKind
  | .unknownOperation _ => .unknownOperation
  | .invalidArgument .. => .invalidArgument
  | .network _ => .networkError
  | .timeout _ => .timeout
  | .cancelled => .cancelled
  | .collaborator _ => .hostError

end HostError

/-- The answer to a host call. -/
abbrev Answer := Except HostError Json

namespace Answer

/-- The value that crosses to the script: `ok` with the value, or `err` with kind and message. -/
def envelope : Answer → Json
  | .ok v => .obj [("ok", v)]
  | .error e =>
    .obj [("err", .obj [("kind", .str e.kind.name), ("message", .str e.message)])]

def envelopeText (a : Answer) : String := a.envelope.text

end Answer

end ScriptBench
