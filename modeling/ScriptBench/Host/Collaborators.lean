import ScriptBench.Http.Message
import ScriptBench.Number.Binary64

/-!
What the host needs others for: the network and the language tools.

These are `Collaborators`, with a `NetworkClient` and an `NlpEngine`, and `ConnectorError`.
-/
namespace ScriptBench

/-- Why a collaborator could not help. -/
inductive ConnectorError where
  | invalidRequest (detail : String)
  | network (detail : String)
  | timeout (ms : Nat)
  | unavailable (name : String)
  deriving DecidableEq, Repr

namespace ConnectorError

def message : ConnectorError → String
  | .invalidRequest detail => "Invalid request: " ++ detail
  | .network detail => "Network error: " ++ detail
  | .timeout ms => "Request timed out after " ++ toString ms ++ " ms"
  | .unavailable name => "Collaborator not available: " ++ name

/-- The word for the kind of error. -/
def kindName : ConnectorError → String
  | .invalidRequest _ => "InvalidRequest"
  | .network _ => "Network"
  | .timeout _ => "Timeout"
  | .unavailable _ => "Unavailable"

end ConnectorError

/-- What comes of a request; it may be that nothing ever comes. -/
inductive NetworkReply where
  | response (r : Response)
  | failed (e : ConnectorError)
  | silent
  deriving Inhabited

/-- One call of a collaborator. -/
inductive Visit where
  | http (request : Request)
  | keywords (text : String) (k : Nat)
  | tags (text : String)
  | tagFilter (text : String) (tags : List String)
  | similarity (a b : String)
  deriving DecidableEq, Repr

/-- All calls of collaborators in order, each with the number of the instance that made it. -/
abbrev Visits := List (Nat × Visit)

/-- The language tools. -/
structure LanguageTools where
  keywords : String → Nat → Except ConnectorError (List String)
  tags : String → Except ConnectorError (List TaggedWord)
  tagFilter : String → List String → Except ConnectorError (List String)
  similarity : String → String → Except ConnectorError Binary64

/-- The collaborators of a run. The network may answer by what was asked before and by whom; there
may be no language tools. -/
structure Collaborators where
  network : Visits → Nat → Request → NetworkReply
  language : Option LanguageTools

namespace Collaborators

/-- Nobody is there. -/
def none : Collaborators := ⟨fun _ _ _ => .failed (.unavailable "network"), Option.none⟩

instance : Inhabited Collaborators := ⟨none⟩

/-- A network that gives its replies in turn, the last one again and again. -/
def inTurn (replies : List NetworkReply) (visits : Visits) (_who : Nat) (_request : Request) :
    NetworkReply :=
  let asked := visits.countP fun
    | (_, .http _) => true
    | _ => false
  (replies[min asked (replies.length - 1)]?).getD (.failed (.unavailable "network"))

end Collaborators

end ScriptBench
