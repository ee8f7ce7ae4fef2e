import ScriptBench.Json.Decoder

/-!
How the scripts of an instance ended.

A `ScriptError` is why a chain of scripts stopped; a `Status` is what the report keeps of it.

These are `ScriptError` and `ScriptStatus` (here `Status`) with `abort_reason`.
-/
namespace ScriptBench

/-- Why a chain of scripts stopped early. -/
inductive ScriptError where
  | timeout
  | memoryLimit (bytes : Nat)
  | cancelled
  | script (message : String)
  | setup (message : String)
  deriving DecidableEq, Repr

def ScriptError.message : ScriptError → String
  | .timeout => "Script execution timed out"
  | .memoryLimit bytes => "Script exceeded memory limit (" ++ toString bytes ++ " bytes)"
  | .cancelled => "Script was cancelled"
  | .script message => "JavaScript error: " ++ message
  | .setup message => "Runtime initialization failed: " ++ message

/-- How an instance ended. -/
inductive Status where
  | success
  | error (message : String)
  | cancelled
  | timeout
  deriving DecidableEq, Repr, Inhabited

namespace Status

/-- The status of a chain that ended without or with an error. -/
def ofOutcome : Except ScriptError Unit → Status
  | .ok () => .success
  | .error .cancelled => .cancelled
  | .error .timeout => .timeout
  | .error e => .error e.message

def isSuccess : Status → Bool
  | .success => true
  | _ => false

/-- Why the instance stopped early, if it did. -/
def abortReason : Status → Option String
  | .success => none
  | .error message => some message
  | .cancelled => some ScriptError.cancelled.message
  | .timeout => some ScriptError.timeout.message

/-- The word that tells the forms of a status apart. -/
def tag : Status → String
  | .success => "success"
  | .error _ => "error"
  | .cancelled => "cancelled"
  | .timeout => "timeout"

def toJson : Status → Json
  | .error message => .obj [("type", .str "error"), ("message", .str message)]
  | s => .obj [("type", .str s.tag)]

/-! Reading: the tag is looked for first, the rest is kept as untyped values and read when the tag
is known; by then its places are lost. -/

def tags : List (String × String) :=
  ["success", "error", "cancelled", "timeout"].map fun t => (t, t)

/-- The tag of a status. -/
def readTag : Node → Except Fault String
  | .str _ s stop => Decoder.choose tags s stop
  | n => n.mismatch "variant identifier"

/-- The members beside the tag, and the tag. -/
def splitTag (budget : Nat) : Option String → List (String × Json) → Members →
    Except Fault (String × List (String × Json))
  | tag, kept, .closed stop =>
    match tag with
    | some t => .ok (t, kept.reverse)
    | none => .error ⟨.missingField "type", stop⟩
  | tag, kept, .member _ key after v rest => do
    let k ← Decoder.string budget key
    if k = "type" then
      match tag with
      | some _ => .error ⟨.duplicateField "type", after⟩
      | none => splitTag budget (some (← readTag v)) kept rest
    else splitTag budget tag ((k, ← v.toJson budget) :: kept) rest
  | _, _, .stray _ v => .error v.strayFault
  | _, _, .broken _ fault _ => .error fault

/-- The status of a tag with named contents. -/
def ofMembers (tag : String) (members : List (String × Json)) : Except Fault Status :=
  match tag with
  | "error" =>
    Decoder.fieldMembers [.need "message" .string fun m _ => .error m] 0 [] (.error "")
      (Node.ofMembers members)
  | "cancelled" => .ok .cancelled
  | "timeout" => .ok .timeout
  | _ => .ok .success

/-- The status of a tag with contents in a row. -/
def ofItems (tag : String) (items : List Json) : Except Fault Status :=
  match tag, items with
  | "error", [] =>
    .error ⟨.invalidLength 0 "struct variant ScriptStatus::Error with 1 element", none⟩
  | "error", v :: rest => do
    let message ← Decoder.string 0 (Node.ofJson v)
    if rest.isEmpty then return .error message
    else throw ⟨.invalidLength (rest.length + 1) "1 element in sequence", none⟩
  | tag, [] => ofMembers tag []
  | _, items => .error ⟨.invalidLength items.length "0 elements in sequence", none⟩

def decoder : Decoder Status
  | budget, .object start ms => do
    let (tag, members) ← splitTag (← Decoder.enter budget start) none [] ms
    ofMembers tag members
  | budget, .array start xs => do
    let budget ← Decoder.enter budget start
    match xs with
    | .closed stop => throw ⟨.missingField "type", stop⟩
    | .broken _ fault _ => throw fault
    | .item v rest =>
      let tag ← readTag v
      ofItems tag (← Decoder.items Node.toJson budget rest)
  | _, n => n.mismatch "internally tagged enum ScriptStatus"

end Status

end ScriptBench
