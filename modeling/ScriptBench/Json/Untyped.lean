import ScriptBench.Json.Reader

/-!
Reading a text as an untyped value.

Arrays and objects may be nested 127 deep; the bracket beyond is refused where it stands. Members
end up in key order, and of two with the same key the later one stays.
-/
namespace ScriptBench

/-- How deep arrays and objects of a text may be nested. -/
def maxNesting : Nat := 127

namespace Node

mutual

/-- The untyped value of a tree in which `budget` more brackets may be opened inside each other. -/
def toJson : Nat → Node → Except Fault Json
  | _, .null .. => .ok .null
  | _, .bool _ b _ => .ok (.bool b)
  | _, .numeral _ n stop =>
    match n.value? with
    | some v => .ok v
    | none => .error ⟨.numberOutOfRange, stop.back n.unseen⟩
  | _, .number v => .ok v
  | _, .str _ s _ => .ok (.str s)
  | 0, .array start _ => .error ⟨.recursionLimit, start.next⟩
  | budget + 1, .array _ items => (toItems budget items).map .arr
  | 0, .object start _ => .error ⟨.recursionLimit, start.next⟩
  | budget + 1, .object _ members => (toMembers budget members).map .ofMembers
  | _, .broken _ fault _ => .error fault

def toItems : Nat → Items → Except Fault (List Json)
  | _, .closed _ => .ok []
  | budget, .item v rest => do
    let v ← toJson budget v
    let vs ← toItems budget rest
    return v :: vs
  | _, .broken _ fault _ => .error fault

def toMembers : Nat → Members → Except Fault (List (String × Json))
  | _, .closed _ => .ok []
  | budget, .member _ key _ v rest => do
    match key with
    | .str _ k _ =>
      let v ← toJson budget v
      let ms ← toMembers budget rest
      return (k, v) :: ms
    | .broken _ fault _ => .error fault
    | _ => toMembers budget rest
  | _, .stray _ v => .error v.strayFault
  | _, .broken _ fault _ => .error fault

end

mutual

/-- The fault met by passing over a value without looking at it: nesting, the range of numbers and
the pairing of surrogates do not matter then. -/
def skip : Node → Option Fault
  | .array _ items => skipItems items
  | .object _ members => skipMembers members
  | .broken _ _ skipped => skipped
  | _ => none

def skipItems : Items → Option Fault
  | .closed _ => none
  | .item v rest => (skip v).or (skipItems rest)
  | .broken _ _ skipped => some skipped

def skipMembers : Members → Option Fault
  | .closed _ => none
  | .member _ key _ v rest => (skip key).or ((skip v).or (skipMembers rest))
  | .stray _ v => some v.strayFault
  | .broken _ _ skipped => some skipped

end

end Node

/-- A whole text read by a function of its tree; what follows the value is looked at last. -/
def Document.readAs {α : Type} (d : Document) (read : Node → Except Fault α) : Except Fault α := do
  let v ← read d.root
  match d.extra with
  | some fault => .error fault
  | none => .ok v

namespace Json

/-- The value of a text. -/
def parse (text : String) : Except Fault Json :=
  (Document.read text).readAs (Node.toJson maxNesting)

/-- The value of a text, if it is one. -/
def parse? (text : String) : Option Json := (parse text).toOption

end Json

end ScriptBench
