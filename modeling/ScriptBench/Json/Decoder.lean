import ScriptBench.Json.Untyped

/-!
Reading typed values out of JSON.

A `Decoder` walks the tree of a text or of an untyped value and reports the first thing that does
not fit. Members are visited in order; an unknown member is passed over, a second member of a name
is refused, and missing members are reported last, in the order in which the type declares them. A
record may also be written as an array of its fields.
-/
namespace ScriptBench

/-- Reads a value of a type from a tree in which a number of brackets may still be opened. -/
abbrev Decoder (α : Type) := Nat → Node → Except Fault α

namespace Node

/-- A number in the words of a type fault. -/
def foundNumber : Json → Found
  | .int n => .int n
  | .float x => .float x
  | _ => .null

/-- The value is not of the type expected. A scalar is named behind it, a bracket in front of it. -/
def mismatch {α : Type} (n : Node) (expected : String) : Except Fault α :=
  let fail (found : Found) (place : Place) : Except Fault α :=
    .error ⟨.invalidType found expected, place⟩
  match n with
  | .null _ stop => fail .null stop
  | .bool _ b stop => fail (.bool b) stop
  | .str _ s stop => fail (.str s) stop
  | .array start _ => fail .sequence start
  | .object start _ => fail .map start
  | .broken _ fault _ => .error fault
  | .number v => fail (foundNumber v) none
  | .numeral _ literal stop =>
    match literal.value? with
    | some v => fail (foundNumber v) stop
    | none => .error ⟨.numberOutOfRange, stop.back literal.unseen⟩

end Node

/-- The place behind a string. -/
def Node.stop : Node → Place
  | .str _ _ stop => stop
  | n => n.start

/-- The place at which reading stands behind a value inside an object. -/
def Members.here : Members → Place
  | .closed stop => stop
  | .member here .. => here
  | .stray here _ => here
  | .broken here .. => here

/-- The place at which reading stands behind a value inside an array. -/
def Items.here : Items → Place
  | .closed stop => stop
  | .item v _ => v.start
  | .broken here .. => here

namespace Decoder

/-- Opens a bracket. -/
def enter (budget : Nat) (start : Place) : Except Fault Nat :=
  match budget with
  | 0 => .error ⟨.recursionLimit, start.next⟩
  | n + 1 => .ok n

/-- Gives a fault without a place the place given. -/
def locate {α : Type} (place : Place) : Except Fault α → Except Fault α
  | .error ⟨reason, none⟩ => .error ⟨reason, place⟩
  | r => r

def any : Decoder Json := Node.toJson

def string : Decoder String
  | _, .str _ s _ => .ok s
  | _, n => n.mismatch "a string"

def bool : Decoder Bool
  | _, .bool _ b _ => .ok b
  | _, n => n.mismatch "a boolean"

/-- A whole number from zero to a limit. -/
def natural (name : String) (limit : Nat) : Decoder Nat := fun _ n =>
  match n.number? with
  | some (.ok (.int i), stop) =>
    if 0 ≤ i ∧ i ≤ limit then .ok i.toNat else .error ⟨.invalidValue (.int i) name, stop⟩
  | _ => n.mismatch name

/-- A string that a further function reads. -/
def parsed {α : Type} (expected : String) (read : String → Except String α) : Decoder α
  | _, .str _ s stop =>
    match read s with
    | .ok v => .ok v
    | .error message => .error ⟨.custom message, stop⟩
  | _, n => n.mismatch expected

/-- Nothing for null. -/
def option {α : Type} (read : Decoder α) : Decoder (Option α)
  | _, .null .. => .ok none
  | budget, n => (read budget n).map some

/-- The items of an array. -/
def items {α : Type} (read : Decoder α) (budget : Nat) : Items → Except Fault (List α)
  | .closed _ => .ok []
  | .item v rest => do
    let v ← locate rest.here (read budget v)
    let vs ← items read budget rest
    return v :: vs
  | .broken _ fault _ => .error fault

def list {α : Type} (read : Decoder α) : Decoder (List α)
  | budget, .array start xs => do items read (← enter budget start) xs
  | _, n => n.mismatch "a sequence"

/-- The members of an object used as a map. -/
def members {α : Type} (read : Decoder α) (budget : Nat) :
    Members → Except Fault (List (String × α))
  | .closed _ => .ok []
  | .member _ key _ v rest => do
    let k ← string budget key
    let v ← locate rest.here (read budget v)
    let ms ← members read budget rest
    return (k, v) :: ms
  | .stray _ v => .error v.strayFault
  | .broken _ fault _ => .error fault

/-- A map, in key order; of two entries with the same key the later one stays. -/
def map {α : Type} (read : Decoder α) : Decoder (List (String × α))
  | budget, .object start ms => do
    let entries ← members read (← enter budget start) ms
    return KeyMap.ofList entries
  | _, n => n.mismatch "a map"

/-! Records. -/

/-- A field of a record: how its value changes the record read so far. -/
structure Field (α : Type) where
  name : String
  required : Bool
  read : Decoder (α → α)

/-- A field that must be there. -/
def Field.need {α β : Type} (name : String) (read : Decoder β) (set : β → α → α) : Field α :=
  ⟨name, true, fun budget n => (read budget n).map set⟩

/-- A field that keeps its default when it is not there. -/
def Field.opt {α β : Type} (name : String) (read : Decoder β) (set : β → α → α) : Field α :=
  ⟨name, false, fun budget n => (read budget n).map set⟩

/-- The fields given as members. `seen` holds the names met so far. -/
def fieldMembers {α : Type} (fields : List (Field α)) (budget : Nat) :
    List String → α → Members → Except Fault α
  | seen, acc, .closed stop =>
    match fields.find? fun f => f.required && !seen.contains f.name with
    | some f => .error ⟨.missingField f.name, stop⟩
    | none => .ok acc
  | seen, acc, .member _ key after v rest => do
    let k ← string budget key
    match fields.find? (·.name == k) with
    | none =>
      match v.skip with
      | some fault => .error fault
      | none => fieldMembers fields budget seen acc rest
    | some f =>
      if seen.contains k then .error ⟨.duplicateField k, after⟩
      else
        let set ← locate rest.here (f.read budget v)
        fieldMembers fields budget (k :: seen) (set acc) rest
  | _, _, .stray _ v => .error v.strayFault
  | _, _, .broken _ fault _ => .error fault

/-- What stands behind the last field of an array must be its end. -/
def noFurther (count : Nat) : Items → Except Fault Unit
  | .closed _ => .ok ()
  | .item v rest =>
    match v.start with
    | some _ => .error ⟨.trailingCharacters, v.start.next⟩
    | none => .error ⟨.invalidLength (count + 1 + further rest) "fewer elements in array", none⟩
  | .broken _ fault _ =>
    match fault.reason with
    | .expectedListCommaOrEnd => .error ⟨.trailingCharacters, fault.place⟩
    | .endInValue => .error ⟨.trailingCharacters, fault.place⟩
    | _ => .error fault
where
  further : Items → Nat
    | .item _ rest => further rest + 1
    | _ => 0

/-- The fields given as items, in the order of their declaration; `whole` names the record and its
size. -/
def fieldItems {α : Type} (whole : String) (budget : Nat) :
    Nat → List (Field α) → α → Items → Except Fault α
  | count, [], acc, items => do
    noFurther count items
    return acc
  | count, f :: fs, acc, .closed stop =>
    if f.required then .error ⟨.invalidLength count whole, stop⟩
    else fieldItems whole budget count fs acc (.closed stop)
  | count, f :: fs, acc, .item v rest => do
    let set ← locate rest.here (f.read budget v)
    fieldItems whole budget (count + 1) fs (set acc) rest
  | _, _ :: _, _, .broken _ fault _ => .error fault

/-- `1 element`, `2 elements`, … -/
def elements (count : Nat) : String :=
  toString count ++ (if count = 1 then " element" else " elements")

/-- A record, given as an object or as an array of its fields. -/
def record {α : Type} (name : String) (blank : α) (fields : List (Field α)) : Decoder α
  | budget, .object start ms => do fieldMembers fields (← enter budget start) [] blank ms
  | budget, .array start xs => do
    fieldItems ("struct " ++ name ++ " with " ++ elements fields.length) (← enter budget start) 0
      fields blank xs
  | _, n => n.mismatch ("struct " ++ name)

/-! Choices. -/

/-- The choice a name stands for. -/
def choose {α : Type} (choices : List (String × α)) (name : String) (place : Place) :
    Except Fault α :=
  match choices.lookup name with
  | some v => .ok v
  | none => .error ⟨.unknownVariant name (choices.map (·.1)), place⟩

/-- Only null. -/
def unit : Decoder Unit
  | _, .null .. => .ok ()
  | _, n => n.mismatch "unit"

/-- A name out of a list, or an object whose only member has such a name and is null. The name is a
value that is asked for, so a text that ends before it ends in a value. -/
def choice {α : Type} (choices : List (String × α)) : Decoder α
  | _, .str _ s stop => choose choices s stop
  | budget, .object start ms => do
    let budget ← enter budget start
    match ms with
    | .closed stop =>
      match start with
      | some _ => .error ⟨.expectedValue, stop⟩
      | none => .error ⟨.invalidValue .map "map with a single key", none⟩
    | .broken here _ _ => .error ⟨.endInValue, here⟩
    | .stray _ v => v.mismatch "variant identifier"
    | .member _ key _ v rest =>
      match start, rest with
      | none, .member .. => .error ⟨.invalidValue .map "map with a single key", none⟩
      | _, _ =>
        let name ← string budget key
        let chosen ← choose choices name key.stop
        unit budget v
        match rest with
        | .closed _ => return chosen
        | .broken here ⟨.endInObject, _⟩ _ => .error ⟨.endInObject, here⟩
        | _ => .error ⟨.expectedValue, rest.here⟩
  | _, .broken start fault _ =>
    match fault.reason with
    | .invalidNumber => .error ⟨.expectedValue, start.next⟩
    | .expectedIdent => .error ⟨.expectedValue, start.next⟩
    | .endInValue =>
      if fault.place = start then .error fault else .error ⟨.expectedValue, start.next⟩
    | _ => .error fault
  | _, n =>
    match n.start with
    | some _ => .error ⟨.expectedValue, n.start.next⟩
    | none => n.mismatch "string or map"

/-! Running a decoder. -/

/-- Reads a typed value from a text. -/
def ofText {α : Type} (read : Decoder α) (text : String) : Except Fault α :=
  (Document.read text).readAs (read maxNesting)

/-- Reads a typed value from an untyped one. -/
def ofJson {α : Type} (read : Decoder α) (v : Json) : Except Fault α :=
  read v.depth (Node.ofJson v)

end Decoder

end ScriptBench
