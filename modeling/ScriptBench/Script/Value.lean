import ScriptBench.HostError
import ScriptBench.Script.Function
import ScriptBench.Script.Text16

/-!
The values scripts compute with.

Scripts cannot change an object once it is made, so values are plain trees; only promises have an
identity. Members whose names are indices come first, in rising order, then the others in the order
in which they were added.
-/
namespace ScriptBench

inductive Value where
  | undefined
  | null
  | bool (value : Bool)
  | number (value : Binary64)
  | string (value : Text16)
  | array (items : List Value)
  /-- An array of so many places, with nothing in any of them. -/
  | holes (count : Nat)
  | object (members : List (Text16 × Value))
  /-- An object without a prototype and without members. -/
  | bare
  /-- An object whose `then` hands over 7. -/
  | thenable
  /-- An error of a class; `own` are the members set on it, apart from the message. -/
  | error (className : String) (message : Text16) (own : List (Text16 × Value))
  | function (callee : Callee)
  | promise (id : Nat)
  /-- The error raised when a script is interrupted; no script can catch it. -/
  | interruption
  deriving Inhabited, Repr

namespace Value

def text (s : String) : Value := .string (.ofString s)

def typeError (message : String) : Value := .error "TypeError" (.ofString message) []

def rangeError (message : String) : Value := .error "RangeError" (.ofString message) []

def internalError (message : String) : Value := .error "InternalError" (.ofString message) []

/-- The error a script calls a host failure: it has a kind. -/
def hostFailure (kind : Value) (message : Text16) : Value :=
  .error "HostError" message [(.ofString "name", .text "HostError"), (.ofString "kind", kind)]

/-- The failure of a host operation. -/
def ofHostError (e : HostError) : Value := hostFailure (.text e.kind.name) (.ofString e.message)

/-- The function that does nothing. -/
def idleFunction : Value := .function .nothing

/-! Messages that hold a name. -/

/-- How many bytes a message may have. -/
def messageRoom : Nat := 255

/-- How many bytes of a name with characters beyond ASCII are enough. -/
def nameRoom : Nat := 58

/-- The bytes of a unit by itself. -/
def unitBytes (u : UInt16) : Nat := if u < 0x80 then 1 else if u < 0x800 then 2 else 3

/-- Units from the front, until they take up the room. -/
def fill : Nat → List UInt16 → List UInt16
  | _, [] => []
  | 0, _ => []
  | room + 1, u :: rest => u :: fill (room + 1 - unitBytes u) rest

/-- A name as it stands in a message: up to the first NUL, and cut unless it is ASCII. -/
def shown (name : Text16) : Text16 :=
  let units := if name.units.all (· < 0x80) then name.units else fill nameRoom name.units
  ⟨units.takeWhile (· ≠ 0)⟩

/-- An error whose message holds a name; a long message is cut. -/
def errorAbout (className before : String) (name : Text16) (after : String) : Value :=
  let message := Text16.ofString before ++ shown name ++ Text16.ofString after
  .error className ⟨message.units.take messageRoom⟩ []

/-! Objects. -/

/-- Members with one more at the end; a member of the same name is replaced where it stands. -/
def setMember (name : Text16) (value : Value) : List (Text16 × Value) → List (Text16 × Value)
  | [] => [(name, value)]
  | (n, v) :: rest => if n = name then (n, value) :: rest else (n, v) :: setMember name value rest

/-- Puts an indexed member in its place among indexed members. -/
def insertIndexed (i : Nat) (m : Text16 × Value) :
    List (Nat × Text16 × Value) → List (Nat × Text16 × Value)
  | [] => [(i, m)]
  | (j, n) :: rest => if i < j then (i, m) :: (j, n) :: rest else (j, n) :: insertIndexed i m rest

/-- Members in the order in which they are visited. -/
def enumerated (members : List (Text16 × Value)) : List (Text16 × Value) :=
  let indexed := members.foldl (fun acc m =>
    match m.1.index? with
    | some i => insertIndexed i m acc
    | none => acc) []
  indexed.map (·.2) ++ members.filter fun m => m.1.index?.isNone

/-- An object of members given one after the other. -/
def ofMembers (members : List (Text16 × Value)) : Value :=
  .object (enumerated (members.foldl (fun acc m => setMember m.1 m.2 acc) []))

mutual

/-- An untyped value as a script value. -/
def ofJson : Json → Value
  | .null => .null
  | .bool b => .bool b
  | .int n => .number (.ofInt n)
  | .float x => .number x
  | .str s => .text s
  | .arr items => .array (ofItems items)
  | .obj members => ofMembers (ofNamed members)

def ofItems : List Json → List Value
  | [] => []
  | v :: rest => ofJson v :: ofItems rest

def ofNamed : List (String × Json) → List (Text16 × Value)
  | [] => []
  | (k, v) :: rest => (.ofString k, ofJson v) :: ofNamed rest

end

/-! Members. -/

/-- A member of a list of members. -/
def lookup (name : Text16) (members : List (Text16 × Value)) : Option Value :=
  (members.find? fun m => m.1 == name).map (·.2)

/-! Inherited members. -/

def objectMethods : List String :=
  ["toString", "toLocaleString", "valueOf", "hasOwnProperty", "isPrototypeOf",
   "propertyIsEnumerable", "__defineGetter__", "__defineSetter__", "__lookupGetter__",
   "__lookupSetter__"]

def arrayMethods : List String :=
  ["at", "with", "concat", "every", "some", "forEach", "map", "filter", "reduce", "reduceRight",
   "fill", "find", "findIndex", "findLast", "findLastIndex", "indexOf", "lastIndexOf", "includes",
   "join", "pop", "push", "shift", "unshift", "reverse", "toReversed", "sort", "toSorted", "slice",
   "splice", "toSpliced", "copyWithin", "flatMap", "flat", "values", "keys", "entries"]

def stringMethods : List String :=
  ["at", "charCodeAt", "charAt", "concat", "codePointAt", "isWellFormed", "toWellFormed", "indexOf",
   "lastIndexOf", "includes", "endsWith", "startsWith", "match", "matchAll", "search", "split",
   "substring", "substr", "slice", "repeat", "replace", "replaceAll", "padEnd", "padStart", "trim",
   "trimEnd", "trimRight", "trimStart", "trimLeft", "localeCompare", "toLowerCase", "toUpperCase",
   "toLocaleLowerCase", "toLocaleUpperCase", "normalize", "anchor", "big", "blink", "bold", "fixed",
   "fontcolor", "fontsize", "italics", "link", "small", "strike", "sub", "sup"]

/-- The class of a value and the methods it has beyond those of every object. -/
def lineage : Value → Callee × List String
  | .bool _ => (.builtin .boolean, [])
  | .number _ => (.builtin .number, ["toExponential", "toFixed", "toPrecision"])
  | .string _ => (.builtin .string, stringMethods)
  | .array _ | .holes _ => (.builtin .array, arrayMethods)
  | .error className _ _ =>
    (if className = "HostError" then .host .errorClass else .builtin (.error className), [])
  | .interruption => (.builtin (.error "InternalError"), [])
  | .function _ => (.builtin (.maker "Function"), ["call", "apply", "bind"])
  | .promise _ => (.builtin (.maker "Promise"), ["then", "catch", "finally"])
  | _ => (.builtin .object, [])

/-- A member that a value has from its class. -/
def inherited (v : Value) (name : Text16) : Value :=
  let (maker, methods) := v.lineage
  if name = .ofString "constructor" then .function maker
  else
    match (methods ++ objectMethods).find? (name = .ofString ·) with
    | some method => .function (.builtin (.method method))
    | none => .undefined

/-- What a function carries. -/
def functionMember (c : Callee) (name : Text16) : Option Value :=
  if name = .ofString "length" then some (.number .zero)
  else
    match c with
    | .builtin b =>
      if name = .ofString "name" then some (.text b.name)
      else (b.members.find? (name = .ofString ·.name)).map fun m => .function (.builtin m)
    | _ => if name = .ofString "name" then some (.string .empty) else none

/-- The member of a value; reading one of `undefined` or `null` throws. -/
def member (name : Text16) (v : Value) : Except Value Value :=
  match v with
  | .undefined => .error (errorAbout "TypeError" "cannot read property '" name "' of undefined")
  | .null => .error (errorAbout "TypeError" "cannot read property '" name "' of null")
  | .string s =>
    if name = .ofString "length" then .ok (.number (.ofNat s.units.length))
    else
      match name.index?.bind (s.units[·]?) with
      | some u => .ok (.string ⟨[u]⟩)
      | none => .ok (v.inherited name)
  | .array items =>
    if name = .ofString "length" then .ok (.number (.ofNat items.length))
    else .ok ((name.index?.bind (items[·]?)).getD (v.inherited name))
  | .holes count =>
    .ok (if name = .ofString "length" then .number (.ofNat count) else v.inherited name)
  | .object members => .ok ((lookup name members).getD (v.inherited name))
  | .bare => .ok .undefined
  | .thenable => .ok (if name = .ofString "then" then idleFunction else v.inherited name)
  | .error className message own =>
    match lookup name own with
    | some m => .ok m
    | none =>
      if name = .ofString "message" then .ok (.string message)
      else if name = .ofString "name" then .ok (.text className)
      else .ok (v.inherited name)
  | .function callee => .ok ((functionMember callee name).getD (v.inherited name))
  | .interruption =>
    if name = .ofString "message" then .ok (.text "interrupted")
    else if name = .ofString "name" then .ok (.text "InternalError")
    else .ok (v.inherited name)
  | v => .ok (v.inherited name)

/-- The member at the end of a path. -/
def path (names : List Text16) (v : Value) : Except Value Value :=
  names.foldlM (fun v name => member name v) v

/-- The members that are copied and counted: a string's characters, an array's items, an object's
and an error's own members. -/
def ownMembers : Value → List (Text16 × Value)
  | .string s => s.units.mapIdx fun i u => (.ofIndex i, .string ⟨[u]⟩)
  | .array items => items.mapIdx fun i v => (.ofIndex i, v)
  | .object members => members
  | .error _ _ own => own
  | .thenable => [(.ofString "then", idleFunction)]
  | _ => []

/-- Whether a value counts as true. -/
def truthy : Value → Bool
  | .undefined => false
  | .null => false
  | .bool b => b
  | .number x => !(x.isZero || x == .nan)
  | .string s => !s.isEmpty
  | _ => true

/-- `null` in place of `undefined`. -/
def orNull : Value → Value
  | .undefined => .null
  | v => v

/-- Whether a value has a `then` that is a function. -/
def isThenable : Value → Bool
  | .thenable => true
  | .promise _ => true
  | .object members =>
    match lookup (.ofString "then") members with
    | some (.function _) => true
    | _ => false
  | _ => false

def isError : Value → Bool
  | .error .. => true
  | .interruption => true
  | _ => false

/-- Whether a value has an identity of its own, unlike numbers, strings and the like. -/
def isObject : Value → Bool
  | .undefined | .null | .bool _ | .number _ | .string _ => false
  | _ => true

/-- Whether a value is the error of an interruption. -/
def isInterruption : Value → Bool
  | .interruption => true
  | _ => false

end Value

end ScriptBench
