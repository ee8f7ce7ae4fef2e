import ScriptBench.Json.Fault
import ScriptBench.Json.Numeral

/-!
A JSON value together with the places at which its parts stand in a text.

Reading a text builds the whole tree first and reports nothing; a part that cannot be read becomes
`Node.broken`. Whoever walks the tree meets the parts in the order of the text, so the first fault
met is the one a reader of that type would report: a decoder that skips a member does not see the
faults that only matter to its value. A value that comes from no text is a tree without places.
-/
namespace ScriptBench

/-- Where something stands; nothing for a value that comes from no text. -/
abbrev Place := Option Position

mutual

/-- A value in its place. `start` is the place in front of it and `stop` the place behind it. -/
inductive Node where
  | null (start stop : Place)
  | bool (start : Place) (value : Bool) (stop : Place)
  /-- A number literal of a text. -/
  | numeral (start : Place) (literal : Numeral) (stop : Place)
  /-- A number that comes from no text; `value` is an integer or a double. -/
  | number (value : Json)
  | str (start : Place) (value : String) (stop : Place)
  | array (start : Place) (items : Items)
  | object (start : Place) (members : Members)
  /-- What stands here cannot be used. `skipped` is the fault that even passing over it meets. -/
  | broken (start : Place) (fault : Fault) (skipped : Option Fault)

/-- What is left of an array. -/
inductive Items where
  /-- The closing bracket, and the place behind it. -/
  | closed (stop : Place)
  | item (value : Node) (rest : Items)
  /-- No further item and no closing bracket. `here` is the place behind the blanks and the comma
  that were passed; `skipped` is the fault that passing over the array meets. -/
  | broken (here : Place) (fault skipped : Fault)

/-- What is left of an object. `here` is the place where the next separator or brace was looked
for. -/
inductive Members where
  /-- The closing brace, and the place behind it. -/
  | closed (stop : Place)
  /-- A member; `after` is the place behind its key, the blanks that follow the key and, if it is
  what stands there, the closing brace. -/
  | member (here : Place) (key : Node) (after : Place) (value : Node) (rest : Members)
  /-- A value that is no string stands where a key should. -/
  | stray (here : Place) (value : Node)
  /-- No further member and no closing brace; `skipped` is the fault that passing over the object
  meets. -/
  | broken (here : Place) (fault skipped : Fault)

end

instance : Inhabited Node := ⟨.null none none⟩

/-- A whole text: its value, and the fault behind the value if more than blanks follows. -/
structure Document where
  root : Node
  extra : Option Fault

namespace Node

def start : Node → Place
  | .null s _ => s
  | .bool s _ _ => s
  | .numeral s _ _ => s
  | .number _ => none
  | .str s _ _ => s
  | .array s _ => s
  | .object s _ => s
  | .broken s _ _ => s

mutual

/-- A value as a tree without places. -/
def ofJson : Json → Node
  | .null => .null none none
  | .bool b => .bool none b none
  | .int n => .number (.int n)
  | .float x => .number (.float x)
  | .str s => .str none s none
  | .arr items => .array none (ofItems items)
  | .obj members => .object none (ofMembers members)

def ofItems : List Json → Items
  | [] => .closed none
  | v :: rest => .item (ofJson v) (ofItems rest)

def ofMembers : List (String × Json) → Members
  | [] => .closed none
  | (k, v) :: rest => .member none (.str none k none) none (ofJson v) (ofMembers rest)

end

mutual

/-- How deep arrays and objects are nested in a tree. -/
def depth : Node → Nat
  | .array _ items => depthItems items + 1
  | .object _ members => depthMembers members + 1
  | _ => 0

def depthItems : Items → Nat
  | .item v rest => max (depth v) (depthItems rest)
  | _ => 0

def depthMembers : Members → Nat
  | .member _ _ _ v rest => max (depth v) (depthMembers rest)
  | _ => 0

end

end Node

/-- The place some one-byte characters earlier on the same line. -/
def Place.back (count : Nat) : Place → Place
  | some p => some ⟨p.line, p.column - count⟩
  | none => none

/-- The place just behind the first character of what stands at a place. -/
def Place.next : Place → Place
  | some p => some ⟨p.line, p.column + 1⟩
  | none => none

/-- The fault of a value that stands where a key should. -/
def Node.strayFault (n : Node) : Fault := ⟨.keyNotString, n.start.next⟩

/-- The value of a number, and the place behind it. A literal beyond range is a fault behind the
last digit looked at. -/
def Node.number? : Node → Option (Except Fault Json × Place)
  | .numeral _ n stop =>
    match n.value? with
    | some v => some (.ok v, stop)
    | none => some (.error ⟨.numberOutOfRange, stop.back n.unseen⟩, stop)
  | .number v => some (.ok v, none)
  | _ => none

end ScriptBench
