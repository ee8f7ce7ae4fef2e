import ScriptBench.KeyMap
import ScriptBench.Number.Binary64

/-!
Untyped JSON values.

A number is an integer or a double and the two are never equal. The members of an object are kept in
the order of their keys, each key once (`Json.ofMembers`, `Json.sorted`); `Json.same` is the
equality that assertions use.
-/
namespace ScriptBench

inductive Json where
  | null
  | bool (value : Bool)
  | int (value : Int)
  | float (value : Binary64)
  | str (value : String)
  | arr (items : List Json)
  | obj (members : List (String × Json))
  deriving Inhabited, Repr

namespace Json

/-- An object of members given one after the other. -/
def ofMembers (members : List (String × Json)) : Json := .obj (KeyMap.ofList members)

/-- The value under a key. -/
def member? (key : String) : Json → Option Json
  | .obj members => KeyMap.get? key members
  | _ => none

mutual

/-- The same value with the members of every object in key order. -/
def sorted : Json → Json
  | .arr items => .arr (sortedItems items)
  | .obj members => .obj (KeyMap.ofList (sortedValues members))
  | v => v

def sortedItems : List Json → List Json
  | [] => []
  | v :: rest => sorted v :: sortedItems rest

def sortedValues : List (String × Json) → List (String × Json)
  | [] => []
  | (k, v) :: rest => (k, sorted v) :: sortedValues rest

end

mutual

/-- Equality of values: an integer never equals a double, and doubles compare as numbers. -/
def same : Json → Json → Bool
  | .null, .null => true
  | .bool a, .bool b => a == b
  | .int a, .int b => a == b
  | .float a, .float b => a.same b
  | .str a, .str b => a == b
  | .arr a, .arr b => sameItems a b
  | .obj a, .obj b => sameMembers a b
  | _, _ => false

def sameItems : List Json → List Json → Bool
  | [], [] => true
  | a :: as, b :: bs => same a b && sameItems as bs
  | _, _ => false

def sameMembers : List (String × Json) → List (String × Json) → Bool
  | [], [] => true
  | (k, a) :: as, (l, b) :: bs => k == l && same a b && sameMembers as bs
  | _, _ => false

end

mutual

/-- How deep arrays and objects are nested in a value. -/
def depth : Json → Nat
  | .arr items => depthItems items + 1
  | .obj members => depthMembers members + 1
  | _ => 0

def depthItems : List Json → Nat
  | [] => 0
  | v :: rest => max (depth v) (depthItems rest)

def depthMembers : List (String × Json) → Nat
  | [] => 0
  | (_, v) :: rest => max (depth v) (depthMembers rest)

end

/-- A double as a value: what is not a finite number is null. -/
def ofDouble (x : Binary64) : Json := if x.isFinite then .float x else .null

end Json

end ScriptBench
