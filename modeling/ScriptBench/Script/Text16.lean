import ScriptBench.Number.Format
import ScriptBench.Text.Case

/-!
Strings of scripts: sequences of 16-bit units, in which a surrogate may stand alone.
-/
namespace ScriptBench

structure Text16 where
  units : List UInt16
  deriving DecidableEq, Repr, Inhabited

namespace Text16

def empty : Text16 := ⟨[]⟩

/-- The units of a character: itself, or a surrogate pair. -/
def unitsOfChar (c : Char) : List UInt16 :=
  let n := c.toNat
  if n < 0x10000 then [n.toUInt16]
  else [(0xD800 + (n - 0x10000) / 0x400).toUInt16, (0xDC00 + (n - 0x10000) % 0x400).toUInt16]

def ofChars (cs : List Char) : Text16 := ⟨cs.flatMap unitsOfChar⟩

def ofString (s : String) : Text16 := ofChars s.toList

instance : Coe String Text16 := ⟨ofString⟩

def append (a b : Text16) : Text16 := ⟨a.units ++ b.units⟩

instance : Append Text16 := ⟨append⟩

def isEmpty (t : Text16) : Bool := t.units.isEmpty

def isLead (u : UInt16) : Bool := 0xD800 ≤ u && u ≤ 0xDBFF
def isTrail (u : UInt16) : Bool := 0xDC00 ≤ u && u ≤ 0xDFFF

/-- The character of a surrogate pair. -/
def pair (lead trail : UInt16) : Char :=
  Char.ofNat (0x10000 + (lead.toNat - 0xD800) * 0x400 + (trail.toNat - 0xDC00))

/-- The characters of a string in order; a surrogate that stands alone is given as its unit. -/
def points : List UInt16 → List (Except UInt16 Char)
  | [] => []
  | [u] => [if isLead u || isTrail u then .error u else .ok (Char.ofNat u.toNat)]
  | u :: v :: rest =>
    if isLead u && isTrail v then .ok (pair u v) :: points rest
    else
      (if isLead u || isTrail u then .error u else .ok (Char.ofNat u.toNat)) :: points (v :: rest)

/-- The text, if no surrogate stands alone. -/
def toString? (t : Text16) : Option String :=
  ((points t.units).mapM Except.toOption).map String.ofList

/-- The parts with a separator between them. -/
def join (separator : Text16) : List Text16 → Text16
  | [] => empty
  | [t] => t
  | t :: rest => t ++ separator ++ join separator rest

/-- The strings of one character each that make up a string. -/
def characters (t : Text16) : List Text16 :=
  (points t.units).map fun
    | .ok c => ⟨unitsOfChar c⟩
    | .error u => ⟨[u]⟩

/-- Upper case by the full case mapping. -/
def upper (t : Text16) : Text16 :=
  ⟨(points t.units).flatMap fun
    | .ok c => (Uppercase.ofChar c).flatMap unitsOfChar
    | .error u => [u]⟩

/-- The largest name of a member that counts as an index. -/
def maxIndex : Nat := Nat.pow 2 32 - 2

/-- The index a name stands for: a number without leading zeros. -/
def index? (t : Text16) : Option Nat :=
  let digits := t.units.map fun u => u.toNat
  if digits.isEmpty || digits.any (fun d => d < 48 || 57 < d) then none
  else if digits.head? = some 48 ∧ 1 < digits.length then none
  else
    let n := digits.foldl (fun n d => n * 10 + (d - 48)) 0
    if n ≤ maxIndex then some n else none

/-- The name of an index. -/
def ofIndex (n : Nat) : Text16 := ofChars (decimalDigits n)

end Text16

end ScriptBench
