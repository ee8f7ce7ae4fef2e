/-!
Double-precision numbers as exact values.

A finite double is a sign and a whole number of units, where one unit is `2 ^ -1074`, the smallest
positive double. Every operation computes the exact quotient of two natural numbers and rounds it
once (`roundUnits`), so nothing here depends on the machine's floating point, and a statement about
a double is a statement about natural numbers.
-/
namespace ScriptBench

/-- A double: not a number, an infinity, or a signed whole number of units of `2 ^ -1074`. -/
inductive Binary64 where
  | nan
  | infinite (negative : Bool)
  | finite (negative : Bool) (units : Nat)
  deriving DecidableEq, Repr, Inhabited

namespace Binary64

/-- How many units make one. -/
def unitsPerOne : Nat := Nat.pow 2 1074

/-- The units of the largest finite double. -/
def maxUnits : Nat := (Nat.pow 2 53 - 1) * Nat.pow 2 2045

/-- The whole number nearest to `num / den`; a half goes to the even neighbour. -/
def roundHalfEven (num den : Nat) : Nat :=
  let quotient := num / den
  let twice := 2 * (num % den)
  if twice < den then quotient
  else if den < twice then quotient + 1
  else quotient + quotient % 2

/-- The number with at most 53 significant bits nearest to `num / den`; a half goes to the even
significand. -/
def roundUnits (num den : Nat) : Nat :=
  let spare := Nat.log2 (num / den) + 1 - 53
  roundHalfEven num (den * Nat.pow 2 spare) * Nat.pow 2 spare

/-- The double nearest to `num / den` units; beyond the largest finite double it is infinite. -/
def ofUnits (negative : Bool) (num den : Nat) : Binary64 :=
  let units := roundUnits num den
  if units ≤ maxUnits then .finite negative units else .infinite negative

/-- The double nearest to `num / den`. -/
def ofRatio (negative : Bool) (num den : Nat) : Binary64 :=
  ofUnits negative (num * unitsPerOne) den

/-- The double nearest to a natural number. -/
def ofNat (n : Nat) : Binary64 := ofRatio false n 1

/-- The double nearest to an integer; zero is positive. -/
def ofInt (n : Int) : Binary64 := ofRatio (n < 0) n.natAbs 1

def zero : Binary64 := .finite false 0

/-- The double nearest to `10 ^ n`. -/
def tenPow (n : Nat) : Binary64 := ofNat (Nat.pow 10 n)

def neg : Binary64 → Binary64
  | .nan => .nan
  | .infinite s => .infinite (!s)
  | .finite s u => .finite (!s) u

def isNegative : Binary64 → Bool
  | .nan => false
  | .infinite s => s
  | .finite s _ => s

def isFinite : Binary64 → Bool
  | .finite .. => true
  | _ => false

/-- Either zero. -/
def isZero : Binary64 → Bool
  | .finite _ u => u == 0
  | _ => false

/-- The correctly rounded product of two finite doubles; otherwise the rules for infinities. -/
def mul : Binary64 → Binary64 → Binary64
  | .nan, _ => .nan
  | _, .nan => .nan
  | .infinite s, y => if y.isZero then .nan else .infinite (s != y.isNegative)
  | x, .infinite t => if x.isZero then .nan else .infinite (x.isNegative != t)
  | .finite s u, .finite t v => ofUnits (s != t) (u * v) unitsPerOne

/-- The correctly rounded quotient of two finite doubles; otherwise the rules for infinities. -/
def div : Binary64 → Binary64 → Binary64
  | .nan, _ => .nan
  | _, .nan => .nan
  | .infinite _, .infinite _ => .nan
  | .infinite s, .finite t _ => .infinite (s != t)
  | .finite s _, .infinite t => .finite (s != t) 0
  | .finite s u, .finite t v =>
    if v = 0 then (if u = 0 then .nan else .infinite (s != t))
    else ofUnits (s != t) (u * unitsPerOne) v

/-- A finite double as a signed number of units. -/
def signedUnits? : Binary64 → Option Int
  | .finite false u => some u
  | .finite true u => some (-u)
  | _ => none

/-- Equality of numbers: the two zeros are equal and nothing equals a NaN. -/
def same : Binary64 → Binary64 → Bool
  | .finite s u, .finite t v => u == v && (s == t || u == 0)
  | .infinite s, .infinite t => s == t
  | _, _ => false

/-- The strict order of numbers; a NaN is comparable to nothing. -/
def lt : Binary64 → Binary64 → Bool
  | .nan, _ => false
  | _, .nan => false
  | .infinite s, .infinite t => s && !t
  | .infinite s, .finite .. => s
  | .finite .., .infinite t => !t
  | .finite s u, .finite t v =>
    match s, t with
    | false, false => u < v
    | true, true => v < u
    | true, false => !(u == 0 && v == 0)
    | false, true => false

def le (x y : Binary64) : Bool := lt x y || same x y

/-- The whole part of a number that is not negative, or zero for a negative one, at most `limit`. -/
def truncate (limit : Nat) : Binary64 → Nat
  | .nan => 0
  | .infinite s => if s then 0 else limit
  | .finite s u => if s then 0 else min (u / unitsPerOne) limit

end Binary64

end ScriptBench
