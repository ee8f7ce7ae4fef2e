import ScriptBench.Number.Binary64

/-!
The fewest decimal digits that read back as a given double.

For 1, 2, … 17 digits the two neighbours of the value on that decimal grid are read back exactly;
the first grid with a hit wins, and of two hits the nearer one.
-/
namespace ScriptBench

/-- A decimal: the number `digits · 10 ^ exponent`. -/
structure Decimal where
  digits : Nat
  exponent : Int
  deriving DecidableEq, Repr, Inhabited

namespace Decimal

/-- Numerator and denominator of `n · 10 ^ e`. -/
def ratio (n : Nat) (e : Int) : Nat × Nat :=
  if 0 ≤ e then (n * Nat.pow 10 e.toNat, 1) else (n, Nat.pow 10 (-e).toNat)

/-- The units nearest to a decimal. -/
def roundedUnits (d : Decimal) : Nat :=
  let (num, den) := ratio d.digits d.exponent
  Binary64.roundUnits (num * Binary64.unitsPerOne) den

/-- The double nearest to a decimal. Far beyond the range of doubles the power of ten is not
computed. -/
def nearest (negative : Bool) (d : Decimal) : Binary64 :=
  let size : Int := (Nat.toDigits 10 d.digits).length + d.exponent
  if d.digits = 0 ∨ size < -400 then .finite negative 0
  else if 400 < size then .infinite negative
  else
    let (num, den) := ratio d.digits d.exponent
    .ofRatio negative num den

/-- The same number with no zero at the end of its digits; `fuel` bounds the zeros taken off. -/
def trim (fuel : Nat) (d : Decimal) : Decimal :=
  match fuel with
  | 0 => d
  | fuel + 1 =>
    if d.digits ≠ 0 ∧ d.digits % 10 = 0 then trim fuel ⟨d.digits / 10, d.exponent + 1⟩ else d

/-- `10 ^ e ≤ units · 2 ^ -1074`. -/
def tenPowLe (e : Int) (units : Nat) : Bool :=
  let (num, den) := ratio 1 e
  num * Binary64.unitsPerOne ≤ units * den

/-- The exponent `e` with `10 ^ e ≤ x < 10 ^ (e + 1)` for the number `x` of `units`: an estimate
from the binary logarithm, off by at most one, set right by comparing. -/
def leadingExponent (units : Nat) : Int :=
  let estimate : Int := ((Nat.log2 units : Int) - 1074) * 30103 / 100000
  if tenPowLe (estimate + 1) units then estimate + 1
  else if tenPowLe estimate units then estimate
  else estimate - 1

/-- The decimal with `count` digits that reads back as `units`, if there is one: of the two
neighbours on that grid the nearer that does, the even one when they are equally near. -/
def onGrid? (units : Nat) (lead : Int) (count : Nat) : Option Decimal :=
  let e := lead - (count : Int) + 1
  let (num, den) := ratio 1 (-e)
  let scaled := units * num
  let unit := Binary64.unitsPerOne * den
  let below := scaled / unit
  let low : Decimal := ⟨below, e⟩
  let high : Decimal := ⟨below + 1, e⟩
  let lowFits := low.roundedUnits == units
  let highFits := high.roundedUnits == units
  let nearer := Binary64.roundHalfEven scaled unit
  if lowFits && highFits then some ⟨nearer, e⟩
  else if lowFits then some low
  else if highFits then some high
  else none

/-- The fewest digits that read back as a positive number of units, nearest to it among those. -/
def shortest (units : Nat) : Decimal :=
  if units = 0 then ⟨0, 0⟩
  else
    let lead := leadingExponent units
    match (List.range 17).findSome? (fun k => onGrid? units lead (k + 1)) with
    | some d => d.trim 17
    | none => ⟨units, -1074⟩

end Decimal

end ScriptBench
