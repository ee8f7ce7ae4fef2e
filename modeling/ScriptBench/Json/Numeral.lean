import ScriptBench.Json.Value
import ScriptBench.Number.Shortest

/-!
The value of a written number.

A `Numeral` holds the digits of a number literal. `Numeral.value?` reads it with a 64-bit
significand: digits that no longer fit are dropped, and the significand is then multiplied or
divided once by a power of ten. That is not always the double nearest to the literal.
-/
namespace ScriptBench

/-- A number literal: its sign, its digits, and the sign and digits of its exponent. A literal
without a point has no fraction digits. -/
structure Numeral where
  negative : Bool
  whole : List Nat
  fraction : List Nat
  exponent : Option (Bool × List Nat)
  deriving DecidableEq, Repr

namespace Numeral

/-- The largest significand. -/
def maxSignificand : Nat := Nat.pow 2 64 - 1

/-- The largest written exponent. -/
def maxExponent : Nat := Nat.pow 2 31 - 1

/-- Takes digits into a significand while they fit `limit`; what is left starts with the first digit
that does not. -/
def gather (limit : Nat) : Nat → List Nat → Nat × List Nat
  | acc, [] => (acc, [])
  | acc, d :: rest =>
    if acc * 10 + d ≤ limit then gather limit (acc * 10 + d) rest else (acc, d :: rest)

/-- Whether a literal is written without point and exponent. -/
def isWhole (n : Numeral) : Bool := n.fraction.isEmpty && n.exponent.isNone

/-- `f / 10 ^ count`, in steps of at most `10 ^ 308`; `steps` is how many full ones there are. -/
def scaleDown (f : Binary64) (count : Nat) : Nat → Binary64
  | 0 => f.div (.tenPow count)
  | steps + 1 =>
    if count ≤ 308 then f.div (.tenPow count)
    else if f.isZero then f
    else scaleDown (f.div (.tenPow 308)) (count - 308) steps

/-- `significand · 10 ^ exponent`, one rounding for the significand, one for the power and one for
the product or quotient; none beyond the largest double. -/
def scale? (significand : Nat) (exponent : Int) : Option Binary64 :=
  let f := Binary64.ofNat significand
  if exponent < 0 then some (scaleDown f (-exponent).toNat ((-exponent).toNat / 308))
  else if 308 < exponent then (if f.isZero then some f else none)
  else
    let product := f.mul (.tenPow exponent.toNat)
    if product.isFinite then some product else none

/-- The double a literal with point or exponent stands for. -/
def double? (n : Numeral) : Option Binary64 :=
  let (w, dropped) := gather maxSignificand 0 n.whole
  let (significand, unread) := gather maxSignificand w n.fraction
  let shift : Int := (dropped.length : Int) - ((n.fraction.length : Int) - unread.length)
  let magnitude :=
    match n.exponent with
    | none => scale? significand shift
    | some (down, digits) =>
      match gather maxExponent 0 digits with
      | (e, []) => scale? significand (if down then shift - e else shift + e)
      | (_, _ :: _) => if significand = 0 ∨ down then some .zero else none
  magnitude.map fun x => if n.negative then x.neg else x

/-- The value of a literal; none when it is beyond the largest double. A whole literal is an integer
if it fits 64 bits, and a double otherwise; `-0` is a double. -/
def value? (n : Numeral) : Option Json :=
  if n.isWhole then
    match gather maxSignificand 0 n.whole with
    | (w, []) =>
      if n.negative then
        if w = 0 ∨ Nat.pow 2 63 < w then some (.float (Binary64.ofNat w).neg) else some (.int (-w))
      else some (.int w)
    | _ => n.double?.map .float
  else n.double?.map .float

/-- The number digits stand for. -/
def ofDigits (ds : List Nat) : Nat := ds.foldl (fun n d => n * 10 + d) 0

/-- The double nearest to a literal, infinite beyond the largest. -/
def nearest (n : Numeral) : Binary64 :=
  let written : Int :=
    match n.exponent with
    | none => 0
    | some (down, ds) => if down then -(ofDigits ds : Int) else ofDigits ds
  Decimal.nearest n.negative ⟨ofDigits (n.whole ++ n.fraction), written - n.fraction.length⟩

/-- How many digits at the end of a literal beyond range are not looked at: the exponent's digits
after the first that no longer fits. -/
def unseen (n : Numeral) : Nat :=
  match n.exponent with
  | none => 0
  | some (_, digits) => (gather maxExponent 0 digits).2.length - 1

end Numeral

end ScriptBench
