import ScriptBench.Number.Shortest

/-!
Decimal texts of doubles.

`DoubleFormat` records the decisions of one format: which magnitudes are written positionally,
whether a whole number keeps `.0`, and the words for what is not a number. The digits are always the
shortest that read back. `fixedPlaces` writes a given number of places instead.
-/
namespace ScriptBench

/-- The decisions of a number format. `point` below is the place of the decimal point in front of
which the digits stand, so that the number is `0.digits · 10 ^ point`. -/
structure DoubleFormat where
  /-- Positional where the point is above this … -/
  above : Int
  /-- … and at most this. -/
  upTo : Int
  /-- What is added to a whole number written positionally. -/
  wholeSuffix : String
  /-- A negative zero keeps its sign. -/
  signedZero : Bool
  nan : String
  infinity : String

/-- Decimal digits of a number, most significant first. -/
def decimalDigits (n : Nat) : List Char := Nat.toDigits 10 n

namespace DoubleFormat

/-- JSON: positional from `1e-5` below `1e16`, and whole numbers keep `.0`. -/
def json : DoubleFormat := ⟨-5, 16, ".0", true, "NaN", "inf"⟩

/-- Plain text: never an exponent, and no `.0` on a whole number. -/
def plain : DoubleFormat := ⟨-400, 400, "", true, "NaN", "inf"⟩

/-- Script numbers: positional from `1e-6` below `1e21`; a negative zero is written `0`. -/
def script : DoubleFormat := ⟨-6, 21, "", false, "NaN", "Infinity"⟩

/-- A magnitude with the point inside, before or after its digits. -/
def positional (f : DoubleFormat) (digits : List Char) (point : Int) : List Char :=
  let count : Int := digits.length
  if count ≤ point then digits ++ List.replicate (point - count).toNat '0' ++ f.wholeSuffix.toList
  else if 0 < point then digits.take point.toNat ++ '.' :: digits.drop point.toNat
  else '0' :: '.' :: List.replicate (-point).toNat '0' ++ digits

/-- A magnitude with one digit before the point and a signed exponent. -/
def scientific (digits : List Char) (point : Int) : List Char :=
  let e := point - 1
  let mantissa := match digits with
    | [d] => [d]
    | d :: rest => d :: '.' :: rest
    | [] => []
  mantissa ++ 'e' :: (if e < 0 then '-' else '+') :: decimalDigits e.natAbs

/-- The text of the magnitude of a finite double. -/
def magnitude (f : DoubleFormat) (units : Nat) : List Char :=
  if units = 0 then '0' :: f.wholeSuffix.toList
  else
    let d := Decimal.shortest units
    let digits := decimalDigits d.digits
    let point := d.exponent + digits.length
    if f.above < point ∧ point ≤ f.upTo then f.positional digits point else scientific digits point

/-- The characters a number is written with. -/
def chars (f : DoubleFormat) : Binary64 → List Char
  | .nan => f.nan.toList
  | .infinite s => if s then '-' :: f.infinity.toList else f.infinity.toList
  | .finite s u => if s ∧ (u ≠ 0 ∨ f.signedZero) then '-' :: f.magnitude u else f.magnitude u

def text (f : DoubleFormat) (x : Binary64) : String := String.ofList (f.chars x)

end DoubleFormat

/-- A number with exactly `places` digits after the point; an exact half goes to the even digit. -/
def Binary64.fixedPlaces (places : Nat) : Binary64 → String
  | .nan => "NaN"
  | .infinite s => if s then "-inf" else "inf"
  | .finite s u =>
    let scaled := Binary64.roundHalfEven (u * Nat.pow 10 places) Binary64.unitsPerOne
    let whole := decimalDigits (scaled / Nat.pow 10 places)
    let rest := decimalDigits (scaled % Nat.pow 10 places)
    let padded := List.replicate (places - rest.length) '0' ++ rest
    String.ofList ((if s then ['-'] else []) ++ whole ++ '.' :: padded)

end ScriptBench
