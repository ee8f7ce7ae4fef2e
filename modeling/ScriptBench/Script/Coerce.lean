import ScriptBench.Json.Text
import ScriptBench.Script.Value

/-!
Turning script values into strings, numbers and JSON text.

Each conversion may throw, and then gives the value thrown.
-/
namespace ScriptBench

namespace Value

/-- What an object that cannot become a string throws. -/
def notPrimitive : Value := typeError "toPrimitive"

/-- The name an error shows, its class unless it has one of its own, and its message. -/
def errorText (name message : Text16) : Text16 :=
  if name.isEmpty then message
  else if message.isEmpty then name
  else name ++ .ofString ": " ++ message

/-- An object as a string: the first of its own `toString` and `valueOf` that is a function answers,
with nothing; an object without a `toString` of its own has the common text. -/
def objectText (members : List (Text16 × Value)) : Except Value Text16 :=
  match lookup (.ofString "toString") members with
  | none => .ok (.ofString "[object Object]")
  | some (.function _) => .ok (.ofString "undefined")
  | some _ =>
    match lookup (.ofString "valueOf") members with
    | some (.function _) => .ok (.ofString "undefined")
    | _ => .error notPrimitive

mutual

/-- A value as a string. -/
def toText : Value → Except Value Text16
  | .undefined => .ok (.ofString "undefined")
  | .null => .ok (.ofString "null")
  | .bool b => .ok (.ofString (if b then "true" else "false"))
  | .number x => .ok (.ofString (DoubleFormat.script.text x))
  | .string s => .ok s
  | .array items => do return .join (.ofString ",") (← itemTexts items)
  | .holes count => .ok (.join (.ofString ",") (List.replicate count .empty))
  | .object members => objectText members
  | .bare => .error notPrimitive
  | .thenable => .ok (.ofString "[object Object]")
  | .error className message own => do
    let name ← ownText "name" (.ofString className) own
    let message ← ownText "message" message own
    return errorText name message
  | .function callee => .ok (.ofString callee.text)
  | .promise _ => .ok (.ofString "[object Promise]")
  | .interruption => .ok (.ofString "InternalError: interrupted")

/-- The items of an array as strings; nothing for `undefined` and `null`. -/
def itemTexts : List Value → Except Value (List Text16)
  | [] => .ok []
  | .undefined :: rest => do return .empty :: (← itemTexts rest)
  | .null :: rest => do return .empty :: (← itemTexts rest)
  | v :: rest => do return (← toText v) :: (← itemTexts rest)

/-- An own member of an error as a string, or the value given; `undefined` counts as none. -/
def ownText (name : String) (fallback : Text16) : List (Text16 × Value) → Except Value Text16
  | [] => .ok fallback
  | (n, v) :: rest =>
    if n = .ofString name then
      match v with
      | .undefined => .ok (if name = "name" then .ofString "Error" else .empty)
      | _ => toText v
    else ownText name fallback rest

end

/-! Numbers. -/

/-- White space that is trimmed from a number's text. -/
def isTrimmed (c : Char) : Bool :=
  let n := c.toNat
  (9 ≤ n && n ≤ 13) || n = 32 || n = 0xA0 || n = 0x1680 || (0x2000 ≤ n && n ≤ 0x200A) ||
    n = 0x2028 || n = 0x2029 || n = 0x202F || n = 0x205F || n = 0x3000 || n = 0xFEFF

def trim (cs : List Char) : List Char :=
  ((cs.dropWhile isTrimmed).reverse.dropWhile isTrimmed).reverse

/-- Digits of a base in 64 bits, and how many digits no longer fit. -/
def gatherRadix (base limit : Nat) : Nat → List Nat → Nat × Nat
  | n, [] => (n, 0)
  | n, d :: rest =>
    if n ≤ limit then gatherRadix base limit (n * base + d) rest else (n, rest.length + 1)

/-- Digits of a base that is a power of two, as a number: 64 bits of it are kept and rounded. -/
def radix (base : Nat) (cs : List Char) : Binary64 :=
  let digit? (c : Char) : Option Nat := (hexValue? c).filter (· < base)
  match cs.mapM digit? with
  | some (d :: ds) =>
    let (n, dropped) := gatherRadix base ((Nat.pow 2 64 - base) / base) 0 (d :: ds)
    (Binary64.ofNat n).mul (.ofNat (Nat.pow base dropped))
  | _ => .nan

/-- An exponent part: nothing, or `e`, a sign and digits. -/
def exponentPart : List Char → Option Int
  | [] => some 0
  | c :: rest =>
    if c = 'e' ∨ c = 'E' then
      let (negative, digits) := match rest with
        | '-' :: ds => (true, ds)
        | '+' :: ds => (false, ds)
        | ds => (false, ds)
      if digits.isEmpty || digits.any (fun d => !d.isDigit) then none
      else
        let n : Int := Numeral.ofDigits (digits.map fun d => d.toNat - 48)
        some (if negative then -n else n)
    else none

/-- A decimal number without sign. -/
def decimal (negative : Bool) (cs : List Char) : Binary64 :=
  let whole := cs.takeWhile Char.isDigit
  let rest := cs.dropWhile Char.isDigit
  let (fraction, rest) := match rest with
    | '.' :: r => (r.takeWhile Char.isDigit, r.dropWhile Char.isDigit)
    | r => ([], r)
  if whole.isEmpty && fraction.isEmpty then .nan
  else
    match exponentPart rest with
    | none => .nan
    | some e =>
      let digits := Numeral.ofDigits ((whole ++ fraction).map fun d => d.toNat - 48)
      Decimal.nearest negative ⟨digits, e - fraction.length⟩

/-- The number a text stands for. -/
def numberOfChars (cs : List Char) : Binary64 :=
  match trim cs with
  | [] => .zero
  | '0' :: c :: rest =>
    if c = 'x' ∨ c = 'X' then radix 16 rest
    else if c = 'b' ∨ c = 'B' then radix 2 rest
    else if c = 'o' ∨ c = 'O' then radix 8 rest
    else decimal false ('0' :: c :: rest)
  | '-' :: rest => if rest = "Infinity".toList then .infinite true else decimal true rest
  | '+' :: rest => if rest = "Infinity".toList then .infinite false else decimal false rest
  | cs => if cs = "Infinity".toList then .infinite false else decimal false cs

/-- A string as a number. -/
def numberOfText (t : Text16) : Binary64 :=
  match t.toString? with
  | some s => numberOfChars s.toList
  | none => .nan

/-- A value as a number. -/
def toNumber : Value → Except Value Binary64
  | .undefined => .ok .nan
  | .null => .ok .zero
  | .bool b => .ok (if b then .ofNat 1 else .zero)
  | .number x => .ok x
  | v => do return numberOfText (← toText v)

/-! JSON text. -/

/-- A unit by its number. -/
def unitEscape (u : UInt16) : List Char :=
  let n := u.toNat
  ['\\', 'u', Json.hexDigit (n / 4096), Json.hexDigit (n / 256 % 16), Json.hexDigit (n / 16 % 16),
    Json.hexDigit (n % 16)]

/-- A string between quotes; a surrogate that stands alone is escaped. -/
def quoted (t : Text16) : List Char :=
  '"' :: (Text16.points t.units).flatMap (fun
    | .ok c => Json.escaped c
    | .error u => unitEscape u) ++ ['"']

/-- Parts with commas between them. -/
def commas : List (List Char) → List Char
  | [] => []
  | [p] => p
  | p :: rest => p ++ ',' :: commas rest

/-- Whether an object answers for itself when it is written, with nothing. -/
def writesNothing (members : List (Text16 × Value)) : Bool :=
  match lookup (.ofString "toJSON") members with
  | some (.function _) => true
  | _ => false

mutual

/-- The JSON text of a value, if it has one. -/
def jsonChars? : Value → Option (List Char)
  | .undefined => none
  | .null => some "null".toList
  | .bool b => some (if b then "true" else "false").toList
  | .number x => some (if x.isFinite then DoubleFormat.script.chars x else "null".toList)
  | .string s => some (quoted s)
  | .array items => some ('[' :: commas (jsonItems items) ++ [']'])
  | .holes count => some ('[' :: commas (List.replicate count "null".toList) ++ [']'])
  | .object members =>
    if writesNothing members then none
    else some ('\x7b' :: commas (jsonMembers members) ++ ['\x7d'])
  | .bare => some ['\x7b', '\x7d']
  | .thenable => some ['\x7b', '\x7d']
  | .error _ _ own =>
    if writesNothing own then none else some ('\x7b' :: commas (jsonMembers own) ++ ['\x7d'])
  | .function _ => none
  | .promise _ => some ['\x7b', '\x7d']
  | .interruption => some ['\x7b', '\x7d']

/-- Items; what has no text is null. -/
def jsonItems : List Value → List (List Char)
  | [] => []
  | v :: rest => (jsonChars? v).getD "null".toList :: jsonItems rest

/-- Members; what has no text is left out. -/
def jsonMembers : List (Text16 × Value) → List (List Char)
  | [] => []
  | (n, v) :: rest =>
    match jsonChars? v with
    | some cs => (quoted n ++ ':' :: cs) :: jsonMembers rest
    | none => jsonMembers rest

end

/-- The JSON text of a list of arguments. -/
def argumentText (args : List Value) : String :=
  String.ofList ('[' :: commas (jsonItems args) ++ [']'])

/-- The JSON text of a value as a string, if it has one. -/
def jsonText? (v : Value) : Option Text16 := (jsonChars? v).map Text16.ofChars

end Value

end ScriptBench
