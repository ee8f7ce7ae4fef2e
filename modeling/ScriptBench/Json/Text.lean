import ScriptBench.Number.Format
import ScriptBench.Json.Value

/-!
The compact text of a JSON value.

Each writer puts its characters in front of the text that follows, so that a law about it speaks of
any continuation. Members are written in the order in which the value holds them.
-/
namespace ScriptBench

namespace Json

/-- A hexadecimal digit, lower case. -/
def hexDigit (n : Nat) : Char :=
  if n < 10 then Char.ofNat (48 + n) else Char.ofNat (87 + n)

/-- A character inside a string literal: quote, backslash and control characters are escaped. -/
def escaped (c : Char) : List Char :=
  if c = '"' then ['\\', '"']
  else if c = '\\' then ['\\', '\\']
  else if c = '\n' then ['\\', 'n']
  else if c = '\r' then ['\\', 'r']
  else if c = '\t' then ['\\', 't']
  else if c.toNat = 8 then ['\\', 'b']
  else if c.toNat = 12 then ['\\', 'f']
  else if c.toNat < 32 then
    ['\\', 'u', '0', '0', hexDigit (c.toNat / 16), hexDigit (c.toNat % 16)]
  else [c]

/-- The inside of a string literal, in front of `rest`. -/
def writeEscaped : List Char → List Char → List Char
  | [], rest => rest
  | c :: cs, rest => escaped c ++ writeEscaped cs rest

def writeString (s : String) (rest : List Char) : List Char :=
  '"' :: writeEscaped s.toList ('"' :: rest)

def writeInt (n : Int) (rest : List Char) : List Char :=
  if n < 0 then '-' :: (decimalDigits n.natAbs ++ rest) else decimalDigits n.natAbs ++ rest

def writeDouble (x : Binary64) (rest : List Char) : List Char :=
  if x.isFinite then DoubleFormat.json.chars x ++ rest else 'n' :: 'u' :: 'l' :: 'l' :: rest

mutual

/-- The text of a value in front of `rest`. -/
def write : Json → List Char → List Char
  | .null, rest => 'n' :: 'u' :: 'l' :: 'l' :: rest
  | .bool true, rest => 't' :: 'r' :: 'u' :: 'e' :: rest
  | .bool false, rest => 'f' :: 'a' :: 'l' :: 's' :: 'e' :: rest
  | .int n, rest => writeInt n rest
  | .float x, rest => writeDouble x rest
  | .str s, rest => writeString s rest
  | .arr [], rest => '[' :: ']' :: rest
  | .arr (v :: vs), rest => '[' :: write v (writeItems vs rest)
  | .obj [], rest => '\x7b' :: '\x7d' :: rest
  | .obj ((k, v) :: ms), rest => '\x7b' :: writeString k (':' :: write v (writeMembers ms rest))

/-- The items after the first, and the closing bracket. -/
def writeItems : List Json → List Char → List Char
  | [], rest => ']' :: rest
  | v :: vs, rest => ',' :: write v (writeItems vs rest)

/-- The members after the first, and the closing brace. -/
def writeMembers : List (String × Json) → List Char → List Char
  | [], rest => '\x7d' :: rest
  | (k, v) :: ms, rest => ',' :: writeString k (':' :: write v (writeMembers ms rest))

end

/-- The compact text of a value. -/
def text (v : Json) : String := String.ofList (v.write [])

end Json

end ScriptBench
