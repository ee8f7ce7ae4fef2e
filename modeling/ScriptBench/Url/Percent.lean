import ScriptBench.Text.Utf8

/-!
Percent-encoding: a byte that may not stand for itself becomes a percent sign and two hexadecimal
digits in upper case.

Each part of an address has its own set of characters that are escaped. Bytes of characters outside
of ASCII, control characters and the delete character are escaped in every part.
-/
namespace ScriptBench.Percent

/-- A hexadecimal digit in upper case. -/
def digit (n : Nat) : Char := if n < 10 then Char.ofNat (48 + n) else Char.ofNat (55 + n)

/-- The value of a hexadecimal digit in either case. -/
def digitValue? (c : Char) : Option Nat :=
  if '0' ≤ c ∧ c ≤ '9' then some (c.toNat - 48)
  else if 'A' ≤ c ∧ c ≤ 'F' then some (c.toNat - 55)
  else if 'a' ≤ c ∧ c ≤ 'f' then some (c.toNat - 87)
  else none

def escape (b : UInt8) : List Char := ['%', digit (b.toNat / 16), digit (b.toNat % 16)]

/-- A set of ASCII characters that are escaped beside the control characters. -/
abbrev EscapeSet := List Char

def isControl (c : Char) : Bool := c.toNat < 0x20 || 0x7F ≤ c.toNat

/-- One character, escaped if it has to be. -/
def encodeChar (set : EscapeSet) (c : Char) : List Char :=
  if isControl c || set.contains c then (String.utf8EncodeChar c).flatMap escape else [c]

/-- A text with the characters of a set escaped. -/
def encode (set : EscapeSet) (cs : List Char) : List Char := cs.flatMap (encodeChar set)

/-! The sets of the parts of an address. -/

def controls : EscapeSet := []

def fragment : EscapeSet := [' ', '\x22', '<', '>', '\x60']

def path : EscapeSet := fragment ++ ['#', '?', '\x7b', '\x7d']

def userInfo : EscapeSet := path ++ ['/', ':', ';', '=', '@', '[', '\\', ']', '^', '|']

def query : EscapeSet := [' ', '\x22', '#', '<', '>']

/-- In the addresses of the web an apostrophe is escaped too. -/
def specialQuery : EscapeSet := query ++ ['\x27']

/-- The bytes of a text with its escapes undone; what is no escape stands for itself. -/
def decode : List Char → List UInt8
  | [] => []
  | '%' :: a :: b :: rest =>
    match digitValue? a, digitValue? b with
    | some x, some y => UInt8.ofNat (16 * x + y) :: decode rest
    | _, _ => 0x25 :: decode (a :: b :: rest)
  | c :: rest => String.utf8EncodeChar c ++ decode rest

end ScriptBench.Percent
