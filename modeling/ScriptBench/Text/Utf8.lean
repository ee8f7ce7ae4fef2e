/-!
Text as bytes, and bytes as text.

Writing gives each character its one to four bytes. Reading never fails: where bytes are not the
form of a character, the longest beginning of one, or else a single byte, becomes the replacement
character.
-/
namespace ScriptBench.Utf8

/-- The bytes of a text. -/
def encode (cs : List Char) : List UInt8 := cs.flatMap String.utf8EncodeChar

/-- What stands for bytes that are no character. -/
def replacement : Char := '\uFFFD'

/-- A character that has begun: how many bytes are missing, between which bounds the next one lies,
and the value so far. -/
structure Partial where
  missing : Nat
  lowest : Nat
  highest : Nat
  value : Nat

/-- What the first byte of a character tells. -/
inductive Start where
  | whole (c : Char)
  | begun (p : Partial)
  | stray

def start (b : Nat) : Start :=
  if b < 0x80 then .whole (Char.ofNat b)
  else if b < 0xC2 then .stray
  else if b < 0xE0 then .begun ⟨1, 0x80, 0xBF, b - 0xC0⟩
  else if b < 0xF0 then
    .begun ⟨2, if b = 0xE0 then 0xA0 else 0x80, if b = 0xED then 0x9F else 0xBF, b - 0xE0⟩
  else if b < 0xF5 then
    .begun ⟨3, if b = 0xF0 then 0x90 else 0x80, if b = 0xF4 then 0x8F else 0xBF, b - 0xF0⟩
  else .stray

/-- Reads bytes, some of a character having been read before. -/
def decodeFrom : Option Partial → List UInt8 → List Char
  | none, [] => []
  | some _, [] => [replacement]
  | before, b :: rest =>
    let byte := b.toNat
    let afresh (lost : List Char) : List Char :=
      match start byte with
      | .whole c => lost ++ c :: decodeFrom none rest
      | .begun p => lost ++ decodeFrom (some p) rest
      | .stray => lost ++ replacement :: decodeFrom none rest
    match before with
    | none => afresh []
    | some p =>
      if p.lowest ≤ byte && byte ≤ p.highest then
        let value := p.value * 64 + (byte - 0x80)
        match p.missing with
        | 0 | 1 => Char.ofNat value :: decodeFrom none rest
        | missing + 1 => decodeFrom (some ⟨missing, 0x80, 0xBF, value⟩) rest
      else afresh [replacement]

/-- The text of bytes. -/
def decode (bytes : List UInt8) : List Char := decodeFrom none bytes

/-- The text of bytes that are the form of one. -/
def decode? (bytes : List UInt8) : Option (List Char) :=
  let cs := decode bytes
  if encode cs = bytes then some cs else none

end ScriptBench.Utf8
