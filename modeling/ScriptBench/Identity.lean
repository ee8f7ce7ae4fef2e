import ScriptBench.Json.Decoder
import ScriptBench.Json.Text
import ScriptBench.Text.Case

/-!
Identifiers of runs and instances: 128-bit numbers in the hyphenated hexadecimal form.

Reading also takes the form without hyphens, braces around it, and the `urn:uuid:` scheme, all in
any case; writing always gives the hyphenated lower-case form.

These are `RunId` and `InstanceId`.
-/
namespace ScriptBench

/-- A universally unique identifier as its 32 hexadecimal digits. -/
structure Identity where
  digits : List Nat
  deriving DecidableEq, Repr, Inhabited

namespace Identity

/-- The lengths of the groups between hyphens. -/
def groups : List Nat := [8, 4, 4, 4, 12]

def nil : Identity := ⟨List.replicate 32 0⟩

/-- The hyphenated lower-case form. -/
def text (i : Identity) : String :=
  String.ofList (hyphenated groups (i.digits.map Json.hexDigit))
where
  hyphenated : List Nat → List Char → List Char
    | [], _ => []
    | [n], cs => cs.take n
    | n :: ns, cs => cs.take n ++ '-' :: hyphenated ns (cs.drop n)

/-- Splits a text at hyphens. -/
def splitHyphens (cs : List Char) : List (List Char) :=
  cs.foldr (fun c acc =>
    match c, acc with
    | '-', acc => [] :: acc
    | c, [] => [[c]]
    | c, part :: rest => (c :: part) :: rest) [[]]

/-- The first character that belongs to no identifier, and how many stand before it. -/
def stray? (shift : Nat) : List Char → Option (Char × Nat)
  | [] => none
  | c :: rest =>
    if c = '-' ∨ (hexValue? c).isSome then stray? (shift + 1) rest else some (c, shift)

/-- What is wrong with a text that is no identifier. -/
def complaint (inner : List Char) (shift size : Nat) (plain : Bool) : String :=
  match stray? shift inner with
  | some (c, i) => "invalid character: found `" ++ c.toString ++ "` at " ++ toString i
  | none =>
    let parts := splitHyphens inner
    if parts.length = 1 ∧ plain then
      "invalid length: found " ++ toString size
    else if parts.length ≠ 5 then
      "invalid group count: expected 5, found " ++ toString parts.length
    else
      match ((List.range 5).zip ((parts.map List.length).zip groups)).find?
          fun (_, a, b) => a != b with
      | some (i, a, b) =>
        "invalid group length in group " ++ toString i ++ ": expected " ++ toString b ++
          ", found " ++ toString (if i = 4 then size - 24 else a)
      | none => "failed to parse a UUID"

/-- The digits of five hyphenated groups or, where allowed, of 32 digits together. -/
def digits? (plain : Bool) (inner : List Char) : Option (List Nat) :=
  let parts := splitHyphens inner
  let sizes := parts.map List.length
  if sizes = groups ∨ (plain ∧ sizes = [32]) then parts.flatten.mapM hexValue? else none

/-- The identifier a text stands for. Inside braces or a scheme only the hyphenated form counts. -/
def parse (text : String) : Except String Identity :=
  let cs := text.toList
  let (inner, shift, plain) :=
    if cs.head? = some '\x7b' ∧ cs.getLast? = some '\x7d' ∧ 1 < cs.length then
      (cs.tail.dropLast, 1, false)
    else if (cs.take 9).map Lowercase.ofAscii = "urn:uuid:".toList then (cs.drop 9, 9, false)
    else (cs, 0, true)
  match digits? plain inner with
  | some ds => .ok ⟨ds⟩
  | none => .error ("UUID parsing failed: " ++ complaint inner shift text.utf8ByteSize plain)

def decoder : Decoder Identity := Decoder.parsed "a formatted UUID string" parse

def toJson (i : Identity) : Json := .str i.text

end Identity

end ScriptBench
