import ScriptBench.Number.Format
import ScriptBench.Text.Unseen

/-!
Why a JSON text, or a JSON value, could not be read, and where.

A `Reason` is a cause; its wording is in `Reason.message` alone. A `Fault` is a reason with the
place in a text where reading stopped, if the value came from a text.
-/
namespace ScriptBench

/-- A place in a text: the line from one, and the number of bytes of that line before it. -/
structure Position where
  line : Nat
  column : Nat
  deriving DecidableEq, Repr, Inhabited

namespace Position

def start : Position := ⟨1, 0⟩

/-- The place after a character. -/
def after (p : Position) (c : Char) : Position :=
  if c = '\n' then ⟨p.line + 1, 0⟩ else ⟨p.line, p.column + c.utf8Size⟩

/-- The place after the first byte of what follows, or the same place at the end of the text. -/
def onto (p : Position) : List Char → Position
  | [] => p
  | c :: _ => if c = '\n' then ⟨p.line + 1, 0⟩ else ⟨p.line, p.column + 1⟩

/-- The place after `count` bytes of what follows. -/
def afterBytes (p : Position) : Nat → List Char → Position
  | 0, _ => p
  | _, [] => p
  | count, c :: rest =>
    if c.utf8Size ≤ count then afterBytes (p.after c) (count - c.utf8Size) rest
    else ⟨p.line, p.column + count⟩

end Position

/-- What a value is, in the words of a type fault. -/
inductive Found where
  | null
  | bool (value : Bool)
  | int (value : Int)
  | float (value : Binary64)
  | str (value : String)
  | sequence
  | map
  deriving DecidableEq, Repr

/-- The cause of a fault. -/
inductive Reason where
  | endInValue
  | endInList
  | endInObject
  | endInString
  | expectedValue
  | expectedIdent
  | expectedListCommaOrEnd
  | expectedObjectCommaOrEnd
  | expectedColon
  | keyNotString
  | trailingComma
  | trailingCharacters
  | invalidNumber
  | numberOutOfRange
  | invalidEscape
  | controlCharacter
  | unfinishedSurrogate
  | loneSurrogate
  | recursionLimit
  | invalidType (found : Found) (expected : String)
  | invalidValue (found : Found) (expected : String)
  | invalidLength (length : Nat) (expected : String)
  | unknownVariant (name : String) (variants : List String)
  | missingField (name : String)
  | duplicateField (name : String)
  | custom (message : String)
  deriving DecidableEq, Repr

/-- A cause, and the place where it showed. -/
structure Fault where
  reason : Reason
  place : Option Position
  deriving DecidableEq, Repr

namespace Found

def message : Found → String
  | .null => "null"
  | .bool b => "boolean `" ++ (if b then "true" else "false") ++ "`"
  | .int n => "integer `" ++ toString n ++ "`"
  | .float x => "floating point `" ++ DoubleFormat.json.text x ++ "`"
  | .str s => "string " ++ String.ofList (quoted s.toList)
  | .sequence => "sequence"
  | .map => "map"
where
  /-- A string between quotes. The quote and the backslash are escaped, and a character that could
  not be seen on its own is named by its number. -/
  quoted (cs : List Char) : List Char :=
    '"' :: cs.flatMap escape ++ ['"']
  escape (c : Char) : List Char :=
    if c = '"' then ['\\', '"']
    else if c = '\\' then ['\\', '\\']
    else if c = '\n' then ['\\', 'n']
    else if c = '\r' then ['\\', 'r']
    else if c = '\t' then ['\\', 't']
    else if c.toNat = 0 then ['\\', '0']
    else if Unseen.isUnseen c || Marks.isExtending c then
      '\\' :: 'u' :: '\x7b' :: Nat.toDigits 16 c.toNat ++ ['\x7d']
    else [c]

end Found

namespace Reason

/-- The names a variant may have, as a choice. -/
def choice : List String → String
  | [] => "there are no variants"
  | [a] => "expected `" ++ a ++ "`"
  | [a, b] => "expected `" ++ a ++ "` or `" ++ b ++ "`"
  | names => "expected one of " ++ ", ".intercalate (names.map fun n => "`" ++ n ++ "`")

def message : Reason → String
  | .endInValue => "EOF while parsing a value"
  | .endInList => "EOF while parsing a list"
  | .endInObject => "EOF while parsing an object"
  | .endInString => "EOF while parsing a string"
  | .expectedValue => "expected value"
  | .expectedIdent => "expected ident"
  | .expectedListCommaOrEnd => "expected `,` or `]`"
  | .expectedObjectCommaOrEnd => "expected `,` or `\x7d`"
  | .expectedColon => "expected `:`"
  | .keyNotString => "key must be a string"
  | .trailingComma => "trailing comma"
  | .trailingCharacters => "trailing characters"
  | .invalidNumber => "invalid number"
  | .numberOutOfRange => "number out of range"
  | .invalidEscape => "invalid escape"
  | .controlCharacter => "control character (\\u0000-\\u001F) found while parsing a string"
  | .unfinishedSurrogate => "unexpected end of hex escape"
  | .loneSurrogate => "lone leading surrogate in hex escape"
  | .recursionLimit => "recursion limit exceeded"
  | .invalidType found expected => "invalid type: " ++ found.message ++ ", expected " ++ expected
  | .invalidValue found expected => "invalid value: " ++ found.message ++ ", expected " ++ expected
  | .invalidLength length expected =>
    "invalid length " ++ toString length ++ ", expected " ++ expected
  | .unknownVariant name variants => "unknown variant `" ++ name ++ "`, " ++ choice variants
  | .missingField name => "missing field `" ++ name ++ "`"
  | .duplicateField name => "duplicate field `" ++ name ++ "`"
  | .custom message => message

end Reason

namespace Fault

def message (f : Fault) : String :=
  match f.place with
  | none => f.reason.message
  | some p => f.reason.message ++ " at line " ++ toString p.line ++ " column " ++ toString p.column

end Fault

end ScriptBench
