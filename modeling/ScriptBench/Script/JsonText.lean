import ScriptBench.Json.Numeral
import ScriptBench.Json.Reader
import ScriptBench.Script.Value

/-!
Reading a JSON text into a script value.

A script's own reader is looser than `Document.read`: it takes the escapes of script strings,
numbers such as `1.` and `-01`, and surrogates that stand alone. It looks one token ahead, so a
fault of the next token comes before the fault of a missing bracket. Every number is the nearest
double.
-/
namespace ScriptBench.JsonText

/-- What keeps a text from being read. -/
inductive Trouble where
  | ended
  | unexpected (token : List Char)
  /-- A character beyond ASCII outside of a string. -/
  | unknownCharacter
  | noName
  | expecting (mark : Char)
  /-- More follows the value. -/
  | excess
  | endInString
  | controlInString
  | badEscape
  /-- Brackets are nested too deep. -/
  | tooDeep
  deriving DecidableEq, Repr

namespace Trouble

def message : Trouble → String
  | .ended => "Unexpected end of JSON input"
  | .unexpected token =>
    "unexpected token: '" ++ String.ofList (token.takeWhile (·.toNat ≠ 0)) ++ "'"
  | .unknownCharacter => "unexpected character"
  | .noName => "expecting property name"
  | .expecting mark => "expecting '" ++ String.singleton mark ++ "'"
  | .excess => "unexpected data at the end"
  | .endInString => "unexpected end of string"
  | .controlInString => "invalid character in a JSON string"
  | .badEscape => "malformed escape sequence in string literal"
  | .tooDeep => "stack overflow"

/-- The error a script gets; a long message is cut. -/
def toError (t : Trouble) : Value :=
  .error "SyntaxError" ⟨(Text16.ofString t.message).units.take Value.messageRoom⟩ []

end Trouble

/-! Strings. -/

/-- The number that hexadecimal digits in braces stand for, up to the largest code point, and what
is left behind the closing brace. -/
def bracedHex : Nat → List Char → Option (Nat × List Char)
  | _, [] => none
  | acc, c :: rest =>
    match hexValue? c with
    | none => none
    | some d =>
      let acc := acc * 16 + d
      if 0x10FFFF < acc then none
      else
        match rest with
        | '\x7d' :: rest => some (acc, rest)
        | rest => bracedHex acc rest

/-- The number that so many hexadecimal digits stand for, and what is left. -/
def fixedHex : Nat → Nat → List Char → Option (Nat × List Char)
  | 0, acc, rest => some (acc, rest)
  | _ + 1, _, [] => none
  | count + 1, acc, c :: rest =>
    match hexValue? c with
    | some d => fixedHex count (acc * 16 + d) rest
    | none => none

/-- The units of a code point, which may be a surrogate. -/
def unitsOfCode (n : Nat) : List UInt16 :=
  if n < 0x10000 then [n.toUInt16] else Text16.unitsOfChar (Char.ofNat n)

/-- What an escape stands for, and what is left; the backslash has been read. A line break that is
escaped stands for nothing, and any other character for itself. -/
def escape : List Char → Except Trouble (List UInt16 × List Char)
  | [] => .error .endInString
  | '\r' :: '\n' :: rest => .ok ([], rest)
  | c :: rest =>
    if c = '\n' ∨ c = '\r' ∨ c.toNat = 0x2028 ∨ c.toNat = 0x2029 then .ok ([], rest)
    else if c.isDigit then .error .badEscape
    else if c = 'b' then .ok ([8], rest)
    else if c = 't' then .ok ([9], rest)
    else if c = 'n' then .ok ([10], rest)
    else if c = 'v' then .ok ([11], rest)
    else if c = 'f' then .ok ([12], rest)
    else if c = 'r' then .ok ([13], rest)
    else if c = 'x' ∨ c = 'u' then
      let code := match rest with
        | '\x7b' :: digits => bracedHex 0 digits
        | digits => fixedHex (if c = 'x' then 2 else 4) 0 digits
      match code with
      | some (n, rest) => .ok (unitsOfCode n, rest)
      | none => .error .badEscape
    else .ok (Text16.unitsOfChar c, rest)

/-- The inside of a string, and what is left behind the closing quote; `fuel` bounds the parts. -/
def inside : Nat → List Char → Except Trouble (List UInt16 × List Char)
  | _, [] => .error .endInString
  | 0, _ => .error .endInString
  | fuel + 1, c :: rest =>
    if c = '"' then .ok ([], rest)
    else if c.toNat < 32 then .error .controlInString
    else if c = '\\' then do
      let (units, rest) ← escape rest
      let (more, rest) ← inside fuel rest
      return (units ++ more, rest)
    else do
      let (more, rest) ← inside fuel rest
      return (Text16.unitsOfChar c ++ more, rest)

/-! Tokens. -/

inductive Token where
  | ended
  | mark (c : Char)
  | word (letters : List Char)
  | text (t : Text16)
  | number (x : Binary64)
  deriving Repr, Inhabited

/-- A place between two tokens: the token that comes next, and the text behind it. -/
structure Ahead where
  token : Token
  rest : List Char
  deriving Inhabited

def isBlank (c : Char) : Bool := c = ' ' || c = '\t' || c = '\n' || c = '\r'

def startsWord (c : Char) : Bool := c.isAlpha || c = '_' || c = '$'

def isInWord (c : Char) : Bool := startsWord c || c.isDigit

/-- The exponent of a number: `e`, a sign and digits. Without digits it is none. -/
def exponent : List Char → Option (Bool × List Nat) × List Char
  | [] => (none, [])
  | c :: rest =>
    let (down, digits) := match rest with
      | '-' :: ds => (true, ds)
      | '+' :: ds => (false, ds)
      | ds => (false, ds)
    match takeDigits digits with
    | ([], _) => (none, c :: rest)
    | (ds, left) => if c = 'e' ∨ c = 'E' then (some (down, ds), left) else (none, c :: rest)

/-- A number that starts with a digit; its sign has been read. -/
def number (negative : Bool) (cs : List Char) : Ahead :=
  let (whole, rest) := takeDigits cs
  let (fraction, rest) := match rest with
    | '.' :: r => takeDigits r
    | r => ([], r)
  let (e, rest) := exponent rest
  ⟨.number (Numeral.nearest ⟨negative, whole, fraction, e⟩), rest⟩

def startsWithDigit (cs : List Char) : Bool := (cs.head?.map Char.isDigit).getD false

/-- The next token. A zero in front of a digit, and a sign without one, stand alone. -/
def look (cs : List Char) : Except Trouble Ahead :=
  match cs.dropWhile isBlank with
  | [] => .ok ⟨.ended, []⟩
  | c :: rest =>
    if c = '"' then do
      let (units, rest) ← inside (rest.length + 1) rest
      return ⟨.text ⟨units⟩, rest⟩
    else if startsWord c then
      .ok ⟨.word (c :: rest.takeWhile isInWord), rest.dropWhile isInWord⟩
    else if c = '-' ∧ startsWithDigit rest then .ok (number true rest)
    else if c.isDigit ∧ ¬ (c = '0' ∧ startsWithDigit rest) then .ok (number false (c :: rest))
    else if 0x80 ≤ c.toNat then .error .unknownCharacter
    else .ok ⟨.mark c, rest⟩

/-! Values. -/

/-- Passes over a mark. -/
def expect (mark : Char) (a : Ahead) : Except Trouble Ahead :=
  match a.token with
  | .mark c => if c = mark then look a.rest else .error (.expecting mark)
  | _ => .error (.expecting mark)

/-- Whether a mark comes next. -/
def Ahead.isAt (a : Ahead) (mark : Char) : Bool :=
  match a.token with
  | .mark c => c == mark
  | _ => false

/-- How deep brackets may be nested. -/
def maxDepth : Nat := 6000

mutual

/-- Reads a value; `fuel` bounds the number of parts, and `depth` the nesting. -/
def value : Nat → Nat → Ahead → Except Trouble (Value × Ahead)
  | 0, _, _ => .error .ended
  | _, 0, _ => .error .tooDeep
  | fuel + 1, depth + 1, a =>
    match a.token with
    | .ended => .error .ended
    | .text t => do return (.string t, ← look a.rest)
    | .number x => do return (.number x, ← look a.rest)
    | .word letters =>
      if letters = "true".toList then do return (.bool true, ← look a.rest)
      else if letters = "false".toList then do return (.bool false, ← look a.rest)
      else if letters = "null".toList then do return (.null, ← look a.rest)
      else .error (.unexpected letters)
    | .mark c =>
      if c = '[' then do
        let a ← look a.rest
        if a.isAt ']' then return (.array [], ← look a.rest)
        else
          let (vs, a) ← items fuel depth a
          return (.array vs, ← expect ']' a)
      else if c = '\x7b' then do
        let a ← look a.rest
        if a.isAt '\x7d' then return (.object [], ← look a.rest)
        else
          let (ms, a) ← members fuel depth a
          return (Value.ofMembers ms, ← expect '\x7d' a)
      else .error (.unexpected [c])

/-- Reads items with commas between them. -/
def items : Nat → Nat → Ahead → Except Trouble (List Value × Ahead)
  | 0, _, _ => .error .ended
  | fuel + 1, depth, a => do
    let (v, a) ← value fuel depth a
    if a.isAt ',' then
      let (vs, a) ← items fuel depth (← look a.rest)
      return (v :: vs, a)
    else return ([v], a)

/-- Reads members with commas between them. -/
def members : Nat → Nat → Ahead → Except Trouble (List (Text16 × Value) × Ahead)
  | 0, _, _ => .error .ended
  | fuel + 1, depth, a => do
    match a.token with
    | .text name =>
      let a ← expect ':' (← look a.rest)
      let (v, a) ← value fuel depth a
      if a.isAt ',' then
        let (ms, a) ← members fuel depth (← look a.rest)
        return ((name, v) :: ms, a)
      else return ([(name, v)], a)
    | _ => throw .noName

end

/-- The value of a text. -/
def read (cs : List Char) : Except Trouble Value := do
  let (v, a) ← value (2 * cs.length + 2) maxDepth (← look cs)
  match a.token with
  | .ended => return v
  | _ => throw .excess

end ScriptBench.JsonText
