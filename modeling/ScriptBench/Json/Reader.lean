import ScriptBench.Json.Node

/-!
Reading a JSON text into a tree of places.

The reader never fails: `Document.read` gives a tree for every text, with broken parts where the
text is none. Blanks are space, tab, carriage return and line feed. Columns count bytes.
-/
namespace ScriptBench

/-- What is left of a text, and the place where it starts. -/
structure Cursor where
  rest : List Char
  place : Position
  deriving Repr, Inhabited

namespace Cursor

/-- The cursor at the start of a text. -/
def ofText (text : String) : Cursor := ⟨text.toList, .start⟩

def isBlank (c : Char) : Bool := c = ' ' || c = '\t' || c = '\n' || c = '\r'

/-- Passes over blanks. -/
def skipBlanks (c : Cursor) : Cursor := go c.rest c.place
where
  go : List Char → Position → Cursor
    | [], p => ⟨[], p⟩
    | ch :: rest, p => if isBlank ch then go rest (p.after ch) else ⟨ch :: rest, p⟩

/-- A fault at the character that stands next. -/
def peekFault (c : Cursor) (reason : Reason) : Fault := ⟨reason, some (c.place.onto c.rest)⟩

/-- A fault at the place reached. -/
def fault (c : Cursor) (reason : Reason) : Fault := ⟨reason, some c.place⟩

/-- The cursor one character on. -/
def next (c : Cursor) : Cursor :=
  match c.rest with
  | [] => c
  | ch :: rest => ⟨rest, c.place.after ch⟩

/-- The text starts with this character. -/
def startsWith (c : Cursor) (ch : Char) : Bool :=
  match c.rest with
  | [] => false
  | d :: _ => d == ch

/-- Passes over the letters of a word; the fault is at the first letter that differs. -/
def word (c : Cursor) : List Char → Except Fault Cursor
  | [] => .ok c
  | w :: ws =>
    match c.rest with
    | [] => .error (c.fault .endInValue)
    | ch :: rest =>
      if ch = w then word ⟨rest, c.place.after ch⟩ ws else .error (c.peekFault .expectedIdent)

end Cursor

/-! Strings. -/

/-- What reading a string literal gave: its characters, or the fault for whoever wants them
(`wanted`) and for whoever passes over it (`skipped`); `rest` is where reading can go on. -/
structure Literal where
  wanted : Except Fault (List Char)
  skipped : Option Fault
  rest : Option Cursor

namespace Literal

/-- A literal that neither can be used nor passed over. -/
def stop (wanted skipped : Fault) : Literal := ⟨.error wanted, some skipped, none⟩

/-- Puts characters in front. -/
def push (cs : List Char) (l : Literal) : Literal :=
  { l with wanted := l.wanted.map (cs ++ ·) }

/-- A fault in front that only matters to whoever wants the characters. -/
def spoil (f : Fault) (l : Literal) : Literal :=
  { l with wanted := .error f }

end Literal

/-- The value of a hexadecimal digit. -/
def hexValue? (c : Char) : Option Nat :=
  let n := c.toNat
  if 48 ≤ n ∧ n ≤ 57 then some (n - 48)
  else if 97 ≤ n ∧ n ≤ 102 then some (n - 87)
  else if 65 ≤ n ∧ n ≤ 70 then some (n - 55)
  else none

/-- The number four hexadecimal digits stand for. -/
def hexQuad? (a b c d : Char) : Option Nat :=
  match hexValue? a, hexValue? b, hexValue? c, hexValue? d with
  | some a, some b, some c, some d => some (((a * 16 + b) * 16 + c) * 16 + d)
  | _, _, _, _ => none

def isLeadSurrogate (n : Nat) : Bool := 0xD800 ≤ n && n ≤ 0xDBFF
def isTrailSurrogate (n : Nat) : Bool := 0xDC00 ≤ n && n ≤ 0xDFFF

/-- The character of a surrogate pair. -/
def joinSurrogates (lead trail : Nat) : Char :=
  Char.ofNat (0x10000 + (lead - 0xD800) * 0x400 + (trail - 0xDC00))

/-- The character a one-letter escape stands for. -/
def simpleEscape? (c : Char) : Option Char :=
  if c = '"' then some '"'
  else if c = '\\' then some '\\'
  else if c = '/' then some '/'
  else if c = 'b' then some (Char.ofNat 8)
  else if c = 'f' then some (Char.ofNat 12)
  else if c = 'n' then some '\n'
  else if c = 'r' then some '\r'
  else if c = 't' then some '\t'
  else none

/-- The fault of a hexadecimal escape whose four bytes, which start here, are not four digits. -/
def badQuad (p : Position) (rest : List Char) : Fault :=
  if (String.ofList rest).utf8ByteSize < 4 then
    ⟨.endInString, some (p.afterBytes (4 + 4 * rest.length) rest)⟩
  else ⟨.invalidEscape, some (p.afterBytes 4 rest)⟩

/-- The fault of what follows a leading surrogate, when it is not a trailing one. -/
def afterLead (p : Position) : List Char → Fault
  | [] => ⟨.endInString, some p⟩
  | '\\' :: [] => ⟨.endInString, some (p.after '\\')⟩
  | '\\' :: 'u' :: a :: b :: c :: d :: rest =>
    match hexQuad? a b c d with
    | some _ => ⟨.loneSurrogate, some ⟨p.line, p.column + 6⟩⟩
    | none => badQuad ⟨p.line, p.column + 2⟩ (a :: b :: c :: d :: rest)
  | '\\' :: 'u' :: rest => badQuad ⟨p.line, p.column + 2⟩ rest
  | '\\' :: rest => ⟨.unfinishedSurrogate, some ((p.after '\\').onto rest)⟩
  | rest => ⟨.unfinishedSurrogate, some (p.onto rest)⟩

/-- Reads the inside of a string literal up to and with the closing quote. -/
def readLiteral : List Char → Position → Literal
  | [], p => .stop ⟨.endInString, some p⟩ ⟨.endInString, some p⟩
  | '"' :: rest, p => ⟨.ok [], none, some ⟨rest, p.after '"'⟩⟩
  | '\\' :: 'u' :: a :: b :: c :: d :: '\\' :: 'u' :: e :: f :: g :: h :: rest, p =>
    let q : Position := ⟨p.line, p.column + 6⟩
    match hexQuad? a b c d with
    | none =>
      let fault := badQuad ⟨p.line, p.column + 2⟩ (a :: b :: c :: d :: rest)
      .stop fault fault
    | some n =>
      if isTrailSurrogate n then
        (readLiteral ('\\' :: 'u' :: e :: f :: g :: h :: rest) q).spoil ⟨.loneSurrogate, some q⟩
      else if isLeadSurrogate n then
        match hexQuad? e f g h with
        | some m =>
          if isTrailSurrogate m then
            (readLiteral rest ⟨p.line, p.column + 12⟩).push [joinSurrogates n m]
          else
            (readLiteral ('\\' :: 'u' :: e :: f :: g :: h :: rest) q).spoil
              (afterLead q ('\\' :: 'u' :: e :: f :: g :: h :: rest))
        | none =>
          (readLiteral ('\\' :: 'u' :: e :: f :: g :: h :: rest) q).spoil
            (afterLead q ('\\' :: 'u' :: e :: f :: g :: h :: rest))
      else (readLiteral ('\\' :: 'u' :: e :: f :: g :: h :: rest) q).push [Char.ofNat n]
  | '\\' :: 'u' :: a :: b :: c :: d :: rest, p =>
    let q : Position := ⟨p.line, p.column + 6⟩
    match hexQuad? a b c d with
    | none =>
      let fault := badQuad ⟨p.line, p.column + 2⟩ (a :: b :: c :: d :: rest)
      .stop fault fault
    | some n =>
      if isTrailSurrogate n then (readLiteral rest q).spoil ⟨.loneSurrogate, some q⟩
      else if isLeadSurrogate n then (readLiteral rest q).spoil (afterLead q rest)
      else (readLiteral rest q).push [Char.ofNat n]
  | '\\' :: 'u' :: rest, p =>
    let fault := badQuad ⟨p.line, p.column + 2⟩ rest
    .stop fault fault
  | ['\\'], p => .stop ⟨.endInString, some (p.after '\\')⟩ ⟨.endInString, some (p.after '\\')⟩
  | '\\' :: c :: rest, p =>
    let q := p.after '\\'
    match simpleEscape? c with
    | some ch => (readLiteral rest (q.after c)).push [ch]
    | none =>
      .stop ⟨.invalidEscape, some (q.onto (c :: rest))⟩ ⟨.invalidEscape, some (q.onto (c :: rest))⟩
  | c :: rest, p =>
    if c.toNat < 32 then
      .stop ⟨.controlCharacter, some (p.after c)⟩ ⟨.controlCharacter, some p⟩
    else (readLiteral rest (p.after c)).push [c]

/-! Numbers. -/

/-- The digits in front. -/
def takeDigits : List Char → List Nat × List Char
  | [] => ([], [])
  | c :: rest =>
    if c.isDigit then
      let (ds, rest') := takeDigits rest
      ((c.toNat - 48) :: ds, rest')
    else ([], c :: rest)

/-- The cursor after `count` one-byte characters. -/
def Cursor.onward (c : Cursor) (count : Nat) (rest : List Char) : Cursor :=
  ⟨rest, ⟨c.place.line, c.place.column + count⟩⟩

/-- A number that breaks off: whoever wants the value sees the end of the text as such. -/
def brokenNumber (start : Place) (c : Cursor) : Node × Option Cursor :=
  let wrong := c.peekFault .invalidNumber
  (.broken start (if c.rest.isEmpty then c.fault .endInValue else wrong) (some wrong), none)

/-- The node of a complete literal. -/
def numberNode (start : Place) (n : Numeral) (c : Cursor) : Node × Option Cursor :=
  (.numeral start n (some c.place), some c)

/-- The exponent of a literal, if there is one, and the node. -/
def readExponent (start : Place) (negative : Bool) (whole fraction : List Nat) (c : Cursor) :
    Node × Option Cursor :=
  if c.startsWith 'e' || c.startsWith 'E' then
    let c := c.next
    let down := c.startsWith '-'
    let c := if down || c.startsWith '+' then c.next else c
    match takeDigits c.rest with
    | ([], _) => brokenNumber start c
    | (ds, rest) =>
      numberNode start ⟨negative, whole, fraction, some (down, ds)⟩ (c.onward ds.length rest)
  else numberNode start ⟨negative, whole, fraction, none⟩ c

/-- What follows the digits before the point. -/
def readFraction (start : Place) (negative : Bool) (whole : List Nat) (c : Cursor) :
    Node × Option Cursor :=
  if c.startsWith '.' then
    let c := c.next
    match takeDigits c.rest with
    | ([], _) => brokenNumber start c
    | (ds, rest) => readExponent start negative whole ds (c.onward ds.length rest)
  else readExponent start negative whole [] c

/-- A number literal; its sign has been read. A zero in front stands alone. -/
def readNumber (start : Place) (negative : Bool) (c : Cursor) : Node × Option Cursor :=
  match takeDigits c.rest with
  | ([], _) => brokenNumber start c
  | (ds, rest) =>
    if ds.head? = some 0 ∧ 1 < ds.length then
      let wrong := c.next.peekFault .invalidNumber
      (.broken start wrong (some wrong), none)
    else readFraction start negative ds (c.onward ds.length rest)

/-! Values. -/

/-- The node of a fault that ends the reading. -/
def lost (start : Place) (f : Fault) : Node × Option Cursor := (.broken start f (some f), none)

/-- The node of a string literal whose opening quote has been read. -/
def literalNode (start : Place) (c : Cursor) : Node × Option Cursor :=
  let l := readLiteral c.rest c.place
  match l.wanted with
  | .ok cs => (.str start (String.ofList cs) (l.rest.map (·.place)), l.rest)
  | .error f => (.broken start f l.skipped, l.rest)

/-- An array that breaks off at a cursor. -/
def noItems (c : Cursor) (fault skipped : Fault) : Items × Option Cursor :=
  (.broken (some c.place) fault skipped, none)

/-- An object that breaks off. -/
def noMembers (here : Place) (fault skipped : Fault) : Members × Option Cursor :=
  (.broken here fault skipped, none)

mutual

/-- Reads one value; `fuel` bounds the nesting and the number of parts. -/
def readNode : Nat → Cursor → Node × Option Cursor
  | 0, c => lost (some c.place) (c.fault .endInValue)
  | fuel + 1, c =>
    let c := c.skipBlanks
    let start := some c.place
    match c.rest with
    | [] => lost start (c.fault .endInValue)
    | ch :: _ =>
      if ch = '"' then literalNode start c.next
      else if ch = '[' then
        let (items, rest) := readItems fuel true c.next
        (.array start items, rest)
      else if ch = '\x7b' then
        let (members, rest) := readMembers fuel true c.next
        (.object start members, rest)
      else if ch = '-' then readNumber start true c.next
      else if ch.isDigit then readNumber start false c
      else if ch = 'n' then
        match c.next.word ['u', 'l', 'l'] with
        | .ok rest => (.null start (some rest.place), some rest)
        | .error f => lost start f
      else if ch = 't' then
        match c.next.word ['r', 'u', 'e'] with
        | .ok rest => (.bool start true (some rest.place), some rest)
        | .error f => lost start f
      else if ch = 'f' then
        match c.next.word ['a', 'l', 's', 'e'] with
        | .ok rest => (.bool start false (some rest.place), some rest)
        | .error f => lost start f
      else lost start (c.peekFault .expectedValue)

/-- Reads the items that follow an opening bracket (`first`) or an item. -/
def readItems : Nat → Bool → Cursor → Items × Option Cursor
  | 0, _, c => noItems c (c.fault .endInList) (c.fault .endInList)
  | fuel + 1, first, c =>
    let c := c.skipBlanks
    match c.rest with
    | [] => noItems c (c.fault .endInList) (c.fault .endInList)
    | ch :: _ =>
      if ch = ']' then (.closed (some c.next.place), some c.next)
      else if first then readItem fuel c
      else if ch = ',' then
        let c := c.next.skipBlanks
        if c.rest.isEmpty then noItems c (c.fault .endInValue) (c.fault .endInValue)
        else if c.startsWith ']' then
          noItems c (c.peekFault .trailingComma) (c.peekFault .expectedValue)
        else readItem fuel c
      else
        noItems c (c.peekFault .expectedListCommaOrEnd) (c.peekFault .expectedListCommaOrEnd)

/-- Reads one item and what follows it. -/
def readItem : Nat → Cursor → Items × Option Cursor
  | 0, c => noItems c (c.fault .endInList) (c.fault .endInList)
  | fuel + 1, c =>
    match readNode fuel c with
    | (v, none) => (.item v (noItems c (c.fault .endInList) (c.fault .endInList)).1, none)
    | (v, some c) =>
      let (rest, c) := readItems fuel false c
      (.item v rest, c)

/-- Reads the members that follow an opening brace (`first`) or a member. -/
def readMembers : Nat → Bool → Cursor → Members × Option Cursor
  | 0, _, c => noMembers (some c.place) (c.fault .endInObject) (c.fault .endInObject)
  | fuel + 1, first, c =>
    let c := c.skipBlanks
    let here := some c.place
    match c.rest with
    | [] => noMembers here (c.fault .endInObject) (c.fault .endInObject)
    | ch :: _ =>
      if ch = '\x7d' then (.closed (some c.next.place), some c.next)
      else if first then readMember fuel here c
      else if ch = ',' then readMember fuel here c.next.skipBlanks
      else
        noMembers here (c.peekFault .expectedObjectCommaOrEnd)
          (c.peekFault .expectedObjectCommaOrEnd)

/-- Reads one member and what follows it. Where a value is read a missing key is a missing value or
a comma too many; where the object is passed over it is just no key. -/
def readMember : Nat → Place → Cursor → Members × Option Cursor
  | 0, here, c => noMembers here (c.fault .endInObject) (c.fault .endInObject)
  | fuel + 1, here, c =>
    match c.rest with
    | [] => noMembers here (c.fault .endInValue) (c.fault .endInObject)
    | ch :: _ =>
      if ch = '"' then
        let ended := (noMembers here (c.fault .endInObject) (c.fault .endInObject)).1
        match literalNode (some c.place) c.next with
        | (key, none) => (.member here key none default ended, none)
        | (key, some c) =>
          let c := c.skipBlanks
          let after := some (if c.startsWith '\x7d' then c.next.place else c.place)
          match readColon fuel c with
          | (v, none) => (.member here key after v ended, none)
          | (v, some c) =>
            let (rest, c) := readMembers fuel false c
            (.member here key after v rest, c)
      else if ch = '\x7d' then
        noMembers here (c.peekFault .trailingComma) (c.peekFault .keyNotString)
      else (.stray here (readNode fuel c).1, none)

/-- Reads the colon and the value of a member. -/
def readColon : Nat → Cursor → Node × Option Cursor
  | 0, c => lost (some c.place) (c.fault .endInObject)
  | fuel + 1, c =>
    match c.rest with
    | [] => lost (some c.place) (c.fault .endInObject)
    | ch :: _ =>
      if ch = ':' then readNode fuel c.next
      else lost (some c.place) (c.peekFault .expectedColon)

end

/-- Reads a whole text. -/
def Document.read (text : String) : Document :=
  let chars := text.toList
  match readNode (4 * chars.length + 4) ⟨chars, .start⟩ with
  | (root, none) => ⟨root, none⟩
  | (root, some c) =>
    let c := c.skipBlanks
    ⟨root, if c.rest.isEmpty then none else some (c.peekFault .trailingCharacters)⟩

end ScriptBench
