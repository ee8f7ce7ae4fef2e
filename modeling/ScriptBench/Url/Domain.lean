import ScriptBench.Text.Direction
import ScriptBench.Text.Folding
import ScriptBench.Text.Joining
import ScriptBench.Url.Form
import ScriptBench.Url.Punycode

/-!
Domain names in the form that goes over the wire.

Characters take their common and composed form, and labels with characters outside of ASCII get
their ASCII form. A label that is given in ASCII form has to stand for a label that has that form.
Names that hold what no domain can have, or that cannot be read without ambiguity, are refused.
-/
namespace ScriptBench.Domain

/-- ASCII characters that no domain can have. -/
def isDenied (c : Char) : Bool :=
  c.toNat ≤ 0x20 || c.toNat = 0x7F ||
    ['%', '#', '/', ':', '<', '>', '?', '@', '[', '\\', ']', '^', '|'].contains c

def isAscii (cs : List Char) : Bool := cs.all fun c => c.toNat < 128

/-- A text in its common form, if every character has a place in a name. -/
def common? (cs : List Char) : Option (List Char) :=
  (cs.mapM Folding.fold?).map fun folded => Composition.compose folded.flatten

/-- A label may not begin with a mark that belongs to the character before it. -/
def beginsWithMark : List Char → Bool
  | c :: _ => Marks.isMark c
  | [] => false

/-- What begins the ASCII form of a label. -/
def acePrefix : List Char := "xn--".toList

/-- The longest ASCII form that is read, without what begins it. -/
def maxRead : Nat := 2000

/-- The longest label that is written in ASCII form. -/
def maxWritten : Nat := 1000

/-- The label that an ASCII form stands for. -/
def ofAscii? (code : List Char) : Option (List Char) :=
  if maxRead < code.length then none
  else (Punycode.decode? code).filter fun label => !isAscii label && common? label = some label

/-- The label that is meant by a written one. -/
def meaning? (label : List Char) : Option (List Char) :=
  if acePrefix.isPrefixOf label then ofAscii? (label.drop acePrefix.length)
  else if !isAscii label && maxWritten < label.length then none
  else some label

/-- Whether a label can stand by itself. -/
def isSound (label : List Char) : Bool :=
  isAscii label || (!beginsWithMark label && Joining.allMatter [] label)

/-- Whether labels can stand together: where one is written backward, each has to be readable. -/
def areReadable (labels : List (List Char)) : Bool :=
  !labels.any (·.any fun c => (Direction.ofChar c).isBackward) || labels.all Direction.isReadable

/-- A written label in ASCII. -/
def encodeLabel (label : List Char) : List Char :=
  if isAscii label then label else acePrefix ++ Punycode.encode label

/-- Joins labels by full stops. -/
def join : List (List Char) → List Char
  | [] => []
  | [label] => label
  | label :: rest => label ++ '.' :: join rest

/-- A domain name in ASCII. -/
def toAscii? (name : List Char) : Option (List Char) := do
  let text ← common? name
  let labels := Form.split '.' text
  let meant ← labels.mapM meaning?
  if text.any isDenied || !meant.all isSound || !areReadable meant then none
  else some (join (labels.map encodeLabel))

end ScriptBench.Domain
