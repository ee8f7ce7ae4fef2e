import ScriptBench.Url.Percent

/-!
The query of an address as a list of pairs.

Pairs are joined by `&`, a name and its value by `=`. Letters, digits and `*-._` stand for
themselves, a blank is written as `+`, and every other byte is escaped, so no separator comes out of
a name or a value.
-/
namespace ScriptBench.Form

/-- Characters that stand for themselves. -/
def isPlain (c : Char) : Bool :=
  ('0' ≤ c && c ≤ '9') || ('a' ≤ c && c ≤ 'z') || ('A' ≤ c && c ≤ 'Z') ||
    c == '*' || c == '-' || c == '.' || c == '_'

def encodeChar (c : Char) : List Char :=
  if c = ' ' then ['+']
  else if isPlain c then [c]
  else (String.utf8EncodeChar c).flatMap Percent.escape

/-- A name or a value as it stands in a query. -/
def encode (s : String) : List Char := s.toList.flatMap encodeChar

def encodePair (name value : String) : List Char := encode name ++ '=' :: encode value

/-- A query with one more pair. -/
def appendPair (query : List Char) (name value : String) : List Char :=
  if query.isEmpty then encodePair name value else query ++ '&' :: encodePair name value

/-- A name or a value as it was meant. -/
def decode (cs : List Char) : String :=
  let blanks := cs.map fun c => if c = '+' then ' ' else c
  String.ofList (Utf8.decode (Percent.decode blanks))

/-- The parts between separators. -/
def split (separator : Char) : List Char → List (List Char)
  | [] => [[]]
  | c :: rest =>
    if c = separator then [] :: split separator rest
    else
      match split separator rest with
      | [] => [[c]]
      | part :: parts => (c :: part) :: parts

/-- The pair of a part; without `=` the value is empty. -/
def decodePair (part : List Char) : String × String :=
  (decode (part.takeWhile (· != '=')), decode ((part.dropWhile (· != '=')).drop 1))

/-- The pairs of a query; empty parts are passed over. -/
def decodePairs (query : List Char) : List (String × String) :=
  ((split '&' query).filter (!·.isEmpty)).map decodePair

end ScriptBench.Form
