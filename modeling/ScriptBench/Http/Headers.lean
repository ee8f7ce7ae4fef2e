import ScriptBench.Http.Message
import ScriptBench.Text.Case
import ScriptBench.Text.Utf8

/-!
The names, values and methods that may go over the wire, headers as a map from a name to several
values, and the header that carries credentials.
-/
namespace ScriptBench

/-- Characters of method and header names. -/
def isTokenChar (c : Char) : Bool :=
  ('0' ≤ c && c ≤ '9') || ('a' ≤ c && c ≤ 'z') || ('A' ≤ c && c ≤ 'Z') ||
    ['!', '#', '$', '%', '&', '\x27', '*', '+', '-', '.', '^', '_', '\x60', '|', '~'].contains c

def isToken (s : String) : Bool := !s.isEmpty && s.toList.all isTokenChar

/-- The longest name of a header. -/
def maxHeaderName : Nat := 65535

def isHeaderName (s : String) : Bool := isToken s && s.length ≤ maxHeaderName

/-- Text in which nothing but tabs controls anything. -/
def isHeaderValue (s : String) : Bool :=
  s.toList.all fun c => c == '\t' || (0x20 ≤ c.toNat && c.toNat ≠ 0x7F)

/-- The method of a request in capital letters, if it is one. -/
def readMethod? (s : String) : Option String :=
  let upper := Uppercase.ofString s
  if isToken upper then some upper else none

/-- Headers by name, in the order in which the names first came; names are in lower case. -/
structure HeaderMap where
  entries : List (String × List String)
  deriving DecidableEq, Repr, Inhabited

namespace HeaderMap

def empty : HeaderMap := ⟨[]⟩

/-- The form of a name under which its values are kept. -/
def canonical (name : String) : String := String.ofList (name.toList.map Lowercase.ofAscii)

/-- The values of a name, in any case. -/
def values (m : HeaderMap) (name : String) : List String :=
  (m.entries.lookup (canonical name)).getD []

/-- Entries with one more value for a name. -/
def appendEntry (name value : String) : List (String × List String) → List (String × List String)
  | [] => [(name, [value])]
  | (n, vs) :: rest =>
    if n = name then (n, vs ++ [value]) :: rest else (n, vs) :: appendEntry name value rest

/-- The map with one more value. -/
def append (m : HeaderMap) (name value : String) : HeaderMap :=
  ⟨appendEntry (canonical name) value m.entries⟩

/-- The map of headers in a row. -/
def ofList (headers : List NamedValue) : HeaderMap :=
  headers.foldl (fun m h => m.append h.name h.value) empty

/-- The map with a value for a name that has none. -/
def setDefault (m : HeaderMap) (name value : String) : HeaderMap :=
  if (m.values name).isEmpty then m.append name value else m

/-- All headers, one after the other. -/
def toList (m : HeaderMap) : List NamedValue :=
  m.entries.flatMap fun (name, vs) => vs.map fun v => ⟨name, v⟩

end HeaderMap

/-! ## Credentials -/

namespace Base64

/-- The character of a value below 64. -/
def digit (n : Nat) : Char :=
  if n < 26 then Char.ofNat (65 + n)
  else if n < 52 then Char.ofNat (71 + n)
  else if n < 62 then Char.ofNat (n - 4)
  else if n = 62 then '+'
  else '/'

/-- Bytes as text of 64 characters: three bytes are four characters, and what is missing at the end
is filled up with equals signs. -/
def encode : List UInt8 → List Char
  | [] => []
  | [a] => [digit (a.toNat / 4), digit (a.toNat % 4 * 16), '=', '=']
  | [a, b] =>
    [digit (a.toNat / 4), digit (a.toNat % 4 * 16 + b.toNat / 16), digit (b.toNat % 16 * 4), '=']
  | a :: b :: c :: rest =>
    digit (a.toNat / 4) :: digit (a.toNat % 4 * 16 + b.toNat / 16) ::
      digit (b.toNat % 16 * 4 + c.toNat / 64) :: digit (c.toNat % 64) :: encode rest

end Base64

/-- The value of the header that carries credentials. -/
def authorization (username : String) (password : Option String) : String :=
  let both := username.toList ++ ':' :: ((password.map String.toList).getD [])
  "Basic " ++ String.ofList (Base64.encode (Utf8.encode both))

end ScriptBench
