import ScriptBench.Text.Case
import ScriptBench.Url.Basic

/-!
Reading an address.

Control characters and blanks around the text go away, and so do tabs and line ends anywhere in it.
The schemes of the web are special: a backslash counts as a slash, any number of slashes may follow
the scheme, a host has to be there, and its usual port is left out. Dots in paths are resolved, and
every character that may not stand in its part is escaped.
-/
namespace ScriptBench.Url

/-- How the addresses of a scheme are read. -/
inductive SchemeKind where
  /-- The web. -/
  | special
  | file
  | other
  deriving DecidableEq, Repr

def kindOf (scheme : List Char) : SchemeKind :=
  if ["http", "https", "ws", "wss", "ftp"].contains (String.ofList scheme) then .special
  else if scheme = "file".toList then .file
  else .other

def defaultPort? (scheme : List Char) : Option Nat :=
  ([("http", 80), ("ws", 80), ("https", 443), ("wss", 443), ("ftp", 21)].lookup
    (String.ofList scheme))

/-- The characters of a text that count. -/
def significant (cs : List Char) : List Char :=
  let isOutside (c : Char) : Bool := c.toNat ≤ 0x20
  let trimmed := ((cs.dropWhile isOutside).reverse.dropWhile isOutside).reverse
  trimmed.filter fun c => !(c == '\t' || c == '\n' || c == '\r')

def isAlpha (c : Char) : Bool := ('a' ≤ c && c ≤ 'z') || ('A' ≤ c && c ≤ 'Z')

def isSchemeChar (c : Char) : Bool :=
  isAlpha c || ('0' ≤ c && c ≤ '9') || c == '+' || c == '-' || c == '.'

/-- The scheme in lower case, and what follows its colon. -/
def splitScheme (cs : List Char) : Option (List Char × List Char) :=
  match cs.head?, cs.dropWhile isSchemeChar with
  | some c, ':' :: rest =>
    if isAlpha c then some ((cs.takeWhile isSchemeChar).map Lowercase.ofAscii, rest) else none
  | _, _ => none

/-! Paths. -/

/-- Whether a character ends a segment of a path. -/
def isSlash (kind : SchemeKind) (c : Char) : Bool := c == '/' || (c == '\\' && kind != .other)

/-- What a path ends at. -/
def endsPath (c : Char) : Bool := c == '?' || c == '#'

/-- The segments between slashes. -/
def segments (kind : SchemeKind) : List Char → List (List Char)
  | [] => [[]]
  | c :: rest =>
    if isSlash kind c then [] :: segments kind rest
    else
      match segments kind rest with
      | [] => [[c]]
      | part :: parts => (c :: part) :: parts

/-- An escaped dot is a dot where dots are looked for. -/
def dots : List Char → List Char
  | '%' :: '2' :: 'e' :: rest => '.' :: dots rest
  | '%' :: '2' :: 'E' :: rest => '.' :: dots rest
  | c :: rest => c :: dots rest
  | [] => []

/-- A letter and a colon or bar. -/
def isDriveLetter : List Char → Bool
  | [c, d] => isAlpha c && (d == ':' || d == '|')
  | _ => false

/-- A path while its segments are read: those so far, the last first, and whether it stands for a
drive so that no host is needed. -/
structure Trail where
  kept : List (List Char)
  isDrive : Bool

namespace Trail

def empty : Trail := ⟨[], false⟩

/-- Leaves the last segment; nobody leaves a drive. -/
def leave (t : Trail) : Trail :=
  match t.kept with
  | [] => t
  | last :: rest => if isDriveLetter last then t else { t with kept := rest }

/-- One more segment as it is. -/
def add (t : Trail) (segment : List Char) : Trail := { t with kept := segment :: t.kept }

/-- One more segment; `isLast` tells that no slash follows. The first segment of a file that a host
has may name a drive, and then the host does not count. -/
def push (onHost isLast : Bool) (t : Trail) (segment : List Char) : Trail :=
  let close (t : Trail) : Trail := if isLast then t.add [] else t
  let encoded := Percent.encode Percent.path segment
  if dots encoded = ['.', '.'] then close t.leave
  else if dots encoded = ['.'] then close t
  else if onHost && t.kept.isEmpty && isDriveLetter encoded then
    ⟨[encoded.take 1 ++ [':']], true⟩
  else t.add encoded

/-- Resolves the dots of segments. -/
def resolve (onHost : Bool) : Trail → List (List Char) → Trail
  | t, [] => t
  | t, [last] => t.push onHost true last
  | t, s :: rest => resolve onHost (t.push onHost false s) rest

end Trail

/-- Segments with a slash before each. -/
def slashed (parts : List (List Char)) : List Char := parts.flatMap ('/' :: ·)

/-- The path of segments that follow a slash. -/
def rootedPath (kind : SchemeKind) (cs : List Char) : List Char :=
  slashed (Trail.resolve false .empty (segments kind cs)).kept.reverse

/-- The path after an authority. -/
def pathAfterAuthority (kind : SchemeKind) (cs : List Char) : List Char :=
  match cs with
  | [] => if kind = .other then [] else ['/']
  | c :: rest => if isSlash kind c then rootedPath kind rest else rootedPath kind cs

/-! Query and fragment. -/

/-- The query and the fragment that a text after a path holds. -/
def splitTail (kind : SchemeKind) (cs : List Char) : Option (List Char) × Option (List Char) :=
  let set := if kind = .other then Percent.query else Percent.specialQuery
  let fragmentOf (rest : List Char) : Option (List Char) :=
    match rest with
    | '#' :: f => some (Percent.encode Percent.fragment f)
    | _ => none
  match cs with
  | '?' :: rest =>
    (some (Percent.encode set (rest.takeWhile (· != '#'))), fragmentOf (rest.dropWhile (· != '#')))
  | rest => (none, fragmentOf rest)

/-- Puts an address together from its beginning, its path and what follows. -/
def assemble (kind : SchemeKind) (scheme : List Char) (authority : Option Authority)
    (path tail : List Char) : Url :=
  let (query, fragment) := splitTail kind tail
  ⟨scheme, authority, path, query, fragment⟩

/-! Authorities. -/

/-- Where an authority ends. -/
def endsAuthority (kind : SchemeKind) (c : Char) : Bool := isSlash kind c || endsPath c

/-- The text before and after the last at sign. -/
def splitCredentials (cs : List Char) : Option (List Char × List Char) :=
  if cs.contains '@' then
    let after := (cs.reverse.takeWhile (· != '@')).reverse
    some (cs.take (cs.length - after.length - 1), after)
  else none

/-- The text of a host, which ends at a colon outside of brackets, and what follows. -/
def splitHost : Bool → List Char → List Char × List Char
  | _, [] => ([], [])
  | inside, c :: rest =>
    if c = ':' ∧ !inside then ([], c :: rest)
    else
      let inside := if c = '[' then true else if c = ']' then false else inside
      let (host, after) := splitHost inside rest
      (c :: host, after)

/-- The port in front of a text, unless it is the usual one, and what is left from a backslash
on. -/
def readPort (scheme cs : List Char) : Except UrlError (Option Nat × List Char) :=
  let digits := cs.takeWhile (· != '\\')
  let rest := cs.dropWhile (· != '\\')
  if digits.isEmpty then .ok (none, rest)
  else
    match UrlHost.ofDigits? 10 digits with
    | none => .error .invalidPort
    | some n =>
      if 65535 < n then .error .invalidPort
      else .ok (if defaultPort? scheme = some n then none else some n, rest)

/-- The host and port of a text, and what is left of it. -/
def readHostAndPort (kind : SchemeKind) (scheme cs : List Char) :
    Except UrlError (Option UrlHost × Option Nat × List Char) := do
  let (host, after) := splitHost false cs
  if kind = .special && host.isEmpty then throw .emptyHost
  let host ← if kind = .special then UrlHost.ofSpecial host else UrlHost.ofOpaque host
  let isEmpty := host = .name []
  if isEmpty && !after.isEmpty then throw .emptyHost
  let (port, rest) ← readPort scheme (after.drop 1)
  return (if isEmpty then none else some host, port, rest)

/-- The authority of a text, and what is left of it; `isWhole` tells that nothing follows the
text. -/
def readAuthority (kind : SchemeKind) (scheme cs : List Char) (isWhole : Bool) :
    Except UrlError (Authority × List Char) :=
  match splitCredentials cs with
  | none => do
    let (host, port, rest) ← readHostAndPort kind scheme cs
    return (⟨[], [], host, port⟩, rest)
  | some (before, after) => do
    if before.isEmpty && after.isEmpty && !isWhole then throw .emptyHost
    let username := before.takeWhile (· != ':')
    let password := (before.dropWhile (· != ':')).drop 1
    let encode := Percent.encode Percent.userInfo
    let (host, port, rest) ← readHostAndPort kind scheme after
    if host.isNone && !(username.isEmpty && password.isEmpty) then throw .emptyHost
    return (⟨encode username, encode password, host, port⟩, rest)

/-- An address after the slashes of its authority. -/
def readAfterSlashes (kind : SchemeKind) (scheme cs : List Char) : Except UrlError Url := do
  let ends := endsAuthority kind
  let rest := cs.dropWhile (!ends ·)
  let (authority, left) ← readAuthority kind scheme (cs.takeWhile (!ends ·)) rest.isEmpty
  let path := pathAfterAuthority kind (left ++ rest.takeWhile (!endsPath ·))
  return assemble kind scheme (some authority) path (rest.dropWhile (!endsPath ·))

/-! Files. -/

/-- The path of a file, and whether it names a drive that takes the place of a host; empty segments
at its beginning go away. -/
def filePath (onHost : Bool) (cs : List Char) : List Char × Bool :=
  let t := Trail.resolve onHost .empty (segments .file cs)
  match t.kept.reverse.dropWhile List.isEmpty with
  | [] => (['/'], t.isDrive)
  | parts => (slashed parts, t.isDrive)

/-- The host of a file; the own machine needs no name. -/
def readFileHost (cs : List Char) : Except UrlError (Option UrlHost) :=
  if cs.isEmpty then .ok none
  else do
    let host ← UrlHost.ofSpecial cs
    return if host = .name "localhost".toList then none else some host

/-- The address of a file, after the scheme. -/
def readFile (cs : List Char) : Except UrlError Url := do
  let ends := endsAuthority .file
  let tail := cs.dropWhile (!endsPath ·)
  let before := cs.takeWhile (!endsPath ·)
  let finish (host : Option UrlHost) (rest : List Char) : Url :=
    let (path, isDrive) := filePath host.isSome rest
    let host := if isDrive then none else host
    assemble .file "file".toList (some ⟨[], [], host, none⟩) path tail
  match before with
  | a :: b :: rest =>
    if isSlash .file a && isSlash .file b then
      let name := rest.takeWhile (!ends ·)
      if isDriveLetter name then return finish none rest
      else return finish (← readFileHost name) ((rest.dropWhile (!ends ·)).drop 1)
    else if isSlash .file a then return finish none (b :: rest)
    else return finish none before
  | [a] => return finish none (if isSlash .file a then [] else [a])
  | [] => return finish none []

/-! Addresses. -/

/-- An address of a scheme that is not special, after the scheme. -/
def readOther (scheme cs : List Char) : Except UrlError Url :=
  match cs with
  | '/' :: '/' :: rest => readAfterSlashes .other scheme rest
  | _ =>
    let before := cs.takeWhile (!endsPath ·)
    let path := match before with
      | '/' :: rest => rootedPath .other rest
      | opaquePath => Percent.encode Percent.controls opaquePath
    .ok (assemble .other scheme none path (cs.dropWhile (!endsPath ·)))

/-- The address a text is. -/
def parse (text : String) : Except UrlError Url :=
  match splitScheme (significant text.toList) with
  | none => .error .relativeWithoutBase
  | some (scheme, rest) =>
    match kindOf scheme with
    | .special => readAfterSlashes .special scheme (rest.dropWhile (isSlash .special))
    | .file => readFile rest
    | .other => readOther scheme rest

end ScriptBench.Url
