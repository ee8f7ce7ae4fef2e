import ScriptBench.Url.Host

/-!
Addresses as their parts.

Every part holds its text as it is written, with all escapes in it; writing an address puts the
parts together.
-/
namespace ScriptBench

/-- Who is asked: credentials, host and port. There is no host in addresses such as `unix:///x`. -/
structure Authority where
  username : List Char
  password : List Char
  host : Option UrlHost
  port : Option Nat
  deriving DecidableEq, Repr, Inhabited

structure Url where
  scheme : List Char
  authority : Option Authority
  path : List Char
  query : Option (List Char)
  fragment : Option (List Char)
  deriving DecidableEq, Repr, Inhabited

namespace Authority

def credentials (a : Authority) : List Char :=
  let password := if a.password.isEmpty then [] else ':' :: a.password
  let both := a.username ++ password
  if both.isEmpty then [] else both ++ ['@']

def chars (a : Authority) : List Char :=
  let host := (a.host.map UrlHost.chars).getD []
  let port := match a.port with
    | some n => ':' :: (toString n).toList
    | none => []
  '/' :: '/' :: a.credentials ++ host ++ port

end Authority

namespace Url

/-- A path that would read as an authority when there is none is told apart by a dot. -/
def pathChars (u : Url) : List Char :=
  match u.authority, u.path with
  | none, '/' :: '/' :: rest => "/.//".toList ++ rest
  | _, path => path

def chars (u : Url) : List Char :=
  let query := match u.query with
    | some q => '?' :: q
    | none => []
  let fragment := match u.fragment with
    | some f => '#' :: f
    | none => []
  u.scheme ++ ':' :: (u.authority.map Authority.chars).getD [] ++ u.pathChars ++ query ++ fragment

def text (u : Url) : String := String.ofList u.chars

/-- The pairs of the query. -/
def pairs (u : Url) : List (String × String) := (u.query.map Form.decodePairs).getD []

/-- The address with pairs added to its query. -/
def appendPairs (u : Url) (params : List (String × String)) : Url :=
  if params.isEmpty then u
  else
    { u with query := some (params.foldl (fun q (name, value) => Form.appendPair q name value)
        (u.query.getD [])) }

/-- The credentials of the address, undone, if there are any that are text. -/
def credentials? (u : Url) : Option (String × Option String) :=
  match u.authority with
  | none => none
  | some a =>
    match Utf8.decode? (Percent.decode a.username) with
    | none => none
    | some username =>
      let password := if a.password.isEmpty then none else Utf8.decode? (Percent.decode a.password)
      if username.isEmpty && password.isNone then none
      else some (String.ofList username, password.map String.ofList)

/-- The address without credentials. -/
def withoutCredentials (u : Url) : Url :=
  { u with authority := u.authority.map fun a => { a with username := [], password := [] } }

end Url

end ScriptBench
