import ScriptBench.Operation
import ScriptBench.Script.Globals

/-!
What each function of the host makes of its arguments.

`Binding.request` gives the operation and the arguments that go to the host; it throws where a
conversion throws, and then nothing reaches the host. Conversions are calls by global names, so a
script that puts something else under such a name changes them.

A `Binding` is one of the functions that `install_bindings` puts in place.
-/
namespace ScriptBench

/-- What a call leads to at the host: an operation and the text of its arguments. -/
structure HostRequest where
  operation : Operation
  argsText : String
  deriving DecidableEq, Repr

namespace Globals

open Value

/-- The request of an operation with values. The text of the values is made by what stands under
`JSON`, which also has to be there to read the answer. -/
def request (g : Globals) (operation : Operation) (args : List Value) :
    Except Value HostRequest := do
  let json ← g.get (.ofString "JSON")
  let _ ← member (.ofString "parse") json
  match ← g.callMember "JSON" "stringify" [.array args] with
  | .string _ => return ⟨operation, argumentText args⟩
  | _ => throw (typeError "Error converting from js 'undefined' into type 'string'")

/-- A value as a string, by what stands under `String`. -/
def text (g : Globals) (v : Value) : Except Value Value := g.call "String" [v]

/-- The JSON text of a value, by what stands under `JSON`. -/
def jsonText (g : Globals) (v : Value) : Except Value Value := g.callMember "JSON" "stringify" [v]

/-! Lines. -/

/-- One argument of a console line. -/
def rendered (g : Globals) (v : Value) : Except Value Value :=
  match v with
  | .string s => .ok (.string s)
  | .undefined => .ok (.text "undefined")
  | v => do if ← g.isError v then g.text v else g.jsonText v

/-- The line of a console call: its arguments with a blank between them. -/
def line (g : Globals) (args : List Value) : Except Value Value := do
  return .string (.join (.ofString " ") (← itemTexts (← args.mapM g.rendered)))

/-! Fetching. -/

/-- A header or parameter of a request. -/
def pair (name value : Value) : Value :=
  .object [(.ofString "name", name), (.ofString "value", value)]

/-- An entry of an array of headers or parameters; `key` stands in for a name that is missing. -/
def pairOf (g : Globals) (entry : Value) : Except Value Value := do
  let name ←
    match ← member (.ofString "name") entry with
    | .undefined => member (.ofString "key") entry
    | .null => member (.ofString "key") entry
    | v => pure v
  let name ← g.text name
  return pair name (← g.text (← member (.ofString "value") entry))

/-- The members of an object as headers or parameters. -/
def pairsOfMembers (g : Globals) (v : Value) : Except Value (List Value) :=
  v.ownMembers.mapM fun m => return pair (.string m.1) (← g.text m.2)

/-- Headers or parameters, given as an array of entries or as an object. A place of an array that
holds nothing gives no pair and stays as it is. -/
def pairs (g : Globals) (v : Value) : Except Value Value :=
  match v with
  | .undefined => .ok (.array [])
  | .null => .ok (.array [])
  | v => do
    match v, (← g.callMember "Array" "isArray" [v]).truthy with
    | .array items, true => return .array (← items.mapM g.pairOf)
    | .holes count, true => return .holes count
    | v, _ => return .array (← g.pairsOfMembers v)

/-- The body of a request: a string as it is, nothing for `null`, else JSON text. -/
def body (g : Globals) (v : Value) : Except Value Value :=
  match v with
  | .undefined => .ok (.string .empty)
  | .null => .ok (.string .empty)
  | .string s => .ok (.string s)
  | v => g.jsonText v

/-- What a value gives for a missing or false one. -/
def orElse (v fallback : Value) : Value := if v.truthy then v else fallback

/-- The name of the member that, copied, becomes what other members are looked for in. -/
def ancestry : Text16 := .ofString "__proto__"

/-- Whether nothing else can be looked in any more behind an object: it has no ancestor that gives
the name its meaning, or a member of that name. -/
def endsAncestry : Value → Bool
  | .null | .bare => true
  | .object members => (lookup ancestry members).isSome
  | _ => false

/-- What is looked in behind a description, when one object after the other is to be. -/
def ancestorOf : List Value → Option Value
  | [] => none
  | v :: rest => if endsAncestry v then some v else (ancestorOf rest).or (some v)

/-- What stands behind a description for a name that no part has: a part's own member `__proto__`,
if it is an object, is looked in for it. -/
def behind (parts : List Value) (name : Text16) : Except Value Value :=
  let ancestors := (parts.flatMap ownMembers).filter fun m =>
    m.1 = ancestry ∧ (m.2.isObject ∨ m.2 matches .null)
  match ancestorOf (ancestors.map (·.2)) with
  | some .null => .ok .undefined
  | some v => member name v
  | none => .ok .undefined

/-- A member of a description put together from parts. -/
def described (parts : List Value) (name : Text16) : Except Value Value :=
  match lookup name (Builtin.merged [] parts) with
  | some v => .ok v
  | none => behind parts name

/-- A description; a string is that of an address. -/
def addressed : Value → Value
  | .string t => .object [(.ofString "url", .string t)]
  | v => v

/-- The request of a fetch: an address or a description, with the members of `init` over it. -/
def fetchRequest (g : Globals) (input init : Value) : Except Value Value := do
  let input := addressed input
  let whole ← g.callMember "Object" "assign" [.object [], input, init]
  let get (name : String) : Except Value Value :=
    match whole with
    | .object _ => described [input, init] (.ofString name)
    | v => member (.ofString name) v
  let given ← get "body"
  let method ←
    match ← g.text (orElse (← get "method") (.text "GET")) with
    | .string t => pure (Value.string t.upper)
    | v => do
      let _ ← member (.ofString "toUpperCase") v
      throw notFunction
  let url ← g.text (orElse (← get "url") (.text ""))
  let headers ← g.pairs (← get "headers")
  let params ← g.pairs (← get "params")
  return .object
    [(.ofString "method", method), (.ofString "url", url), (.ofString "headers", headers),
     (.ofString "params", params), (.ofString "body", ← g.body given)]

/-- The strings in a list of values. -/
def textList (g : Globals) (v : Value) : Except Value Value := do
  match ← g.callMember "Array" "from" [v] with
  | .array items => return .array (← items.mapM g.text)
  | v => return v

end Globals

namespace Binding

open Value Builtin

/-- The operation a call leads to, with its arguments. -/
def request (g : Globals) (b : Binding) (args : List Value) : Except Value HostRequest :=
  let text (i : Nat) : Except Value Value := g.text (arg args i)
  let number (i : Nat) : Except Value Value := g.call "Number" [arg args i]
  match b with
  | .sleep => do g.request .sleep [← number 0]
  | .fetch => do g.request .httpFetch [← g.fetchRequest (arg args 0) (arg args 1)]
  | .assert => g.request .assert [(arg args 0).orNull, (arg args 1).orNull]
  | .assertNlp => do g.request .assertNlp [← text 0, ← text 1, ← number 2]
  | .testcase => g.request .getTestcase []
  | .consoleLog => do g.request .log [← g.line args]
  | .consoleInfo => do g.request .log [← g.line args]
  | .consoleWarn => do g.request .warn [← g.line args]
  | .consoleError => do g.request .error [← g.line args]
  | .nlpKeywords => do g.request .nlpKeywords [← text 0, ← number 1]
  | .nlpTags => do g.request .nlpTags [← text 0]
  | .nlpTagFilter => do g.request .nlpTagFilter [← text 0, ← g.textList (arg args 1)]
  | .nlpSimilarity => do g.request .nlpSimilarity [← text 0, ← text 1]
  | .setEnv => do g.request .setEnv [← text 0, ← text 1]
  | .getEnv => do g.request .getEnv [← text 0]
  | .addHeader => do g.request .addHeader [← text 0, ← text 1]
  | .addParams => do g.request .addParams [← text 0, ← text 1]
  | .setShared => do g.request .setShared [← text 0, (arg args 1).orNull]
  | .getShared => do g.request .getShared [← text 0]
  | .waitShared => do g.request .waitShared [← text 0]
  | .response => g.request .response []
  | .equal => g.request .equal [(arg args 0).orNull, (arg args 1).orNull]
  | .record => do g.request .appendAssert [← g.call "Boolean" [arg args 0], ← text 1]
  | .openTest => do g.request .openTest [← text 0]
  | .closeTest => do g.request .closeTest [← text 0]
  | .testSkip => g.request .testSkip []
  | .test => do g.request .openTest [← text 0]
  | .errorClass => .error (typeError "class constructors must be invoked with 'new'")

end Binding

end ScriptBench
