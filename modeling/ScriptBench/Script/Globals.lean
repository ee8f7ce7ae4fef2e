import ScriptBench.Script.Builtin

/-!
The global names of a scope, and the calls that the host's functions make by such names.

A scope starts with the functions of the host and those of the language. A script may set any name
but `undefined`, `NaN` and `Infinity`, and hides what stood there, also from the host's functions:
they look names up when they are called.
-/
namespace ScriptBench

/-- The globals that a script has set. -/
abbrev Globals := List (Text16 × Value)

namespace Globals

open Value

/-- An object of functions. -/
def group (members : List (String × Callee)) : Value :=
  .object (members.map fun m => (.ofString m.1, .function m.2))

def consoleGroup : Value :=
  group [("log", .host .consoleLog), ("info", .host .consoleInfo), ("warn", .host .consoleWarn),
    ("error", .host .consoleError)]

def nlpGroup : Value :=
  group [("keywords", .host .nlpKeywords), ("tags", .host .nlpTags),
    ("tag_filter", .host .nlpTagFilter), ("similarity", .host .nlpSimilarity)]

def hostGroup : Value :=
  group [("get_testcase", .host .testcase), ("set_env", .host .setEnv), ("get_env", .host .getEnv),
    ("add_header", .host .addHeader), ("add_params", .host .addParams),
    ("set_shared", .host .setShared), ("get_shared", .host .getShared),
    ("wait_shared", .host .waitShared), ("resp", .host .response), ("equal", .host .equal),
    ("record", .host .record), ("open_test", .host .openTest), ("close_test", .host .closeTest),
    ("test_skip", .host .testSkip), ("test", .host .test)]

/-- What the host puts under global names. -/
def ofHost : List (String × Value) :=
  [("HostError", .function (.host .errorClass)), ("sleep", .function (.host .sleep)),
   ("fetch", .function (.host .fetch)), ("assert", .function (.host .assert)),
   ("assert_nlp", .function (.host .assertNlp)), ("testcase", .function (.host .testcase)),
   ("console", consoleGroup), ("nlp", nlpGroup), ("host", hostGroup),
   ("test", .function (.host .test)), ("test_skip", .function (.host .testSkip))]

/-- The functions of the language that can be called by a global name. -/
def callable : List Builtin :=
  [.string, .number, .boolean, .object, .array, .isNaN false, .isFinite false,
    .parseInt, .parseFloat] ++
  ["Error", "TypeError", "RangeError", "SyntaxError", "ReferenceError", "EvalError", "URIError",
   "InternalError"].map .error ++
  ["Promise", "Map", "Set", "WeakMap", "WeakSet", "WeakRef", "FinalizationRegistry", "Proxy",
   "ArrayBuffer", "SharedArrayBuffer", "DataView", "Int8Array", "Uint8Array", "Uint8ClampedArray",
   "Int16Array", "Uint16Array", "Int32Array", "Uint32Array", "BigInt64Array", "BigUint64Array",
   "Float32Array", "Float64Array"].map .maker ++
  ["Symbol", "BigInt", "Date", "RegExp", "Function", "AggregateError", "eval", "encodeURI",
   "encodeURIComponent", "decodeURI", "decodeURIComponent", "escape", "unescape"].map .method

/-- What the language puts under global names. -/
def ofLanguage : List (String × Value) :=
  [("undefined", .undefined), ("NaN", .number .nan), ("Infinity", .number (.infinite false)),
   ("JSON", group [("parse", .builtin .jsonParse), ("stringify", .builtin .jsonStringify)]),
   ("Math", group ([Builtin.abs, .floor, .ceil, .round, .trunc, .sign, .max, .min].map
     fun b => (b.name, .builtin b))),
   ("Reflect", .object []), ("Atomics", .object [])] ++
  callable.map fun b => (b.name, .function (.builtin b))

/-- The globals of a scope at its start. -/
def standard : List (Text16 × Value) :=
  (ofHost ++ ofLanguage).map fun m => (.ofString m.1, m.2)

/-- The name of the object that holds the globals. -/
def self : Text16 := .ofString "globalThis"

/-- What stands under a name, as a member of the object that holds the globals. -/
def get? (g : Globals) (name : Text16) : Option Value :=
  (lookup name g).or (lookup name standard)

/-- What stands under a name; an unknown name throws. -/
def get (g : Globals) (name : Text16) : Except Value Value :=
  match g.get? name with
  | some v => .ok v
  | none => .error (errorAbout "ReferenceError" "'" name "' is not defined")

/-- The names that no script can set. -/
def fixedNames : List Text16 := ["undefined", "NaN", "Infinity"].map .ofString

/-- Sets a member of what stands under `globalThis`. -/
def assign (g : Globals) (name : Text16) (v : Value) : Except Value Globals :=
  match lookup self g with
  | none =>
    if name ∈ fixedNames then .error (errorAbout "TypeError" "'" name "' is read-only")
    else .ok (setMember name v g)
  | some .undefined => .error (errorAbout "TypeError" "cannot set property '" name "' of undefined")
  | some .null => .error (errorAbout "TypeError" "cannot set property '" name "' of null")
  | some holder => if holder.isObject then .ok g else .error (typeError "not an object")

/-- Whether the object that holds the globals goes by its name. -/
def knowsSelf (g : Globals) : Bool := (lookup self g).isNone

/-! Calls. -/

/-- What is thrown where a value is called that is no function. -/
def notFunction : Value := typeError "not a function"

/-- Calls a function that does not ask the host. -/
def apply (f this : Value) (args : List Value) : Except Value Value :=
  match f with
  | .function (.builtin b) => b.call this args
  | .function _ => .ok .undefined
  | _ => .error notFunction

/-- Calls what stands under a name. -/
def call (g : Globals) (name : String) (args : List Value) : Except Value Value := do
  apply (← g.get (.ofString name)) .undefined args

/-- Calls a member of what stands under a name. -/
def callMember (g : Globals) (holder name : String) (args : List Value) : Except Value Value := do
  let o ← g.get (.ofString holder)
  apply (← member (.ofString name) o) o args

/-- Checks that what stands under a name makes objects with `new`. -/
def construct (g : Globals) (name : String) : Except Value Unit := do
  match ← g.get (.ofString name) with
  | .function .nothing => throw (typeError "not a constructor")
  | .function _ => return ()
  | v => throw (if v.isObject then typeError "not a constructor" else notFunction)

/-- Whether a value is an error, as what stands under `Error` tells. -/
def isError (g : Globals) (v : Value) : Except Value Bool := do
  match ← g.get (.ofString "Error") with
  | .function .nothing =>
    if v.isObject then throw (typeError "operand 'prototype' property is not an object")
    else return false
  | .function _ => return v.isError
  | _ => throw (typeError "invalid 'instanceof' right operand")

/-! Paths. -/

/-- What a path of names leads to, and what its last name is a member of. -/
def walk : Value → Value → List Text16 → Except Value (Value × Value)
  | this, v, [] => .ok (this, v)
  | _, v, name :: rest => do walk v (← member name v) rest

/-- What a path leads to, and the object it is called on. The name of the object that holds the
globals may come first, any number of times. -/
def resolve (g : Globals) : List Text16 → Except Value (Value × Value)
  | [] => .ok (.undefined, .undefined)
  | [name] =>
    if name = self ∧ g.knowsSelf then .ok (.undefined, .object [])
    else do return (.undefined, ← g.get name)
  | name :: next :: rest =>
    if name = self ∧ g.knowsSelf then
      if next = self then resolve g (next :: rest)
      else walk (.object []) ((g.get? next).getD (inherited (.object []) next)) rest
    else do walk .undefined (← g.get name) (next :: rest)

end Globals

end ScriptBench
