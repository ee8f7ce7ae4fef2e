/-!
The functions that scripts can call: those of the host, and those of the language itself.
-/
namespace ScriptBench

/-- A function of the host that scripts can call. -/
inductive Binding where
  | sleep
  | fetch
  | assert
  | assertNlp
  | testcase
  | consoleLog
  | consoleInfo
  | consoleWarn
  | consoleError
  | nlpKeywords
  | nlpTags
  | nlpTagFilter
  | nlpSimilarity
  | setEnv
  | getEnv
  | addHeader
  | addParams
  | setShared
  | getShared
  | waitShared
  | response
  | equal
  | record
  | openTest
  | closeTest
  | testSkip
  | test
  /-- The class of host failures, which cannot be called. -/
  | errorClass
  deriving DecidableEq, Repr

namespace Binding

/-- The call answers with a promise, and a failure rejects it. -/
def isAsync : Binding → Bool
  | .sleep | .fetch | .waitShared => true
  | _ => false

/-- The call gives what the host answered; the others give `undefined`. -/
def givesAnswer : Binding → Bool
  | .fetch | .assert | .assertNlp | .testcase | .nlpKeywords | .nlpTags | .nlpTagFilter
  | .nlpSimilarity | .getEnv | .getShared | .waitShared | .response | .equal => true
  | _ => false

end Binding

/-- A function of the language itself. -/
inductive Builtin where
  | string
  | number
  | boolean
  | object
  | array
  /-- A class of errors. -/
  | error (className : String)
  /-- A class that makes objects only with `new`. -/
  | maker (className : String)
  /-- Whether something is no number; a `strict` one converts nothing. -/
  | isNaN (strict : Bool)
  | isFinite (strict : Bool)
  | isInteger
  | isSafeInteger
  | parseInt
  | parseFloat
  | jsonParse
  | jsonStringify
  | objectAssign
  | objectCreate
  | objectKeys
  | objectValues
  | objectEntries
  | isArray
  | arrayFrom
  | arrayOf
  | promiseResolve
  | promiseReject
  | abs
  | floor
  | ceil
  | round
  | trunc
  | sign
  | max
  | min
  /-- A method that values inherit. -/
  | method (name : String)
  deriving DecidableEq, Repr

namespace Builtin

/-- The name a function goes by. -/
def name : Builtin → String
  | .string => "String"
  | .number => "Number"
  | .boolean => "Boolean"
  | .object => "Object"
  | .array => "Array"
  | .error className => className
  | .maker className => className
  | .isNaN _ => "isNaN"
  | .isFinite _ => "isFinite"
  | .isInteger => "isInteger"
  | .isSafeInteger => "isSafeInteger"
  | .parseInt => "parseInt"
  | .parseFloat => "parseFloat"
  | .jsonParse => "parse"
  | .jsonStringify => "stringify"
  | .objectAssign => "assign"
  | .objectCreate => "create"
  | .objectKeys => "keys"
  | .objectValues => "values"
  | .objectEntries => "entries"
  | .isArray => "isArray"
  | .arrayFrom => "from"
  | .arrayOf => "of"
  | .promiseResolve => "resolve"
  | .promiseReject => "reject"
  | .abs => "abs"
  | .floor => "floor"
  | .ceil => "ceil"
  | .round => "round"
  | .trunc => "trunc"
  | .sign => "sign"
  | .max => "max"
  | .min => "min"
  | .method name => name

/-- The functions that a class carries. -/
def members : Builtin → List Builtin
  | .object => [.objectAssign, .objectCreate, .objectKeys, .objectValues, .objectEntries]
  | .array => [.isArray, .arrayFrom, .arrayOf]
  | .number => [.isNaN true, .isFinite true, .isInteger, .isSafeInteger, .parseInt, .parseFloat]
  | .maker "Promise" => [.promiseResolve, .promiseReject]
  | _ => []

end Builtin

/-- What a call of a function leads to. -/
inductive Callee where
  /-- Nothing; the call gives `undefined`. -/
  | nothing
  | host (b : Binding)
  | builtin (b : Builtin)
  deriving DecidableEq, Repr, Inhabited

/-- The text of a function. -/
def Callee.text : Callee → String
  | .builtin b => "function " ++ b.name ++ "() \x7b\n    [native code]\n\x7d"
  | _ => "() => \x7b\x7d"

end ScriptBench
