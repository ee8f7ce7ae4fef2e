import ScriptBench.Script.Coerce

/-!
Scripts as structured steps, and their JSON form.

An `Expr` is an argument or another operand; a `Step` is one statement of the body of an
asynchronous function. In the JSON form an operand is plain JSON unless it is an object with a key
that starts with a dollar sign.
-/
namespace ScriptBench

/-- An operand of a step. What names members is any value, and becomes a string. -/
inductive Expr where
  | value (v : Value)
  /-- A variable, or what a path of member names leads to from it. -/
  | variable (name : String) (path : List Value)
  | array (items : List Expr)
  | object (members : List (Value × Expr))
  /-- The value of a JSON text. -/
  | parsed (text : Value)
  /-- An object without a prototype. -/
  | bare
  /-- An error with a message and members of its own. -/
  | error (message : Value) (own : List (Text16 × Value))
  /-- The failure of a host operation. -/
  | hostError (kind message : Value)
  deriving Inhabited, Repr

/-- How the body of a test is run: as a plain function or as an asynchronous one. -/
inductive BodyKind where
  | plain
  | async
  deriving DecidableEq, Repr

/-- One statement of a script. -/
inductive Step where
  /-- Calls a global by its path; the result may be awaited and stored. -/
  | call (path : List Text16) (args : List Expr) (store : Option String) (await : Bool)
  /-- Runs a body as a named test. -/
  | test (path : List Text16) (title : Expr) (kind : BodyKind) (body : List Step)
      (store : Option String) (await : Bool)
  /-- Runs a body; what it throws becomes the variable `e` of the handler. -/
  | attempt (body handler : List Step)
  | throw (value : Expr)
  | leave (value : Expr)
  | assign (value : Expr) (name : String)
  | setGlobal (name : Value) (value : Expr)
  /-- Awaits a promise that nothing settles. -/
  | never
  /-- Loops without end. -/
  | spin
  /-- Calls itself without end. -/
  | recurse
  /-- Builds a string of so many bytes. -/
  | allocate (bytes : Value)
  deriving Inhabited, Repr

/-- The source of one scope. -/
inductive Source where
  | body (steps : List Step)
  /-- A text that does not parse. -/
  | malformed
  /-- A value thrown outside of the asynchronous body. -/
  | throwsOutside (value : Expr)
  deriving Inhabited, Repr

namespace Expr

/-- What a word after `$js` stands for. -/
def ofWord : String → Expr
  | "NaN" => .value (.number .nan)
  | "Infinity" => .value (.number (.infinite false))
  | "-Infinity" => .value (.number (.infinite true))
  | "-0" => .value (.number (.finite true 0))
  | "function" => .value .idleFunction
  | "bare_object" => .bare
  | "thenable" => .value .thenable
  | _ => .value .undefined

def stringOf : Json → String
  | .str s => s
  | _ => ""

def itemsOf : Option Json → List Json
  | some (.arr items) => items
  | _ => []

/-- An error with its own name and kind, as far as they are given. -/
def errorOf (described : Json) : Expr :=
  let own (name : String) : List (Text16 × Value) :=
    match described.member? name with
    | some v => [(.ofString name, .ofJson v)]
    | none => []
  .error (((described.member? "message").map Value.ofJson).getD .undefined)
    (own "name" ++ own "kind")

def unitOf : Json → UInt16
  | .int n => n.toNat.toUInt16
  | _ => 0

mutual

/-- The operand a JSON value describes. -/
def ofJson : Json → Expr
  | .obj [("$js", word)] => ofWord (stringOf word)
  | .obj [("$error", described)] => errorOf described
  | .obj [("$host_error", .arr (kind :: message :: _))] =>
    .hostError (.ofJson kind) (.ofJson message)
  | .obj [("$units", .arr units)] => .value (.string ⟨units.map unitOf⟩)
  | .obj [("$ref", name)] => .variable (stringOf name) []
  | .obj [("$ref", name), ("path", .arr path)] => .variable (stringOf name) (path.map Value.ofJson)
  | .obj [("$array", .arr items)] => .array (ofItems items)
  | .obj [("$object", .arr members)] => .object (ofPairs members)
  | .obj [("$json", text)] => .parsed (.ofJson text)
  | v => .value (.ofJson v)

def ofItems : List Json → List Expr
  | [] => []
  | v :: rest => ofJson v :: ofItems rest

def ofPairs : List Json → List (Value × Expr)
  | [] => []
  | .arr [key, v] :: rest => (.ofJson key, ofJson v) :: ofPairs rest
  | _ :: rest => ofPairs rest

end

end Expr

namespace Step

def segments (path : String) : List Text16 := (path.splitOn ".").map .ofString

def truthOf (v : Json) (key : String) : Bool :=
  match v.member? key with
  | some (.bool b) => b
  | _ => false

def storeOf (v : Json) : Option String :=
  match v.member? "as" with
  | some (.str s) => some s
  | _ => none

def exprOf (v : Json) (key : String) : Expr :=
  match v.member? key with
  | some e => .ofJson e
  | none => .value .undefined

/-- The statement a JSON object describes; `levels` bounds how deep bodies are nested. -/
def ofJson : Nat → Json → Step
  | 0, _ => .never
  | levels + 1, v =>
    let body (key : String) : List Step := (Expr.itemsOf (v.member? key)).map (ofJson levels)
    let has (key : String) : Bool := (v.member? key).isSome
    let awaited := truthOf v "await"
    if has "call" then
      .call (segments (Expr.stringOf ((v.member? "call").getD .null)))
        ((Expr.itemsOf (v.member? "args")).map Expr.ofJson) (storeOf v) awaited
    else if has "test" then
      let path := match v.member? "fn" with
        | some (.str s) => s
        | _ => "host.test"
      .test (segments path) (exprOf v "test")
        (if truthOf v "async" then .async else .plain) (body "steps") (storeOf v) awaited
    else if has "try" then .attempt (body "try") (body "catch")
    else if has "throw" then .throw (exprOf v "throw")
    else if has "return" then .leave (exprOf v "return")
    else if has "let" then .assign (exprOf v "let") ((storeOf v).getD "")
    else if has "global" then
      .setGlobal (.ofJson ((v.member? "global").getD .null)) (exprOf v "value")
    else if has "never" then .never
    else if has "spin" then .spin
    else if has "recurse" then .recurse
    else
      match v.member? "allocate" with
      | some n => .allocate (.ofJson n)
      | none => .never

mutual

/-- How many statements a statement holds, itself included. -/
def size : Step → Nat
  | .test _ _ _ body _ _ => sizeList body + 1
  | .attempt body handler => sizeList body + sizeList handler + 1
  | _ => 1

def sizeList : List Step → Nat
  | [] => 0
  | s :: rest => size s + sizeList rest

end

mutual

/-- Whether a statement of a plain function awaits something, which no plain function may. -/
def awaitsInside : Step → Bool
  | .call _ _ _ await => await
  | .test _ _ _ _ _ await => await
  | .attempt body handler => anyAwaits body || anyAwaits handler
  | .never => true
  | _ => false

def anyAwaits : List Step → Bool
  | [] => false
  | s :: rest => awaitsInside s || anyAwaits rest

end

mutual

/-- Whether the bodies of plain tests do not await. -/
def wellFormed : Step → Bool
  | .test _ _ kind body _ _ => (kind = .async || !anyAwaits body) && allWellFormed body
  | .attempt body handler => allWellFormed body && allWellFormed handler
  | _ => true

def allWellFormed : List Step → Bool
  | [] => true
  | s :: rest => wellFormed s && allWellFormed rest

end

end Step

namespace Source

/-- How many statements a source holds. -/
def size : Source → Nat
  | .body steps => Step.sizeList steps
  | _ => 0

/-- The source a list of described statements stands for. -/
def ofJson (steps : Json) : Source :=
  match steps with
  | .arr [.obj [("syntax_error", _)]] => .malformed
  | .arr [.obj [("toplevel_throw", v)]] => .throwsOutside (.ofJson v)
  | v =>
    let body := (Expr.itemsOf (some v)).map (Step.ofJson (v.depth + 1))
    if Step.allWellFormed body then .body body else .malformed

end Source

end ScriptBench
