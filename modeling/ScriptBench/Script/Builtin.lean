import ScriptBench.Script.Coerce
import ScriptBench.Script.JsonText

/-!
What the functions of the language itself give.

`Builtin.call` is a function of the object the call is made on and of the arguments. What makes or
settles promises is not here.
-/
namespace ScriptBench

namespace Binary64

/-- A whole number with a sign of its own, so that zero can be negative. -/
def signedWhole (negative : Bool) (n : Nat) : Binary64 := .finite negative (n * unitsPerOne)

/-- The whole number that a function of whole part and remainder chooses; both are of the magnitude,
and the remainder is in units. -/
def toWhole (choose : Bool → Nat → Nat → Nat) : Binary64 → Binary64
  | .finite s u => signedWhole s (choose s (u / unitsPerOne) (u % unitsPerOne))
  | x => x

def trunc : Binary64 → Binary64 := toWhole fun _ n _ => n

def floor : Binary64 → Binary64 := toWhole fun negative n r => if negative ∧ r ≠ 0 then n + 1 else n

def ceil : Binary64 → Binary64 := toWhole fun negative n r => if !negative ∧ r ≠ 0 then n + 1 else n

/-- The nearest whole number; a half goes up. -/
def round : Binary64 → Binary64 :=
  toWhole fun negative n r =>
    if unitsPerOne < 2 * r ∨ (2 * r = unitsPerOne ∧ !negative) then n + 1 else n

def abs : Binary64 → Binary64
  | .finite _ u => .finite false u
  | .infinite _ => .infinite false
  | .nan => .nan

def sign : Binary64 → Binary64
  | .finite s u => if u = 0 then .finite s 0 else signedWhole s 1
  | .infinite s => signedWhole s 1
  | .nan => .nan

/-- Whether a number is finite and whole. -/
def isWhole : Binary64 → Bool
  | .finite _ u => u % unitsPerOne == 0
  | _ => false

/-- The greater of two numbers; the positive zero is the greater one. -/
def max (x y : Binary64) : Binary64 :=
  if x = .nan ∨ y = .nan then .nan
  else if x.lt y ∨ (x.isZero ∧ x.isNegative ∧ y.isZero) then y else x

def min (x y : Binary64) : Binary64 := (max x.neg y.neg).neg

end Binary64

namespace Builtin

open Value

/-- An argument that is not given is `undefined`. -/
def arg (args : List Value) (i : Nat) : Value := args.getD i .undefined

/-! Reading numbers from the front of a text. -/

/-- The value of a digit of a base up to 36. -/
def digit? (base : Nat) (c : Char) : Option Nat :=
  let value :=
    if c.isDigit then some (c.toNat - 48)
    else if c.isLower then some (c.toNat - 87)
    else if c.isUpper then some (c.toNat - 55)
    else none
  value.filter (· < base)

/-- The text without a sign, and whether the sign is a minus. -/
def unsigned : List Char → Bool × List Char
  | '-' :: rest => (true, rest)
  | '+' :: rest => (false, rest)
  | rest => (false, rest)

/-- The text behind the sign of a hexadecimal number. -/
def behindHexMark? : List Char → Option (List Char)
  | '0' :: c :: rest => if c = 'x' ∨ c = 'X' then some rest else none
  | _ => none

/-- The whole number at the front of a text; base 0 is 10, or 16 behind `0x`. -/
def wholeAtFront (base : Nat) (cs : List Char) : Binary64 :=
  let (negative, cs) := unsigned (cs.dropWhile isTrimmed)
  let (base, cs) :=
    match behindHexMark? cs with
    | some rest => if base = 0 ∨ base = 16 then (16, rest) else (base, cs)
    | none => (if base = 0 then 10 else base, cs)
  if base < 2 ∨ 36 < base then .nan
  else
    match (cs.takeWhile fun c => (digit? base c).isSome).filterMap (digit? base) with
    | [] => .nan
    | ds => .ofRatio negative (ds.foldl (fun n d => n * base + d) 0) 1

/-- The decimal number at the front of a text. -/
def decimalAtFront (cs : List Char) : Binary64 :=
  let (negative, cs) := unsigned (cs.dropWhile isTrimmed)
  if "Infinity".toList.isPrefixOf cs then .infinite negative
  else
    let (whole, rest) := takeDigits cs
    let (fraction, rest) := match rest with
      | '.' :: r => takeDigits r
      | r => ([], r)
    if whole.isEmpty && fraction.isEmpty then .nan
    else Numeral.nearest ⟨negative, whole, fraction, (JsonText.exponent rest).1⟩

/-! Objects. -/

/-- What cannot be read as an object throws. -/
def objectLike (v : Value) : Except Value Value :=
  match v with
  | .undefined => .error (typeError "cannot convert to object")
  | .null => .error (typeError "cannot convert to object")
  | v => .ok v

/-- The members of `sources`, later ones over earlier ones, over those of a target. -/
def merged (target : List (Text16 × Value)) (sources : List Value) : List (Text16 × Value) :=
  (sources.flatMap ownMembers).foldl (fun acc m => setMember m.1 m.2 acc) target

/-- How many items an array may be made of here. -/
def maxItems : Nat := Nat.pow 2 20

/-- The values under the indices of what has a length. -/
def listed (v : Value) : Except Value (List Value) :=
  match v with
  | .undefined => .error (typeError "cannot read property 'Symbol.iterator' of undefined")
  | .null => .error (typeError "cannot read property 'Symbol.iterator' of null")
  | .array items => .ok items
  | .holes count => .ok (List.replicate count .undefined)
  | .string s => .ok (s.characters.map .string)
  | .object members => do
    let length ← toNumber ((lookup (.ofString "length") members).getD .undefined)
    let count := length.truncate (Nat.pow 2 53 - 1)
    if Nat.pow 2 32 ≤ count then throw (rangeError "invalid array length")
    if maxItems < count then throw (internalError "out of memory")
    return (List.range count).map fun i => (lookup (.ofIndex i) members).getD .undefined
  | _ => .ok []

/-- The arguments a value stands for. -/
def spread (v : Value) : Except Value (List Value) :=
  match v with
  | .undefined => .ok []
  | .null => .ok []
  | v => if v.isObject then listed v else .error (typeError "not a object")

/-- An array made of arguments: a single number is the number of its places, and nothing is in
them. -/
def arrayOfArgs : List Value → Except Value Value
  | [.number x] =>
    let count := x.truncate (Nat.pow 2 32)
    if !x.isWhole || x.isNegative && !x.isZero || Nat.pow 2 32 ≤ count then
      .error (rangeError "invalid array length")
    else if maxItems < count then .error (internalError "out of memory")
    else .ok (.holes count)
  | args => .ok (.array args)

/-- The common text of an object, by what it is. -/
def tagged : Value → String
  | .undefined => "[object Undefined]"
  | .null => "[object Null]"
  | .bool _ => "[object Boolean]"
  | .number _ => "[object Number]"
  | .string _ => "[object String]"
  | .array _ | .holes _ => "[object Array]"
  | .error .. => "[object Error]"
  | .interruption => "[object Error]"
  | .function _ => "[object Function]"
  | .promise _ => "[object Promise]"
  | _ => "[object Object]"

/-- The methods whose outcome is known here; every other one gives `undefined`. -/
def callMethod (name : String) (this : Value) (args : List Value) : Except Value Value :=
  if name = "valueOf" then objectLike this
  else if name = "toString" then
    match this with
    | .object _ => .ok (.text (tagged this))
    | v => do return .string (← toText v)
  else if name = "hasOwnProperty" then do
    let name ← toText (arg args 0)
    return .bool (this.ownMembers.any (·.1 = name))
  else .ok .undefined

/-- The numbers of arguments, put together. -/
def combined (start : Binary64) (f : Binary64 → Binary64 → Binary64) (args : List Value) :
    Except Value Value := do
  return .number ((← args.mapM toNumber).foldl f start)

/-- What a call gives, on an object and with arguments. -/
def call (b : Builtin) (this : Value) (args : List Value) : Except Value Value :=
  let numeric (f : Binary64 → Binary64) : Except Value Value := do
    return .number (f (← toNumber (arg args 0)))
  /- A question about a number; a strict one holds of nothing else. -/
  let asked (strict : Bool) (question : Binary64 → Bool) : Except Value Value :=
    match strict, arg args 0 with
    | true, .number x => .ok (.bool (question x))
    | true, _ => .ok (.bool false)
    | false, v => do return .bool (question (← toNumber v))
  match b with
  | .string =>
    if args.isEmpty then .ok (.string .empty) else do return .string (← toText (arg args 0))
  | .number => if args.isEmpty then .ok (.number .zero) else numeric id
  | .boolean => .ok (.bool (arg args 0).truthy)
  | .object =>
    match arg args 0 with
    | .undefined => .ok (.object [])
    | .null => .ok (.object [])
    | v => .ok v
  | .array => arrayOfArgs args
  | .error className =>
    match arg args 0 with
    | .undefined => .ok (.error className .empty [])
    | v => do return .error className (← toText v) []
  | .maker _ => .error (typeError "must be called with new")
  | .isNaN strict => asked strict (· == .nan)
  | .isFinite strict => asked strict Binary64.isFinite
  | .isInteger => asked true Binary64.isWhole
  | .isSafeInteger =>
    asked true fun x => x.isWhole && x.abs.truncate (Nat.pow 2 54) < Nat.pow 2 53
  | .parseInt => do
    let text ← toText (arg args 0)
    let base ← toNumber (arg args 1)
    return .number (wholeAtFront (base.truncate 37) (text.toString?.getD "").toList)
  | .parseFloat => do
    let text ← toText (arg args 0)
    return .number (decimalAtFront (text.toString?.getD "").toList)
  | .jsonParse => do
    let text ← toText (arg args 0)
    (JsonText.read (text.toString?.getD "").toList).mapError JsonText.Trouble.toError
  | .jsonStringify => .ok ((jsonText? (arg args 0)).elim .undefined .string)
  | .objectAssign => do
    match ← objectLike (arg args 0) with
    | .object members => return .object (enumerated (merged members args.tail))
    | v => return v
  | .objectCreate =>
    match arg args 0 with
    | .null => .ok .bare
    | v => if v.isObject then .ok (.object []) else .error (typeError "not a prototype")
  | .objectKeys => do
    return .array ((← objectLike (arg args 0)).ownMembers.map fun m => .string m.1)
  | .objectValues => do return .array ((← objectLike (arg args 0)).ownMembers.map (·.2))
  | .objectEntries => do
    return .array ((← objectLike (arg args 0)).ownMembers.map fun m => .array [.string m.1, m.2])
  | .isArray =>
    match arg args 0 with
    | .array _ | .holes _ => .ok (.bool true)
    | _ => .ok (.bool false)
  | .arrayFrom => do
    let kept := arg args 1
    if !(kept matches .undefined | .function _) then throw (typeError "not a function")
    let items ← listed (arg args 0)
    return .array (if kept matches .undefined then items else items.map fun _ => .undefined)
  | .arrayOf => .ok (.array args)
  | .abs => numeric Binary64.abs
  | .floor => numeric Binary64.floor
  | .ceil => numeric Binary64.ceil
  | .round => numeric Binary64.round
  | .trunc => numeric Binary64.trunc
  | .sign => numeric Binary64.sign
  | .max => combined (.infinite true) Binary64.max args
  | .min => combined (.infinite false) Binary64.min args
  | .promiseResolve => .ok .undefined
  | .promiseReject => .ok .undefined
  | .method name => callMethod name this args

end Builtin

end ScriptBench
