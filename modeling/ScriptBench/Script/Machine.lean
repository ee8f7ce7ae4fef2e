import ScriptBench.Script.Binding
import ScriptBench.Script.Step

/-!
Running the steps of a script.

The machine keeps what is still to be done as a list of frames, innermost first. A call of the host
stops it (`Turn.ask`) until the answer comes (`Machine.answer`). Awaiting takes the frames up to the
asynchronous function that awaits out of the list and puts them behind a promise; settled promises
queue jobs, and jobs run one after the other when nothing else is left.
-/
namespace ScriptBench

/-- What is to be done with the value, or the error, that comes next. -/
inductive Frame where
  /-- The rest of a body. -/
  | body (steps : List Step)
  /-- A handler for errors. -/
  | guard (handler : List Step)
  /-- Awaits the value if asked to, and stores it. -/
  | keep (store : Option String) (await : Bool)
  /-- Gives `undefined` in place of the value. -/
  | discard
  /-- The end of an asynchronous function; its outcome settles a promise. -/
  | settle (promise : Nat)
  /-- A test block has been opened: its body comes next. -/
  | opened (name : Value) (kind : BodyKind) (steps : List Step)
  /-- The same for a body that is a value; only a function can be called. -/
  | openedValue (name : Value) (body : Value)
  /-- The end of a test's body; the block is to be closed. -/
  | close (name : Value)
  /-- A test block has been closed: the outcome of its body counts. -/
  | closed (outcome : Except Value Value)
  /-- A test block has been closed behind a promise: its outcome is handed on once more. -/
  | closedLater (outcome : Except Value Value)
  /-- The outcome settles a promise made for a job. -/
  | capability (promise : Nat)
  /-- The end of the scope's own function. -/
  | top
  deriving Inhabited

/-- What is done when a promise is settled. -/
inductive Handler where
  /-- Goes on with frames that awaited. -/
  | resume (frames : List Frame)
  /-- Closes a test block, whatever the outcome, and hands the outcome on to a promise. -/
  | closeTest (name : Value) (promise : Nat)
  /-- Settles a promise with an outcome known before. -/
  | pass (outcome : Except Value Value) (promise : Nat)
  /-- Settles another promise the same way. -/
  | forward (promise : Nat)
  /-- Notes that the scope has ended. -/
  | finish
  deriving Inhabited

/-- A promise: settled, or with what waits for it. -/
inductive PromiseState where
  | pending (handlers : List Handler)
  | settled (outcome : Except Value Value)
  deriving Inhabited

/-- Work that runs when the present work is done. -/
inductive Job where
  | react (handler : Handler) (outcome : Except Value Value)
  /-- Lets a promise follow a value that has a `then`. -/
  | adopt (promise : Nat) (value : Value)
  deriving Inhabited

/-- What the machine does next. -/
inductive Control where
  | deliver (value : Value) (frames : List Frame)
  | raise (error : Value) (frames : List Frame)
  /-- The host has been called for these frames. -/
  | asked (frames : List Frame)
  | idle
  deriving Inhabited

structure Machine where
  memoryLimit : Nat
  vars : List (String × Value)
  globals : Globals
  promises : List PromiseState
  jobs : List Job
  control : Control
  deriving Inhabited

/-- The result of one step of the machine. -/
inductive Turn where
  | next (m : Machine)
  | ask (request : HostRequest) (m : Machine)
  /-- Nothing is left to do. -/
  | halt
  /-- It goes on for ever, unless it is interrupted. -/
  | spin (interrupted : Machine)

namespace Machine

/-! Variables and globals. -/

/-- Pairs with one more; an earlier pair of the same name is replaced. -/
def setVariable (name : String) (value : Value) : List (String × Value) → List (String × Value)
  | [] => [(name, value)]
  | (n, v) :: rest =>
    if n = name then (n, value) :: rest else (n, v) :: setVariable name value rest

def assign (m : Machine) (name : String) (v : Value) : Machine :=
  { m with vars := setVariable name v m.vars }

/-- A value as the name of a member. -/
def keyOf (v : Value) : Except Value Text16 := Value.toText v

/-- What a path of values leads to. -/
def walk (v : Value) (path : List Value) : Except Value Value :=
  path.foldlM (fun v key => do Value.member (← keyOf key) v) v

mutual

/-- The value of an operand. -/
def eval (g : Globals) (vars : List (String × Value)) : Expr → Except Value Value
  | .value v => .ok v
  | .variable name path => walk ((vars.lookup name).getD .undefined) path
  | .array items => do return .array (← evalItems g vars items)
  | .object members => do return Value.ofMembers (← evalMembers g vars members)
  | .parsed text => g.callMember "JSON" "parse" [text]
  | .bare => g.callMember "Object" "create" [.null]
  | .error message own => do
    g.construct "Error"
    match message with
    | .undefined => return .error "Error" .empty own
    | v => return .error "Error" (← Value.toText v) own
  | .hostError kind message => do
    g.construct "HostError"
    return .hostFailure kind (← Value.toText message)

def evalItems (g : Globals) (vars : List (String × Value)) : List Expr → Except Value (List Value)
  | [] => .ok []
  | e :: rest => do
    let v ← eval g vars e
    return v :: (← evalItems g vars rest)

/-- Each name becomes a string before its value is there. -/
def evalMembers (g : Globals) (vars : List (String × Value)) :
    List (Value × Expr) → Except Value (List (Text16 × Value))
  | [] => .ok []
  | (n, e) :: rest => do
    let n ← keyOf n
    let v ← eval g vars e
    return (n, v) :: (← evalMembers g vars rest)

end

/-- The value of an operand, here and now. -/
def value (m : Machine) (e : Expr) : Except Value Value := eval m.globals m.vars e

/-! Promises. -/

def enqueue (m : Machine) (jobs : List Job) : Machine := { m with jobs := m.jobs ++ jobs }

/-- A new promise, and its number. -/
def newPromise (m : Machine) (state : PromiseState) : Machine × Nat :=
  ({ m with promises := m.promises ++ [state] }, m.promises.length)

/-- Settles a promise; what waits for it is queued. -/
def settle (m : Machine) (p : Nat) (outcome : Except Value Value) : Machine :=
  match m.promises[p]? with
  | some (.pending handlers) =>
    { m with
      promises := m.promises.set p (.settled outcome)
      jobs := m.jobs ++ handlers.map fun h => .react h outcome }
  | _ => m

/-- Ends a promise with a value; one that has a `then` is followed instead. -/
def resolve (m : Machine) (p : Nat) (v : Value) : Machine :=
  if v.isThenable then m.enqueue [.adopt p v] else m.settle p (.ok v)

/-- Ends a promise with an outcome. -/
def complete (m : Machine) (p : Nat) : Except Value Value → Machine
  | .ok v => m.resolve p v
  | .error e => m.settle p (.error e)

/-- Lets a handler wait for a promise. -/
def whenSettled (m : Machine) (p : Nat) (h : Handler) : Machine :=
  match m.promises[p]? with
  | some (.pending handlers) =>
    { m with promises := m.promises.set p (.pending (handlers ++ [h])) }
  | some (.settled outcome) => m.enqueue [.react h outcome]
  | none => m

/-- The promise a value is, or a new one that is resolved with it. -/
def promiseOf (m : Machine) : Value → Machine × Nat
  | .promise p => (m, p)
  | v =>
    let (m, p) := m.newPromise (.pending [])
    (m.resolve p v, p)

/-! Frames. -/

/-- The frames up to the end of the innermost asynchronous function, and those outside of it. -/
def splitAsync : List Frame → List Frame × List Frame
  | [] => ([], [])
  | .settle p :: rest => ([.settle p], rest)
  | f :: rest =>
    let (inner, outer) := splitAsync rest
    (f :: inner, outer)

/-- The frames without the rest of the innermost function's body. -/
def unwind : List Frame → List Frame
  | .body _ :: rest => unwind rest
  | .guard _ :: rest => unwind rest
  | fs => fs

/-- The promise that the innermost asynchronous function gives to its caller. -/
def promiseOfFrames (inner : List Frame) : Value :=
  match inner.getLast? with
  | some (.settle p) => .promise p
  | _ => .undefined

/-- Awaits a value: the innermost asynchronous function goes on later, its caller now. -/
def await (m : Machine) (v : Value) (frames : List Frame) : Machine :=
  let (inner, outer) := splitAsync frames
  let (m, p) := m.promiseOf v
  { m.whenSettled p (.resume inner) with control := .deliver (promiseOfFrames inner) outer }

def deliver (m : Machine) (v : Value) (frames : List Frame) : Machine :=
  { m with control := .deliver v frames }

def raise (m : Machine) (e : Value) (frames : List Frame) : Machine :=
  { m with control := .raise e frames }

/-- Goes on with an outcome. -/
def proceed (m : Machine) (outcome : Except Value Value) (frames : List Frame) : Machine :=
  match outcome with
  | .ok v => m.deliver v frames
  | .error e => m.raise e frames

/-- Calls the host; its answer goes to the frames. -/
def ask (m : Machine) (r : HostRequest) (frames : List Frame) : Turn :=
  .ask r { m with control := .asked frames }

/-- The frames that were waiting for the host get its answer. -/
def answer (m : Machine) (a : Answer) : Machine :=
  match m.control with
  | .asked frames =>
    match a with
    | .ok v => m.deliver (.ofJson v) frames
    | .error e => m.raise (.ofHostError e) frames
  | _ => m

/-- Asks the host to close a test block; what cannot be asked throws. -/
def close (m : Machine) (name : Value) (frames after : List Frame) : Turn :=
  match m.globals.request .closeTest [name] with
  | .ok r => m.ask r frames
  | .error e => .next (m.raise e after)

/-! Calls. -/

/-- Calls a function of the host with values. -/
def callBinding (m : Machine) (b : Binding) (args : List Value) (frames : List Frame) : Turn :=
  let (m, frames) :=
    if b.isAsync then
      let (m, p) := m.newPromise (.pending [])
      (m, Frame.settle p :: frames)
    else (m, frames)
  match b.request m.globals args with
  | .error e => .next (m.raise e frames)
  | .ok r =>
    if b = .test then
      match m.globals.text (Builtin.arg args 0) with
      | .ok name => m.ask r (.openedValue name (Builtin.arg args 1) :: frames)
      | .error e => .next (m.raise e frames)
    else m.ask r (if b.givesAnswer then frames else .discard :: frames)

/-- Calls a function on an object. -/
def callFunction (m : Machine) (callee : Callee) (this : Value) (args : List Value)
    (frames : List Frame) : Turn :=
  match callee with
  | .nothing => .next (m.deliver .undefined frames)
  | .host b => m.callBinding b args frames
  | .builtin .promiseResolve =>
    let (m, p) := m.promiseOf (Builtin.arg args 0)
    .next (m.deliver (.promise p) frames)
  | .builtin .promiseReject =>
    let (m, p) := m.newPromise (.settled (.error (Builtin.arg args 0)))
    .next (m.deliver (.promise p) frames)
  | .builtin b => .next (m.proceed (b.call this args) frames)

/-- Calls what a path led to, on an object. A function has methods that call it on another object,
with arguments that follow or with those in an array. -/
def callTarget (m : Machine) (this target : Value) (args : List Value)
    (frames : List Frame) : Turn :=
  match target, this with
  | .function (.builtin (.method "call")), .function callee =>
    m.callFunction callee (Builtin.arg args 0) args.tail frames
  | .function (.builtin (.method "apply")), .function callee =>
    match Builtin.spread (Builtin.arg args 1) with
    | .ok items => m.callFunction callee (Builtin.arg args 0) items frames
    | .error e => .next (m.raise e frames)
  | .function callee, this => m.callFunction callee this args frames
  | _, _ => .next (m.raise Globals.notFunction frames)

/-- The longest string. -/
def maxText : Nat := Nat.pow 2 30 - 1

/-- The greatest number of repetitions. -/
def maxRepeat : Nat := Nat.pow 2 31 - 1

/-- Builds a string of so many bytes. -/
def allocate (m : Machine) (count : Value) : Except Value Unit := do
  let x ← Value.toNumber count
  let bytes := x.truncate (maxRepeat + 1)
  if (x.lt (.ofInt (-1)) ∨ x = .ofInt (-1)) ∨ maxRepeat < bytes then
    throw (Value.rangeError "invalid repeat count")
  if maxText < bytes then throw (Value.rangeError "invalid string length")
  if m.memoryLimit ≤ bytes then throw (Value.internalError "out of memory")

/-- Runs one statement; the frames are what follows it. -/
def exec (m : Machine) (frames : List Frame) : Step → Turn
  | .call path args store await =>
    match m.globals.resolve path with
    | .error e => .next (m.raise e frames)
    | .ok (this, target) =>
      match evalItems m.globals m.vars args with
      | .error e => .next (m.raise e frames)
      | .ok values => m.callTarget this target values (.keep store await :: frames)
  | .test path title kind steps store await =>
    let frames := .keep store await :: frames
    match m.globals.resolve path with
    | .error e => .next (m.raise e frames)
    | .ok (this, target) =>
      match m.value title with
      | .error e => .next (m.raise e frames)
      | .ok title =>
        match target with
        | .function (.host .test) =>
          match m.globals.text title, Binding.request m.globals .test [title] with
          | .ok name, .ok r => m.ask r (.opened name kind steps :: frames)
          | .error e, _ => .next (m.raise e frames)
          | _, .error e => .next (m.raise e frames)
        | _ => m.callTarget this target [title, .idleFunction] frames
  | .attempt steps handler => .next (m.deliver .undefined (.body steps :: .guard handler :: frames))
  | .throw e =>
    match m.value e with
    | .ok v => .next (m.raise v frames)
    | .error e => .next (m.raise e frames)
  | .leave e =>
    match m.value e with
    | .ok v => .next (m.deliver v (unwind frames))
    | .error e => .next (m.raise e frames)
  | .assign e name =>
    match m.value e with
    | .ok v => .next ((m.assign name v).deliver .undefined frames)
    | .error e => .next (m.raise e frames)
  | .setGlobal name e =>
    match (do let v ← m.value e; m.globals.assign (← keyOf name) v) with
    | .ok globals => .next ({ m with globals := globals }.deliver .undefined frames)
    | .error e => .next (m.raise e frames)
  | .never =>
    match m.globals.construct "Promise" with
    | .ok () =>
      let (m, p) := m.newPromise (.pending [])
      .next (m.await (.promise p) frames)
    | .error e => .next (m.raise e frames)
  | .spin => .spin (m.raise .interruption frames)
  | .recurse => .next (m.raise (Value.internalError "stack overflow") frames)
  | .allocate count =>
    match m.allocate count with
    | .ok () => .next (m.deliver .undefined frames)
    | .error e => .next (m.raise e frames)

/-- Starts the body of a test that has been opened. -/
def enterBody (m : Machine) (name : Value) (kind : BodyKind) (steps : List Step)
    (frames : List Frame) : Machine :=
  match kind with
  | .plain => m.deliver .undefined (.body steps :: .close name :: frames)
  | .async =>
    let (m, p) := m.newPromise (.pending [])
    m.deliver .undefined (.body steps :: .settle p :: .close name :: frames)

/-- Whether a promise can be had of a value, by what stands under `Promise`. -/
def canFollow (m : Machine) : Except Value Unit := do
  let maker ← m.globals.get (.ofString "Promise")
  match ← Value.member (.ofString "resolve") maker with
  | .function (.builtin .promiseResolve) => return ()
  | .function _ =>
    let _ ← Value.member (.ofString "finally") .undefined
    throw Globals.notFunction
  | _ => throw Globals.notFunction

/-- A test's body has given a value: the block is closed now, or when the value is settled. -/
def leaveBody (m : Machine) (name : Value) (v : Value) (frames : List Frame) : Turn :=
  if v.isThenable then
    match m.canFollow with
    | .ok () =>
      let (m, p) := m.promiseOf v
      let (m, q) := m.newPromise (.pending [])
      .next ((m.whenSettled p (.closeTest name q)).deliver (.promise q) frames)
    | .error e => .next (m.raise e frames)
  else m.close name (.closed (.ok v) :: frames) frames

/-- Gives a value to the innermost frame. -/
def deliverTo (m : Machine) (v : Value) (frames : List Frame) : Frame → Turn
  | .body [] => .next (m.deliver .undefined frames)
  | .body (s :: rest) => m.exec (.body rest :: frames) s
  | .guard _ => .next (m.deliver .undefined frames)
  | .keep store true => .next (m.await v (.keep store false :: frames))
  | .keep store false =>
    match store with
    | some name => .next ((m.assign name v).deliver .undefined frames)
    | none => .next (m.deliver .undefined frames)
  | .discard => .next (m.deliver .undefined frames)
  | .settle p => .next ((m.resolve p v).deliver (.promise p) frames)
  | .opened name kind steps => .next (m.enterBody name kind steps frames)
  | .openedValue name f =>
    match f with
    | .function .nothing => .next (m.deliver .undefined (.close name :: frames))
    | .function (.builtin b) => .next (m.proceed (b.call .undefined []) (.close name :: frames))
    | _ => .next (m.raise Globals.notFunction (.close name :: frames))
  | .close name => m.leaveBody name v frames
  | .closed outcome => .next (m.proceed outcome frames)
  | .closedLater outcome =>
    let (m, p) := m.promiseOf v
    let (m, q) := m.newPromise (.pending [])
    .next ((m.whenSettled p (.pass outcome q)).deliver (.promise q) frames)
  | .capability p => .next ((m.resolve p v).deliver .undefined frames)
  | .top =>
    match v with
    | .promise p => .next ((m.whenSettled p .finish).deliver .undefined frames)
    | _ => .next (m.deliver .undefined frames)

/-- Lets an error reach the innermost frame. An interruption passes by handlers and leaves blocks
open; only the end of an asynchronous function stops it. -/
def raiseTo (m : Machine) (e : Value) (frames : List Frame) : Frame → Turn
  | .guard handler =>
    if e.isInterruption then .next (m.raise e frames)
    else .next ((m.assign "e" e).deliver .undefined (.body handler :: frames))
  | .settle p => .next ((m.settle p (.error e)).deliver (.promise p) frames)
  | .close name =>
    if e.isInterruption then .next (m.raise e frames)
    else m.close name (.closed (.error e) :: frames) frames
  | .capability p => .next ((m.settle p (.error e)).deliver .undefined frames)
  | _ => .next (m.raise e frames)

/-- What is kept of a value that ended a scope: name, kind and message of an error, and the string
of anything else. -/
def failureText (g : Globals) (e : Value) : Except Value Value := do
  if ← g.isError e then
    let kind ← Value.member (.ofString "kind") e
    let name ← Value.toText (← Value.member (.ofString "name") e)
    let note ← if kind.truthy then
        do pure (.ofString "(" ++ (← Value.toText kind) ++ .ofString ")")
      else pure .empty
    let message ← Value.toText (← Value.member (.ofString "message") e)
    return .string (name ++ note ++ .ofString ": " ++ message)
  else g.text e

/-- The global that tells that a scope has ended. -/
def doneFlag : String := "__script_done"

/-- The global that holds what ended a scope. -/
def errorSlot : String := "__script_error"

/-- Notes the end of the scope's own function. What cannot be noted is lost. -/
def finish (m : Machine) (outcome : Except Value Value) : Machine :=
  let note (m : Machine) (name : String) (v : Value) : Machine :=
    match m.globals.assign (.ofString name) v with
    | .ok globals => { m with globals := globals }
    | .error _ => m
  if m.globals.knowsSelf then
    let m := note m doneFlag (.bool true)
    match outcome with
    | .ok _ => m
    | .error e =>
      match failureText m.globals e with
      | .ok t => note m errorSlot t
      | .error _ => m
  else m

/-- Runs one job. -/
def runJob (m : Machine) : Job → Turn
  | .react (.resume frames) outcome => .next (m.proceed outcome frames)
  | .react (.closeTest name p) outcome =>
    m.close name [.closedLater outcome, .capability p] [.capability p]
  | .react (.pass outcome p) _ => .next { m.complete p outcome with control := .idle }
  | .react (.forward p) outcome => .next { m.complete p outcome with control := .idle }
  | .react .finish outcome => .next { m.finish outcome with control := .idle }
  | .adopt p v =>
    match v with
    | .promise q => .next { m.whenSettled q (.forward p) with control := .idle }
    | .thenable => .next { m.resolve p (.number (.ofNat 7)) with control := .idle }
    | _ => .next { m with control := .idle }

/-- One step. -/
def turn (m : Machine) : Turn :=
  match m.control with
  | .deliver v (f :: frames) => m.deliverTo v frames f
  | .raise e (f :: frames) => m.raiseTo e frames f
  | .deliver _ [] => .next { m with control := .idle }
  | .raise _ [] => .next { m with control := .idle }
  | .asked _ => .halt
  | .idle =>
    match m.jobs with
    | [] => .halt
    | j :: rest => { m with jobs := rest }.runJob j

/-- The machine at the start of a body. -/
def start (memoryLimit : Nat) (steps : List Step) : Machine :=
  ⟨memoryLimit, [], [(.ofString doneFlag, .bool false)], [.pending []], [],
    .deliver .undefined [.body steps, .settle 0, .top]⟩

end Machine

end ScriptBench
