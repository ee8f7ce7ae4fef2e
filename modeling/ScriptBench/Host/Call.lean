import ScriptBench.Call
import ScriptBench.Host.Channel
import ScriptBench.Host.Collaborators
import ScriptBench.Host.Instance
import ScriptBench.Shared.Store

/-!
Answering the calls of an instance.

A call is read, checked and carried out in this order, and the first step that fails answers with an
error before anything has changed. Three operations may suspend: the answer then comes when what
they wait for has come (`Host.conclude`), or when the instance is cancelled (`Host.interrupt`).

`Host.call` is `dispatch` of `HostApi`, and behind it `invoke` of `InstanceContext` (here
`answerNow`, and `waitShared` and `fetch` where a call may suspend), with `log` and `enter_scope`;
`finish` tells those who listen (`announce`).
-/
namespace ScriptBench

/-- What happens to an instance, for whoever watches. -/
inductive Event where
  | log (instance_ : Nat) (entry : LogEntry)
  | finished (instance_ : Nat) (status : Status)
  deriving DecidableEq, Repr

/-- What all instances of a run share. -/
structure World where
  store : Store
  visits : Visits
  channel : Option (Channel Event)
  deriving Inhabited

def World.empty : World := ⟨.empty, [], none⟩

/-- What stays the same during a run: the limits, the collaborators, and the time of day put on what
is recorded. -/
structure Settings where
  config : Config
  collaborators : Collaborators
  now : Time
  deriving Inhabited

/-- An instance and the world it acts on. -/
structure Host where
  inst : Instance
  world : World
  deriving Inhabited

/-- What a suspended call waits for. -/
inductive Suspension where
  | sleep (ms : Nat)
  /-- An answer of the network that never comes. -/
  | network
  | wait (key : String) (id : Nat)
  deriving DecidableEq, Repr

/-- The answer to a call, or that it waits. -/
inductive Progress where
  | answered (a : Answer)
  | suspended (s : Suspension)

namespace Host

/-- Writes a line to the log of the instance and offers it to whoever watches. -/
def log (s : Settings) (h : Host) (level : LogLevel) (message : String) : Host :=
  let entry : LogEntry := ⟨level, s.now, h.inst.scope, message⟩
  { inst := { h.inst with logs := h.inst.logs ++ [entry] }
    world := { h.world with
      channel := h.world.channel.map fun c => c.offer (.log h.inst.number entry) } }

def visit (h : Host) (v : Visit) : Host :=
  { h with world := { h.world with visits := h.world.visits ++ [(h.inst.number, v)] } }

def withTests (h : Host) (tests : Aggregator) : Host := { h with inst := { h.inst with tests } }

def withStore (h : Host) (store : Store) : Host := { h with world := { h.world with store } }

def enterScope (h : Host) (scope : String) : Host := { h with inst := { h.inst with scope } }

/-- The failure of a language tool. -/
def collaboratorError (e : ConnectorError) : HostError := .collaborator e.message

/-- Sends a request. -/
def fetch (s : Settings) (h : Host) (r : Request) : Host × Progress :=
  let visited := h.visit (.http r)
  match s.collaborators.network h.world.visits h.inst.number r with
  | .response response => (visited, .answered (.ok response.normalize.toJson.sorted))
  | .failed (.invalidRequest detail) =>
    (visited, .answered (.error (.invalidArgument "http_fetch" detail)))
  | .failed e => (visited, .answered (.error (.network e.message)))
  | .silent => (visited, .suspended .network)

/-- The line that tells of a shared value read. -/
def sharedFound (key : String) (v : Json) : String :=
  "get shared: `" ++ key ++ "` as `" ++ v.text ++ "`"

def sharedMissing (key : String) : String := "get shared `" ++ key ++ "` failed"

/-- Ends a suspended call by what it waited for: the time of a sleep is over, a shared value has
come, or the time for it is over. -/
def conclude (s : Settings) (h : Host) : Suspension → Host × Answer
  | .sleep _ => (h, .ok .null)
  | .network => (h, .error .cancelled)
  | .wait key id =>
    let store := h.world.store.resume id
    match store.result? id with
    | some v => ((h.withStore store).log s .info (sharedFound key v), .ok v)
    | none =>
      ((h.withStore (store.abandon id)).log s .error (sharedMissing key), .error (.timeout key))

/-- Ends a suspended call because the instance is cancelled. -/
def interrupt (h : Host) : Suspension → Host × Answer
  | .wait _ id => (h.withStore (h.world.store.abandon id), .error .cancelled)
  | _ => (h, .error .cancelled)

/-- Waits for a shared value; one that is there is given at once. -/
def waitShared (s : Settings) (h : Host) (key : String) : Host × Progress :=
  let id := h.world.store.nextWait
  let store := h.world.store.begin key
  match store.result? id with
  | some v => ((h.withStore store).log s .info (sharedFound key v), .answered (.ok v))
  | none => (h.withStore store, .suspended (.wait key id))

/-- The message of an assertion of equality. -/
def equalMessage (passed : Bool) (expect actual : Json) : String :=
  if passed then "Expect equal actual is " ++ expect.text
  else "Expect is " ++ expect.text ++ " but actual is " ++ actual.text

/-- Records an assertion of equality; the answer is its verdict. -/
def assertEqual (h : Host) (expect actual : Json) : Host × Answer :=
  let passed := expect.same actual
  (h.withTests (h.inst.tests.append passed (equalMessage passed expect actual)), .ok (.bool passed))

/-- Asks the language tools, if there are any. -/
def consult {α : Type} (s : Settings) (h : Host) (v : Visit)
    (ask : LanguageTools → Except ConnectorError α) : Host × Except HostError α :=
  match s.collaborators.language with
  | none => (h, .error (collaboratorError (.unavailable "nlp")))
  | some tools => (h.visit v, (ask tools).mapError collaboratorError)

/-- The message of an assertion of similarity. -/
def similarMessage (passed : Bool) (expect actual : String) (score threshold : Binary64) : String :=
  let shown := score.fixedPlaces 3
  let bound := DoubleFormat.plain.text threshold
  if passed then "Expect similar to `" ++ expect ++ "` with score " ++ shown ++ " above " ++ bound
  else
    "Expect similar to `" ++ expect ++ "` but actual is `" ++ actual ++ "` with score " ++ shown ++
      " not above " ++ bound

/-- Records an assertion of similarity, which passes strictly above its threshold. -/
def assertSimilar (s : Settings) (h : Host) (expect actual : String) (threshold : Binary64) :
    Host × Answer :=
  match h.consult s (.similarity expect actual) (·.similarity expect actual) with
  | (h, .error e) => (h, .error e)
  | (h, .ok score) =>
    let passed := threshold.lt score
    (h.withTests (h.inst.tests.append passed (similarMessage passed expect actual score threshold)),
      .ok (.bool passed))

/-- The answer of the language tools as a value. -/
def consultFor {α : Type} (s : Settings) (h : Host) (v : Visit)
    (ask : LanguageTools → Except ConnectorError α) (write : α → Json) : Host × Answer :=
  let (h, r) := h.consult s v ask
  (h, r.map write)

def stringsJson (xs : List String) : Json := .arr (xs.map .str)

/-- Carries out a call that answers at once. -/
def answerNow (s : Settings) (h : Host) : Call → Host × Answer
  | .log level message => (h.log s level message, .ok .null)
  | .getTestcase => (h, .ok h.inst.testcase)
  | .response => (h, .ok ((h.inst.lastResponse.map fun r => r.toJson.sorted).getD .null))
  | .setEnv key value =>
    ({ h with inst := h.inst.setEnv key value }.log s .info
      ("set env: `" ++ key ++ "` as `" ++ value ++ "`"), .ok .null)
  | .getEnv key =>
    match h.inst.env.get? key with
    | some value => (h, .ok (.str value))
    | none => (h.log s .warn ("get env `" ++ key ++ "` failed"), .ok .null)
  | .addHeader name value =>
    let inst := { h.inst with headers := h.inst.headers ++ [⟨name, value⟩] }
    ({ h with inst }.log s .info ("add header: `" ++ name ++ "` as `" ++ value ++ "`"), .ok .null)
  | .addParams name value =>
    let inst := { h.inst with params := h.inst.params ++ [⟨name, value⟩] }
    ({ h with inst }.log s .info ("add params: `" ++ name ++ "` as `" ++ value ++ "`"), .ok .null)
  | .setShared key value =>
    ((h.withStore (h.world.store.set key value)).log s .info
      ("set shared: `" ++ key ++ "` as `" ++ value.text ++ "`"), .ok .null)
  | .getShared key =>
    match h.world.store.get? key with
    | some v => (h.log s .info (sharedFound key v), .ok v)
    | none => (h.log s .warn (sharedMissing key), .ok .null)
  | .openTest name => (h.withTests (h.inst.tests.openBlock s.now name), .ok .null)
  | .closeTest name => (h.withTests (h.inst.tests.closeBlock s.now name).1, .ok .null)
  | .appendAssert passed message => (h.withTests (h.inst.tests.append passed message), .ok .null)
  | .testSkip => (h.withTests h.inst.tests.skip, .ok .null)
  | .assert expect actual => h.assertEqual expect actual
  | .assertNlp expect actual threshold => h.assertSimilar s expect actual threshold
  | .equal a b => (h, .ok (.bool (a.same b)))
  | .nlpKeywords text k => h.consultFor s (.keywords text k) (·.keywords text k) stringsJson
  | .nlpTags text =>
    h.consultFor s (.tags text) (·.tags text) fun ws => .arr (ws.map fun w => w.toJson.sorted)
  | .nlpTagFilter text tags =>
    h.consultFor s (.tagFilter text tags) (·.tagFilter text tags) stringsJson
  | .nlpSimilarity a b => h.consultFor s (.similarity a b) (·.similarity a b) Json.ofDouble
  | .sleep _ => (h, .ok .null)
  | .httpFetch _ => (h, .ok .null)
  | .waitShared _ => (h, .ok .null)

/-- Carries out a call. A sleep longer than the limit is refused. -/
def invoke (s : Settings) (h : Host) : Call → Host × Progress
  | .sleep ms =>
    if s.config.maxSleepMs < ms then
      (h, .answered (.error (.invalidArgument "sleep"
        (toString ms ++ " ms exceeds the " ++ toString s.config.maxSleepMs ++ " ms limit"))))
    else (h, .suspended (.sleep ms))
  | .httpFetch r => h.fetch s r
  | .waitShared key => h.waitShared s key
  | c =>
    let (h, a) := h.answerNow s c
    (h, .answered a)

/-- The arguments of a call as a value. -/
def readArguments (name argsText : String) : Except HostError Json :=
  (Json.parse argsText).mapError fun f =>
    .invalidArgument name ("arguments are not JSON: " ++ f.message)

/-- The call a name and a text of arguments stand for. -/
def readCall (name argsText : String) : Except HostError Call := do
  Call.parse name (← readArguments name argsText)

/-- Takes a call of an instance. A cancelled instance gets no answer but `Cancelled` from operations
that may suspend. -/
def call (s : Settings) (cancelled : Bool) (h : Host) (name argsText : String) : Host × Progress :=
  match readCall name argsText with
  | .error e => (h, .answered (.error e))
  | .ok c =>
    if c.operation.isSuspending && cancelled then (h, .answered (.error .cancelled))
    else h.invoke s c

/-- Tells whoever watches that the instance has ended. Unlike lines of the log this is never
lost. -/
def announce (h : Host) (status : Status) : Host :=
  { h with world := { h.world with
      channel := h.world.channel.map fun c => c.send (.finished h.inst.number status) } }

/-- Whether the word that the instance has ended still waits for room. -/
def isAnnouncing (h : Host) (status : Status) : Bool :=
  match h.world.channel with
  | some c => c.waiting.contains (.finished h.inst.number status)
  | none => false

end Host

end ScriptBench
