import ScriptBench.Host.Collaborators
import ScriptBench.Http.Headers
import ScriptBench.Url.Parse

/-!
Performing requests.

A request is checked as a whole before anything is sent (`Outgoing.ofRequest`): the method, then the
address, then the headers one by one, the name before the value. What is handed to the network is
`Sent`, and what comes of it `Exchange`; the network itself is an effect of any monad, so that a
client says when it is asked and with what.

This is `HttpClient`: `new` (here `check`), `build_url`, `build_headers` and `perform`.
-/
namespace ScriptBench

/-- How requests are sent. -/
structure ClientConfig where
  timeoutMs : Nat
  userAgent : String
  acceptInvalidCerts : Bool
  deriving DecidableEq, Repr

/-- Half a minute for an answer, and no invalid certificates. -/
def ClientConfig.default : ClientConfig := ⟨30000, "hostbridge/0.1.0", false⟩

instance : Inhabited ClientConfig := ⟨.default⟩

/-- A request that has passed all checks. -/
structure Outgoing where
  method : String
  url : Url
  headers : HeaderMap
  body : String
  deriving Repr

namespace Outgoing

/-- The address of a request, with its parameters added to the query. -/
def buildUrl (r : Request) : Except ConnectorError Url :=
  match Url.parse r.url with
  | .error e => .error (.invalidRequest ("bad url `" ++ r.url ++ "`: " ++ e.message))
  | .ok u => .ok (u.appendPairs (r.params.map fun p => (p.name, p.value)))

/-- The first fault in a list of headers. -/
def headerFault? : List NamedValue → Option ConnectorError
  | [] => none
  | h :: rest =>
    if !isHeaderName h.name then some (.invalidRequest ("bad header name `" ++ h.name ++ "`"))
    else if !isHeaderValue h.value then
      some (.invalidRequest ("bad value for header `" ++ h.name ++ "`"))
    else headerFault? rest

/-- The headers of a request as a map. -/
def buildHeaders (headers : List NamedValue) : Except ConnectorError HeaderMap :=
  match headerFault? headers with
  | some e => .error e
  | none => .ok (.ofList headers)

/-- Checks a request. -/
def ofRequest (r : Request) : Except ConnectorError Outgoing :=
  match readMethod? r.method with
  | none => .error (.invalidRequest ("bad method `" ++ r.method ++ "`"))
  | some method => do
    let url ← buildUrl r
    let headers ← buildHeaders r.headers
    return ⟨method, url, headers, r.body⟩

/-- Credentials in the address become a header, unless there is one already, and go out of the
address. -/
def moveCredentials (o : Outgoing) : Outgoing :=
  match o.url.credentials? with
  | none => o
  | some (username, password) =>
    { o with
      url := o.url.withoutCredentials
      headers := o.headers.setDefault "authorization" (authorization username password) }

/-- Characters a host may have in the address of a request line. -/
def isHostChar (c : Char) : Bool :=
  isTokenChar c && !(['%', '^', '\x60', '|'].contains c) || ['(', ')', ',', ';', '='].contains c

/-- Whether an address can be asked for: it is one of the web, not too long, and its host is
plain. -/
def canBeAsked (u : Url) : Bool :=
  let plainHost := match u.authority.bind (·.host) with
    | some (.name cs) => cs.all isHostChar
    | _ => true
  (u.scheme = "http".toList || u.scheme = "https".toList) && plainHost && u.chars.length ≤ 65534

/-- The headers that are sent: those of the request, and those that every request has. -/
def sentHeaders (config : ClientConfig) (o : Outgoing) : List NamedValue :=
  ((o.headers.setDefault "accept" "*/*").setDefault "user-agent" config.userAgent).toList

end Outgoing

/-- A request as it is handed to the network. -/
structure Sent where
  method : String
  url : Url
  headers : List NamedValue
  body : String
  deriving Repr

/-- What is sent of a request that has passed all checks. -/
def Outgoing.sent (config : ClientConfig) (o : Outgoing) : Sent :=
  let moved := o.moveCredentials
  ⟨moved.method, moved.url, moved.sentHeaders config, moved.body⟩

/-- An answer as it comes over the wire. -/
structure Incoming where
  status : Nat
  headers : List (String × List UInt8)
  body : List UInt8
  deriving Repr

namespace Incoming

/-- An answer as text; headers of one name stand together, and nothing is decoded yet. -/
def toResponse (i : Incoming) : Response :=
  let lossy (bytes : List UInt8) : String := String.ofList (Utf8.decode bytes)
  let headers := HeaderMap.ofList (i.headers.map fun (name, value) => ⟨name, lossy value⟩)
  ⟨i.status, headers.toList, lossy i.body, none⟩

end Incoming

/-- What comes of a request that is sent. -/
inductive Exchange where
  | answered (i : Incoming)
  | timedOut
  /-- No connection, or no answer. -/
  | broken
  deriving Repr

namespace ClientConfig

/-- A client cannot be made whose name cannot be sent. -/
def check (config : ClientConfig) : Except ConnectorError Unit :=
  if isHeaderValue config.userAgent then .ok () else .error (.network "builder error")

/-- What the client makes of what comes of a request. -/
def outcome (config : ClientConfig) (s : Sent) : Exchange → Except ConnectorError Response
  | .answered i => .ok i.toResponse
  | .timedOut => .error (.timeout config.timeoutMs)
  | .broken => .error (.network ("error sending request for url (" ++ s.url.text ++ ")"))

variable {m : Type → Type} [Monad m]

/-- Sends a request that has passed all checks. -/
def send (config : ClientConfig) (exchange : Sent → m Exchange) (o : Outgoing) :
    m (Except ConnectorError Response) :=
  let s := o.sent config
  if Outgoing.canBeAsked s.url then do return config.outcome s (← exchange s)
  else return .error (.network ("builder error for url (" ++ s.url.text ++ ")"))

/-- Performs a request: nothing is sent unless everything in it is sound. -/
def perform (config : ClientConfig) (exchange : Sent → m Exchange) (r : Request) :
    m (Except ConnectorError Response) :=
  match config.check with
  | .error e => return .error e
  | .ok () =>
    match Outgoing.ofRequest r with
    | .error e => return .error e
    | .ok o => config.send exchange o

end ClientConfig

end ScriptBench
