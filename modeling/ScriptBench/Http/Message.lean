import ScriptBench.Json.Decoder
import ScriptBench.Json.Text

/-!
Requests a script makes and responses it sees, and their JSON forms.

A request that leaves fields out gets the defaults of `Request.blank`. A response carries the
decoded body only if the body is JSON text (`Response.normalize`); the field is left out of the JSON
form when there is none.

These are `HttpRequestSpec`, `HttpResponse`, `KeyValue` and `TaggedWord`, with `normalize_response`
and `decode_body`.
-/
namespace ScriptBench

/-- A name and a value: a header or a query parameter. -/
structure NamedValue where
  name : String
  value : String
  deriving DecidableEq, Repr, Inhabited

namespace NamedValue

def toJson (p : NamedValue) : Json := .obj [("name", .str p.name), ("value", .str p.value)]

def decoder : Decoder NamedValue :=
  .record "KeyValue" ⟨"", ""⟩
    [.need "name" .string fun x p => { p with name := x },
     .need "value" .string fun x p => { p with value := x }]

end NamedValue

/-- An HTTP request as a script describes it. -/
structure Request where
  method : String
  url : String
  headers : List NamedValue
  params : List NamedValue
  body : String
  deriving DecidableEq, Repr, Inhabited

namespace Request

/-- A request that says nothing: GET of the empty address. -/
def blank : Request := ⟨"GET", "", [], [], ""⟩

/-- The GET request of an address. -/
def get (url : String) : Request := { blank with url := url }

def toJson (r : Request) : Json :=
  .obj [("method", .str r.method), ("url", .str r.url),
    ("headers", .arr (r.headers.map NamedValue.toJson)),
    ("params", .arr (r.params.map NamedValue.toJson)), ("body", .str r.body)]

def decoder : Decoder Request :=
  .record "HttpRequestSpec" blank
    [.opt "method" .string fun x r => { r with method := x },
     .opt "url" .string fun x r => { r with url := x },
     .opt "headers" (.list NamedValue.decoder) fun x r => { r with headers := x },
     .opt "params" (.list NamedValue.decoder) fun x r => { r with params := x },
     .opt "body" .string fun x r => { r with body := x }]

end Request

/-- An HTTP response; `json` is the decoded body. -/
structure Response where
  status : Nat
  headers : List NamedValue
  text : String
  json : Option Json
  deriving Inhabited, Repr

namespace Response

/-- The value of a body that is JSON text. -/
def decodeBody (text : String) : Option Json := Json.parse? text

/-- The response with its body decoded, whatever was decoded before. -/
def normalize (r : Response) : Response := { r with json := decodeBody r.text }

def toJson (r : Response) : Json :=
  .obj ([("status", .int r.status), ("headers", .arr (r.headers.map NamedValue.toJson)),
    ("text", .str r.text)] ++ (r.json.map fun v => ("json", v)).toList)

/-- Equality of responses as assertions see it. -/
def same (a b : Response) : Bool :=
  a.status == b.status && a.headers == b.headers && a.text == b.text &&
    match a.json, b.json with
    | none, none => true
    | some x, some y => x.same y
    | _, _ => false

def decoder : Decoder Response :=
  .record "HttpResponse" ⟨0, [], "", none⟩
    [.need "status" (.natural "u16" 65535) fun x r => { r with status := x },
     .need "headers" (.list NamedValue.decoder) fun x r => { r with headers := x },
     .need "text" .string fun x r => { r with text := x },
     .opt "json" (.option .any) fun x r => { r with json := x }]

end Response

/-- A word with its part of speech. -/
structure TaggedWord where
  word : String
  tag : String
  deriving DecidableEq, Repr, Inhabited

namespace TaggedWord

def toJson (w : TaggedWord) : Json := .obj [("word", .str w.word), ("tag", .str w.tag)]

def decoder : Decoder TaggedWord :=
  .record "TaggedWord" ⟨"", ""⟩
    [.need "word" .string fun x w => { w with word := x },
     .need "tag" .string fun x w => { w with tag := x }]

end TaggedWord

end ScriptBench
