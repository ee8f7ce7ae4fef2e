import ScriptBench.Json.Decoder

/-!
The catalog of host operations: name, kind and number of arguments of each.

These are the host's `Operation`s, with `name`, `from_name` (here `ofName?`) and `kind`.
-/
namespace ScriptBench

/-- How an operation answers. -/
inductive OperationKind where
  /-- Its answer carries nothing. -/
  | fireAndForget
  /-- Its answer carries a value. -/
  | query
  /-- It answers later, and a cancelled instance gets no answer but `Cancelled`. -/
  | suspending
  deriving DecidableEq, Repr

namespace OperationKind

def name : OperationKind → String
  | .fireAndForget => "fire_and_forget"
  | .query => "query"
  | .suspending => "suspending"

def all : List OperationKind := [.fireAndForget, .query, .suspending]

def decoder : Decoder OperationKind := .choice (all.map fun k => (k.name, k))

end OperationKind

/-- An operation the host offers to scripts. -/
inductive Operation where
  | sleep
  | httpFetch
  | waitShared
  | log
  | warn
  | error
  | getTestcase
  | response
  | setEnv
  | getEnv
  | addHeader
  | addParams
  | setShared
  | getShared
  | openTest
  | closeTest
  | appendAssert
  | testSkip
  | assert
  | assertNlp
  | equal
  | nlpKeywords
  | nlpTags
  | nlpTagFilter
  | nlpSimilarity
  deriving DecidableEq, Repr

namespace Operation

def all : List Operation :=
  [.sleep, .httpFetch, .waitShared, .log, .warn, .error, .getTestcase, .response, .setEnv, .getEnv,
   .addHeader, .addParams, .setShared, .getShared, .openTest, .closeTest, .appendAssert, .testSkip,
   .assert, .assertNlp, .equal, .nlpKeywords, .nlpTags, .nlpTagFilter, .nlpSimilarity]

/-- The name by which scripts ask for an operation. -/
def name : Operation → String
  | .sleep => "sleep"
  | .httpFetch => "http_fetch"
  | .waitShared => "wait_shared"
  | .log => "log"
  | .warn => "warn"
  | .error => "error"
  | .getTestcase => "get_testcase"
  | .response => "response"
  | .setEnv => "set_env"
  | .getEnv => "get_env"
  | .addHeader => "add_header"
  | .addParams => "add_params"
  | .setShared => "set_shared"
  | .getShared => "get_shared"
  | .openTest => "open_test"
  | .closeTest => "close_test"
  | .appendAssert => "append_assert"
  | .testSkip => "test_skip"
  | .assert => "assert"
  | .assertNlp => "assert_nlp"
  | .equal => "equal"
  | .nlpKeywords => "nlp_keywords"
  | .nlpTags => "nlp_tags"
  | .nlpTagFilter => "nlp_tag_filter"
  | .nlpSimilarity => "nlp_similarity"

/-- The operation of a name. -/
def ofName? (name : String) : Option Operation := all.find? fun op => op.name == name

def kind : Operation → OperationKind
  | .sleep | .httpFetch | .waitShared => .suspending
  | .getTestcase | .response | .getEnv | .getShared | .assert | .assertNlp | .equal | .nlpKeywords
  | .nlpTags | .nlpTagFilter | .nlpSimilarity => .query
  | .log | .warn | .error | .setEnv | .addHeader | .addParams | .setShared | .openTest | .closeTest
  | .appendAssert | .testSkip => .fireAndForget

/-- How many arguments an operation takes. -/
def arity : Operation → Nat
  | .getTestcase | .response | .testSkip => 0
  | .sleep | .httpFetch | .waitShared | .log | .warn | .error | .getEnv | .getShared | .openTest
  | .closeTest | .nlpTags => 1
  | .setEnv | .addHeader | .addParams | .setShared | .appendAssert | .assert | .equal | .nlpKeywords
  | .nlpTagFilter | .nlpSimilarity => 2
  | .assertNlp => 3

def isSuspending (op : Operation) : Bool := op.kind = .suspending

def decoder : Decoder Operation := .choice (all.map fun op => (op.name, op))

end Operation

end ScriptBench
