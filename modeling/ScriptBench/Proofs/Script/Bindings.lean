import ScriptBench.Proofs.Script.ArgumentTexts
import ScriptBench.Proofs.Script.Exchange

/-!
What the functions of the host send.

A function makes each argument of its operation by a coercion (`Binding.plan`), and stands for the
call of this operation that carries what the coercions give (`Binding.Means`).

1. What a coercion sends of whole values is what it gives (`Coercion.tells_run`).
2. What a function asks the host for is read as the call it stands for, and it asks for every such
   call (`Binding.tells_request`). The title of a test block is made once, and waits to be closed by
   (`control_of_test`).
3. So nothing that a function of the host sends is refused for what it looks like
   (`bindings_send_what_is_read`), as long as scripts leave the names alone that conversions are
   called by and give headers that can be sent one by one (`some_requests_are_not_read`).
-/
namespace ScriptBench

open Value Text16

/-! ## Coercions -/

/-- How arguments become one argument of a host operation. -/
inductive Coercion where
  /-- The argument of a place, as a string. -/
  | text (place : Nat)
  /-- Whether the argument of a place counts as true. -/
  | flag (place : Nat)
  /-- All arguments, as a line. -/
  | line
  /-- The argument of a place, as a list of strings. -/
  | texts (place : Nat)
  /-- The first two arguments, as a request. -/
  | request
  deriving DecidableEq, Repr

namespace Coercion

open Builtin Argument

/-- The names the coercion calls by. -/
def names : Coercion → List String
  | .text _ => ["String"]
  | .flag _ => ["Boolean"]
  | .line => ["String", "Error", "JSON"]
  | .texts _ => ["String", "Array"]
  | .request => ["Object", "String", "Array", "JSON"]

/-- What the coercion makes of the arguments. -/
inductive Gives (args : List Value) : Coercion → Given → Prop
  | text {place : Nat} {s : String} (h : (arg args place).Says s) :
    Gives args (.text place) (.text s)
  | flag (place : Nat) : Gives args (.flag place) (.boolean (arg args place).truthy)
  | line {parts : List String} (h : List.Forall₂ Rendered args parts) :
    Gives args .line (.text (" ".intercalate parts))
  | texts {place : Nat} {items : List Value} {ss : List String}
    (hitems : listed (arg args place) = .ok items) (h : List.Forall₂ Says items ss) :
    Gives args (.texts place) (.texts ss)
  | request {r : Request} (h : Fetched (arg args 0) (arg args 1) r) :
    Gives args .request (.request r)

/-- Carries the coercion out. -/
def run (g : Globals) (args : List Value) : Coercion → Except Value Value
  | .text place => g.text (arg args place)
  | .flag place => g.call "Boolean" [arg args place]
  | .line => g.line args
  | .texts place => g.textList (arg args place)
  | .request => g.fetchRequest (arg args 0) (arg args 1)

variable {g : Globals} {args : List Value}

theorem whole_arg (hargs : ∀ v ∈ args, v.Whole) (place : Nat) : (arg args place).Whole := by
  unfold arg
  rw [List.getD_eq_getElem?_getD]
  cases h : args[place]? with
  | none => trivial
  | some v => exact hargs v (List.mem_of_getElem? h)

theorem tells_textList (hstring : g.Keeps "String") (harray : g.Keeps "Array") {v : Value}
    (hv : v.Whole) :
    Tells (g.textList v) (fun w ss => w = .array (ss.map Value.text))
      fun ss => ∃ items, listed v = .ok items ∧ List.Forall₂ Says items ss := by
  rw [Globals.textList_eq harray]
  refine (Tells.value _).bind (fun items ss => List.Forall₂ Says items ss) ?_ fun _ => Iff.rfl
  rintro items _ hitems - rfl
  refine (Tells.mapM fun v' hv' => tells_text hstring (whole_listed hv hitems v' hv')).map id ?_
    (by simp)
  intro ws ss _ hws
  refine congrArg Value.array ?_
  rwa [← List.forall₂_eq_eq_eq, List.forall₂_map_right_iff]

/-- Under the names it calls by, a coercion of whole arguments sends what it gives. -/
theorem tells_run (c : Coercion) (hkeeps : ∀ n ∈ c.names, g.Keeps n) (hargs : ∀ v ∈ args, v.Whole)
    (hpairable : c = .request → ∀ n ∈ ["headers", "params"], ∀ v,
      Offered (arg args 0) (arg args 1) n v → v.Pairable) :
    Tells (c.run g args) Sends (c.Gives args) := by
  cases c with
  | text place =>
    simp only [names, List.forall_mem_singleton] at hkeeps
    refine (tells_text hkeeps (whole_arg hargs place)).reindex .text ?_ fun given => ?_
    · rintro _ s - rfl
      exact .text s
    · constructor
      · rintro ⟨h⟩
        exact ⟨_, h, rfl⟩
      · rintro ⟨s, h, rfl⟩
        exact .text h
  | flag place =>
    simp only [names, List.forall_mem_singleton] at hkeeps
    rw [run, Globals.flag_eq hkeeps]
    refine Tells.ok (.boolean _) fun given => ?_
    constructor
    · rintro ⟨⟩
      rfl
    · rintro rfl
      exact .flag place
  | line =>
    simp only [names, List.forall_mem_cons] at hkeeps
    obtain ⟨hstring, herror, hjson, -⟩ := hkeeps
    refine (tells_line ⟨hstring, herror, hjson⟩ hargs).reindex .text ?_ fun given => ?_
    · rintro _ s - rfl
      exact .text s
    · constructor
      · rintro ⟨⟩
        exact ⟨_, ⟨_, ‹_›, rfl⟩, rfl⟩
      · rintro ⟨_, ⟨parts, h, rfl⟩, rfl⟩
        exact .line h
  | texts place =>
    simp only [names, List.forall_mem_cons] at hkeeps
    obtain ⟨hstring, harray, -⟩ := hkeeps
    refine (tells_textList hstring harray (whole_arg hargs place)).reindex .texts ?_ fun given => ?_
    · rintro _ ss - rfl
      exact .texts ss
    · constructor
      · rintro (_ | _ | _ | ⟨hitems, h⟩)
        exact ⟨_, ⟨_, hitems, h⟩, rfl⟩
      · rintro ⟨ss, ⟨items, hitems, h⟩, rfl⟩
        exact .texts hitems h
  | request =>
    refine (tells_fetchRequest hkeeps (whole_arg hargs 0) (whole_arg hargs 1)
      (hpairable rfl)).reindex .request ?_ fun given => ?_
    · intro w r _ hw
      exact .request hw
    · constructor
      · rintro ⟨⟩
        exact ⟨_, ‹_›, rfl⟩
      · rintro ⟨r, h, rfl⟩
        exact .request h

/-! ## The functions of the host -/

/-- What the argument is that the coercion makes. -/
def kind : Coercion → Kind
  | .text _ | .line => .text
  | .flag _ => .boolean
  | .texts _ => .texts
  | .request => .request

theorem kind_of_gives {c : Coercion} {given : Given} (h : c.Gives args given) :
    given.kind = c.kind := by
  cases h <;> rfl

end Coercion

namespace Binding

/-- The operation that a function of the host asks for, and how each of its arguments is made. The
functions that hand numbers or values of any kind over have none. -/
def plan : Binding → Option (Operation × List Coercion)
  | .consoleLog | .consoleInfo => some (.log, [.line])
  | .consoleWarn => some (.warn, [.line])
  | .consoleError => some (.error, [.line])
  | .setEnv => some (.setEnv, [.text 0, .text 1])
  | .getEnv => some (.getEnv, [.text 0])
  | .addHeader => some (.addHeader, [.text 0, .text 1])
  | .addParams => some (.addParams, [.text 0, .text 1])
  | .getShared => some (.getShared, [.text 0])
  | .waitShared => some (.waitShared, [.text 0])
  | .record => some (.appendAssert, [.flag 0, .text 1])
  | .openTest | .test => some (.openTest, [.text 0])
  | .closeTest => some (.closeTest, [.text 0])
  | .nlpTags => some (.nlpTags, [.text 0])
  | .nlpTagFilter => some (.nlpTagFilter, [.text 0, .texts 1])
  | .nlpSimilarity => some (.nlpSimilarity, [.text 0, .text 1])
  | .fetch => some (.httpFetch, [.request])
  | _ => none

/-- The call a function of the host stands for, with these arguments. -/
def Means (b : Binding) (args : List Value) (c : Call) : Prop :=
  ∃ op coercions, b.plan = some (op, coercions) ∧ c.operation = op ∧
    List.Forall₂ (Coercion.Gives args) coercions c.given

variable {g : Globals} {b : Binding} {args : List Value} {op : Operation}
  {coercions : List Coercion}

theorem means_iff (hplan : b.plan = some (op, coercions)) {c : Call} :
    b.Means args c ↔ c.operation = op ∧ List.Forall₂ (Coercion.Gives args) coercions c.given := by
  constructor
  · rintro ⟨op', coercions', hplan', hop, hgives⟩
    obtain ⟨rfl, rfl⟩ := Prod.mk.inj (Option.some.inj (hplan.symm.trans hplan'))
    exact ⟨hop, hgives⟩
  · rintro ⟨hop, hgives⟩
    exact ⟨op, coercions, hplan, hop, hgives⟩

/-- A planned function makes its arguments one after the other and asks for its operation with
them. -/
theorem request_of_plan (hplan : b.plan = some (op, coercions)) (g : Globals) (args : List Value) :
    b.request g args = coercions.mapM (·.run g args) >>= g.request op := by
  cases b with
  | sleep | assert | assertNlp | testcase | nlpKeywords | setShared | response | equal | testSkip
  | errorClass => cases hplan
  | _ =>
    obtain ⟨rfl, rfl⟩ := Prod.mk.inj (Option.some.inj hplan)
    simp only [List.mapM_cons, List.mapM_nil, bind_assoc, pure_bind]
    rfl

/-- The arguments a function makes are of the kinds that its operation wants. -/
theorem kinds_of_plan (hplan : b.plan = some (op, coercions)) :
    coercions.map Coercion.kind = op.signature := by
  cases b with
  | sleep | assert | assertNlp | testcase | nlpKeywords | setShared | response | equal | testSkip
  | errorClass => cases hplan
  | _ =>
    obtain ⟨rfl, rfl⟩ := Prod.mk.inj (Option.some.inj hplan)
    rfl

theorem eq_fetch_of_plan (hplan : b.plan = some (op, coercions)) (h : .request ∈ coercions) :
    b = .fetch := by
  cases b with
  | fetch => rfl
  | _ => cases hplan <;> simp at h

/-- The names that the conversions of a function are called by, and the one that arguments are
written by. -/
def Keeps (g : Globals) (coercions : List Coercion) : Prop :=
  g.Keeps "JSON" ∧ ∀ c ∈ coercions, ∀ n ∈ c.names, g.Keeps n

/-- What is asked for is read as the call that the function stands for, and every such call is asked
for. -/
theorem tells_request (hplan : b.plan = some (op, coercions)) (hkeeps : Keeps g coercions)
    (hargs : ∀ v ∈ args, v.Whole) (hpairable : b = .fetch → ∀ n ∈ ["headers", "params"], ∀ v,
      Offered (Builtin.arg args 0) (Builtin.arg args 1) n v → v.Pairable) :
    Tells (b.request g args)
    (fun r c => r.operation = op ∧ Host.readCall r.operation.name r.argsText = .ok c)
      (b.Means args) := by
  obtain ⟨hjson, hnames⟩ := hkeeps
  rw [request_of_plan hplan]
  refine (Tells.mapM fun c hc => c.tells_run (hnames c hc) hargs fun hrequest =>
    hpairable (eq_fetch_of_plan hplan (hrequest ▸ hc))).bind
      (fun gs c => c.operation = op ∧ c.given = gs) ?_ ?_
  · intro vs gs _ hgives hsends
    rw [Globals.request_eq hjson]
    -- the arguments are of the kinds that the operation wants, so there is one call that carries
    -- them
    have hkinds : gs.map Argument.Given.kind = op.signature := by
      rw [← kinds_of_plan hplan]
      exact List.forall₂_eq_eq_eq ▸ (List.forall₂_map_left_iff.mpr (List.forall₂_map_right_iff.mpr
        (hgives.flip.imp fun _ _ h => Coercion.kind_of_gives h)))
    obtain ⟨values, -, hdenotes⟩ := parse_argumentText hsends
    have hlength : values.length = op.signature.length := by
      rw [hdenotes.length_eq, ← hkinds, List.length_map]
    obtain ⟨c, -, rfl, rfl⟩ := Call.exists_ofArguments (hlength.trans op.length_signature)
      ((Argument.readAll_ok_iff hlength).mpr ⟨hdenotes, hkinds⟩)
    refine Tells.ok ⟨rfl, readCall_of_sends hsends⟩ fun c' => ?_
    constructor
    · rintro ⟨hop, hgiven⟩
      exact Call.eq_of_given hop hgiven
    · rintro rfl
      exact ⟨rfl, rfl⟩
  · intro c
    rw [means_iff hplan]
    constructor
    · rintro ⟨hop, hgives⟩
      exact ⟨c.given, hgives, hop, rfl⟩
    · rintro ⟨gs, hgives, hop, rfl⟩
      exact ⟨hop, hgives⟩

end Binding

/-! ## Turns -/

/-- The turn asks the host for something that it reads as this call. -/
def Turn.Asks (t : Turn) (c : Call) : Prop :=
  ∃ r m, t = .ask r m ∧ r.operation = c.operation ∧
    Host.readCall r.operation.name r.argsText = .ok c

namespace Machine

variable {m m' : Machine} {b : Binding} {args : List Value} {frames : List Frame} {r : HostRequest}

theorem text_of_request_test {g : Globals} (h : Binding.request g .test args = .ok r) :
    ∃ name, g.text (Builtin.arg args 0) = .ok name := by
  obtain ⟨name, hname, -⟩ := bind_eq_ok_iff.mp h
  exact ⟨name, hname⟩

theorem request_of_asking (h : m.asking b args frames = .ask r m') :
    b.request m.globals args = .ok r := by
  unfold asking at h
  split at h
  · cases h
  · rename_i hrequest
    split at h
    · split at h
      · cases h
        exact hrequest
      · cases h
    · cases h
      exact hrequest

theorem exists_asking (h : b.request m.globals args = .ok r) :
    ∃ m', m.asking b args frames = .ask r m' := by
  by_cases htest : b = .test
  · subst htest
    obtain ⟨name, hname⟩ := text_of_request_test h
    exact ⟨_, by simp only [asking, h, if_true, hname]; rfl⟩
  · exact ⟨_, by simp only [asking, h, if_neg htest]; rfl⟩

/-- A function of the host asks for what it makes of its arguments. -/
theorem callBinding_ask_iff :
    (∃ m', m.callBinding b args frames = .ask r m') ↔ b.request m.globals args = .ok r := by
  rw [callBinding_eq]
  split
  · constructor
    · rintro ⟨m', h⟩
      exact request_of_asking (m := (m.newPromise (.pending [])).1) h
    · intro h
      exact exists_asking (m := (m.newPromise (.pending [])).1) h
  · constructor
    · rintro ⟨m', h⟩
      exact request_of_asking h
    · exact exists_asking

/-- While the opening of a test block is asked for, the title it is asked for with waits to be
closed by. -/
theorem control_of_test (h : m.callBinding .test args frames = .ask r m') :
    ∃ name, m.globals.text (Builtin.arg args 0) = .ok name ∧
      m'.control = .asked (.openedValue name (Builtin.arg args 1) :: frames) := by
  have hrequest : Binding.request m.globals .test args = .ok r := callBinding_ask_iff.mp ⟨m', h⟩
  obtain ⟨name, hname⟩ := text_of_request_test hrequest
  have hasking : m.callBinding .test args frames =
      m.ask r (.openedValue name (Builtin.arg args 1) :: frames) := by
    rw [callBinding_eq, if_neg (by decide)]
    simp only [asking, hrequest, if_true, hname]
  rw [hasking] at h
  cases h
  exact ⟨name, hname, rfl⟩

theorem close_asks (hjson : m.globals.Keeps "JSON") (s : String) (inside after : List Frame) :
    (m.close (.text s) inside after).Asks (.closeTest s) := by
  have hrequest := Globals.request_eq hjson .closeTest [.text s]
  have hread : Host.readCall (Call.closeTest s).operation.name (argumentText [.text s]) =
      .ok (.closeTest s) :=
    readCall_of_sends (.cons (.text s) .nil)
  unfold close
  rw [hrequest]
  exact ⟨_, _, rfl, rfl, hread⟩

end Machine

/-! ## What functions of the host send -/

open Builtin in
/-- What a function of the host sends is read as the call that it stands for with its arguments, and
it sends every call that it stands for. A test block is closed by the title it was opened by. -/
theorem bindings_send_what_is_read (m : Machine) {b : Binding} {args : List Value} {op : Operation}
    {coercions : List Coercion} (frames : List Frame) (hplan : b.plan = some (op, coercions))
    (hkeeps : Binding.Keeps m.globals coercions) (hargs : ∀ v ∈ args, v.Whole)
    (hpairable : b = .fetch → ∀ n ∈ ["headers", "params"], ∀ v,
      Offered (arg args 0) (arg args 1) n v → v.Pairable) :
    (∀ r m', m.callBinding b args frames = .ask r m' →
      ∃ c, b.Means args c ∧ r.operation = op ∧ Host.readCall r.operation.name r.argsText = .ok c) ∧
    (∀ c, b.Means args c → (m.callBinding b args frames).Asks c) ∧
    (b = .test → ∀ r m', m.callBinding b args frames = .ask r m' →
      ∃ title, (arg args 0).Says title ∧
        m'.control = .asked (.openedValue (.text title) (arg args 1) :: frames) ∧
        ∀ later : Machine, later.globals.Keeps "JSON" →
          ∀ inside after, (later.close (.text title) inside after).Asks (.closeTest title)) := by
  have htells := Binding.tells_request hplan hkeeps hargs hpairable
  refine ⟨fun r m' h => ?_, fun c hc => ?_, ?_⟩
  · exact htells.sound r (Machine.callBinding_ask_iff.mp ⟨m', h⟩)
  · obtain ⟨r, hr, hop, hread⟩ := htells.complete c hc
    obtain ⟨m', h⟩ := Machine.callBinding_ask_iff.mpr hr
    exact ⟨r, m', h, hop.trans ((Binding.means_iff hplan).mp hc).1.symm, hread⟩
  · rintro rfl r m' h
    obtain ⟨rfl, rfl⟩ := Prod.mk.inj (Option.some.inj hplan)
    obtain ⟨name, hname, hcontrol⟩ := Machine.control_of_test h
    have hstring : m.globals.Keeps "String" := hkeeps.2 _ List.mem_cons_self _ List.mem_cons_self
    obtain ⟨title, hsays, rfl⟩ := (tells_text hstring (Coercion.whole_arg hargs 0)).sound name hname
    exact ⟨title, hsays, hcontrol, fun later hjson inside after =>
      Machine.close_asks hjson title inside after⟩

/-! Requests described in two parts -/

/-- A listing, with a header given as a member, a parameter given by its key, and a body that is no
string. -/
def listing : Value :=
  .object [(.ofString "url", .text "https://a.test/items"),
    (.ofString "headers", .object [(.ofString "X-Count", .bool true)]),
    (.ofString "params",
      .array [.object [(.ofString "key", .text "page"), (.ofString "value", .null)]]),
    (.ofString "body", .object [(.ofString "k", .bool true)])]

/-- What makes another request of it. -/
def posting : Value :=
  .object [(.ofString "method", .text "post"), (.ofString "url", .text "https://b.test")]

/-- The request they stand for together. -/
def postedListing : Request where
  method := "POST"
  url := "https://b.test"
  headers := [⟨"X-Count", "true"⟩]
  params := [⟨"page", "null"⟩]
  body := "\x7b\"k\":true\x7d"

theorem fetched_postedListing : Fetched listing posting postedListing where
  method := ⟨.text "post", rfl, "post", rfl, by decide⟩
  url := ⟨.text "https://b.test", rfl, rfl⟩
  headers := ⟨.object [(.ofString "X-Count", .bool true)], rfl, .cons ⟨rfl, rfl⟩ .nil⟩
  params := ⟨.array [.object [(.ofString "key", .text "page"), (.ofString "value", .null)]], rfl,
    .cons ⟨⟨.text "page", ⟨.undefined, rfl, rfl⟩, rfl⟩, .null, rfl, rfl⟩ .nil⟩
  body := ⟨.object [(.ofString "k", .bool true)], rfl,
    show postedListing.body = jsonString _ by decide +kernel⟩

theorem posted_listing_is_read :
    (∀ v ∈ [listing, posting], v.Whole) ∧ Binding.Keeps startGlobals [.request] ∧
      ((Machine.mk 0 [] startGlobals [] [] .idle).callBinding .fetch [listing, posting] []).Asks
        (.httpFetch postedListing) := by
  have hwhole : ∀ v ∈ [listing, posting], v.Whole := by
    simp [listing, posting, Value.Whole, Value.WholeMembers, Value.WholeItems, Value.text,
      whole_ofString]
  have hkeeps : Binding.Keeps startGlobals [.request] := by
    have hobject : startGlobals.Keeps "Object" := rfl
    have hstring : startGlobals.Keeps "String" := rfl
    have harray : startGlobals.Keeps "Array" := rfl
    have hjson : startGlobals.Keeps "JSON" := rfl
    refine ⟨hjson, ?_⟩
    simp [Coercion.names, hobject, hstring, harray, hjson]
  have hheaders {v : Value} (h : Offered listing posting "headers" v) : v.Pairable := by
    obtain rfl : v = .object [(.ofString "X-Count", .bool true)] := h
    trivial
  have hparams {v : Value} (h : Offered listing posting "params" v) : v.Pairable := by
    obtain rfl : v =
      .array [.object [(.ofString "key", .text "page"), (.ofString "value", .null)]] := h
    trivial
  have hmeans : Binding.Means .fetch [listing, posting] (.httpFetch postedListing) :=
    ⟨_, _, rfl, rfl, .cons (.request fetched_postedListing) .nil⟩
  refine ⟨hwhole, hkeeps, (bindings_send_what_is_read _ [] rfl hkeeps hwhole ?_).2.1 _ hmeans⟩
  intro _ n hn v hv
  obtain rfl | rfl : n = "headers" ∨ n = "params" := by simpa using hn
  · exact hheaders hv
  · exact hparams hv

/-! Requests that are not read -/

/-- Headers given as a string, with a character that takes two units. -/
def halvedHeaders : Value := .object [(.ofString "headers", .text "😀")]

/-- Headers given as an array with a place that holds nothing. -/
def holedHeaders : Value := .object [(.ofString "headers", .holes 1)]

/-- A script that has put a function that gives nothing under the name strings are made by. -/
def mutedGlobals : Globals := [(.ofString "String", idleFunction)]

/-- A function of the host sends something for its one argument, a whole one, and it is read as no
call. -/
def Unread (g : Globals) (b : Binding) (v : Value) : Prop :=
  b.plan ≠ none ∧ v.Whole ∧
    ∃ r, b.request g [v] = .ok r ∧ ∀ c, Host.readCall r.operation.name r.argsText ≠ .ok c

/-- Whole arguments are not enough for what is sent to be read: headers may be such that one of them
has no name or is none, and what strings are made by may have been replaced. -/
theorem some_requests_are_not_read :
    Unread startGlobals .fetch halvedHeaders ∧ Unread startGlobals .fetch holedHeaders ∧
      Unread mutedGlobals .getEnv (.text "k") := by
  have hunread {r : HostRequest}
      (h : (Host.readCall r.operation.name r.argsText).isOk = false) (c : Call) :
      Host.readCall r.operation.name r.argsText ≠ .ok c := by
    intro hc
    rw [hc] at h
    cases h
  refine ⟨⟨nofun, ?_, _, rfl, hunread ?_⟩, ⟨nofun, ?_, _, rfl, hunread ?_⟩,
    ⟨nofun, ?_, _, rfl, hunread ?_⟩⟩
  · exact ⟨whole_ofString _, whole_ofString _, trivial⟩
  · decide +kernel
  · exact ⟨whole_ofString _, trivial, trivial⟩
  · decide +kernel
  · exact whole_ofString "k"
  · decide +kernel

end ScriptBench
