import ScriptBench.Host.Party
import ScriptBench.Proofs.Host.Failure

/-!
What an instance records is told by the answers to its calls.

1. A call adds to headers, parameters and tests what `Call.header?`, `Call.param?` and
   `Call.testStep?` say of it and its answer, and changes nothing that was given to the instance
   (`adds_answered`); the end of a call that has waited adds nothing (`logs_of_conclude`,
   `interrupt_inst`).
2. Whatever is done with an instance, by whoever shares its world, its state stays the replay of its
   history (`kept_act`, `kept_run`).
3. So every report, the last one and those made on the way, is the replay of what came before it
   (`report_replays_history`). Its tests have the status of the replay unless the instance stopped
   early: then they fail, skipped tests excepted (`early_stop_fails_tests`).
-/
namespace ScriptBench

namespace Call

/-! ## What an answered call adds -/

/-- The header a call adds. -/
def header? : Call → Answer → Option NamedValue
  | .addHeader name value, .ok _ => some ⟨name, value⟩
  | _, _ => none

/-- The parameter a call adds. -/
def param? : Call → Answer → Option NamedValue
  | .addParams name value, .ok _ => some ⟨name, value⟩
  | _, _ => none

/-- How similar the language tools find two texts. -/
def score? (s : Settings) (expect actual : String) : Option Binary64 :=
  s.collaborators.language.bind fun tools => (tools.similarity expect actual).toOption

/-- What a call does to the tests. An assertion is recorded with the verdict that is its answer. -/
def testStep? (s : Settings) : Call → Answer → Option Aggregator.Step
  | .openTest name, .ok _ => some (.openBlock s.now name)
  | .closeTest name, .ok _ => some (.closeBlock s.now name)
  | .appendAssert passed message, .ok _ => some (.append passed message)
  | .testSkip, .ok _ => some .skip
  | .assert expect actual, .ok (.bool passed) =>
    some (.append passed (Host.equalMessage passed expect actual))
  | .assertNlp expect actual threshold, .ok (.bool passed) =>
    (score? s expect actual).map fun score =>
      .append passed (Host.similarMessage passed expect actual score threshold)
  | _, _ => none

variable {s : Settings} {c : Call}

theorem header?_error (e : HostError) : c.header? (.error e) = none := by
  cases c <;> rfl

theorem param?_error (e : HostError) : c.param? (.error e) = none := by
  cases c <;> rfl

theorem testStep?_error (e : HostError) : c.testStep? s (.error e) = none := by
  cases c <;> rfl

theorem adds_none_of_suspending (h : c.operation.isSuspending = true) (a : Answer) :
    c.header? a = none ∧ c.param? a = none ∧ c.testStep? s a = none := by
  cases c with
  | sleep ms => exact ⟨rfl, rfl, rfl⟩
  | httpFetch r => exact ⟨rfl, rfl, rfl⟩
  | waitShared key => exact ⟨rfl, rfl, rfl⟩
  | log level message => cases level <;> cases h
  | _ => cases h

end Call

/-- An instance before and after something that has added at most one header, one parameter, and one
step to the tests. -/
structure Instance.Grows (header param : Option NamedValue) (test : Option Aggregator.Step)
    (i i' : Instance) : Prop where
  name : i'.name = i.name
  testcase : i'.testcase = i.testcase
  lastResponse : i'.lastResponse = i.lastResponse
  headers : i'.headers = i.headers ++ header.toList
  params : i'.params = i.params ++ param.toList
  tests : i'.tests = i.tests.run test.toList

theorem Instance.Grows.quiet (i : Instance) (scope : String) (logs : List LogEntry) :
    Grows none none none i { i with scope, logs } :=
  ⟨rfl, rfl, rfl, (List.append_nil _).symm, (List.append_nil _).symm, rfl⟩

namespace Call

variable {s : Settings} {c : Call}

/-- An instance before and after a call, given the answer. -/
def Adds (s : Settings) (c : Call) (a : Answer) : Instance → Instance → Prop :=
  Instance.Grows (c.header? a) (c.param? a) (c.testStep? s a)

theorem Adds.of_logs {a : Answer} {i : Instance} (logs : List LogEntry)
    (hheader : c.header? a = none) (hparam : c.param? a = none) (htest : c.testStep? s a = none) :
    c.Adds s a i { i with logs } := by
  rw [Adds, hheader, hparam, htest]
  exact .quiet i i.scope logs

theorem Adds.of_same {a : Answer} {i i' : Instance} (h : i' = i) (hheader : c.header? a = none)
    (hparam : c.param? a = none) (htest : c.testStep? s a = none) : c.Adds s a i i' :=
  h ▸ of_logs i'.logs hheader hparam htest

theorem Adds.of_error {e : HostError} {i i' : Instance} (h : i' = i) : c.Adds s (.error e) i i' :=
  of_same h (header?_error e) (param?_error e) (testStep?_error e)

end Call

namespace Host

open Call (Adds header?_error param?_error testStep?_error adds_none_of_suspending)

variable {s : Settings} {cancelled : Bool} {h h' : Host} {name argsText : String}

theorem consult_inst {α : Type} (v : Visit) (ask : LanguageTools → Except ConnectorError α) :
    (h.consult s v ask).1.inst = h.inst := by
  unfold consult
  split <;> rfl

theorem consultFor_inst {α : Type} (v : Visit) (ask : LanguageTools → Except ConnectorError α)
    (write : α → Json) : (h.consultFor s v ask write).1.inst = h.inst :=
  consult_inst v ask

/-- A score that is given is the one the language tools have for the two texts. -/
theorem score_of_consult {v : Visit} {expect actual : String} {score : Binary64}
    (hask : h.consult s v (·.similarity expect actual) = (h', .ok score)) :
    Call.score? s expect actual = some score := by
  unfold consult at hask
  split at hask
  · cases hask
  · rename_i tools htools
    obtain ⟨-, hscore⟩ := Prod.mk.inj hask
    dsimp only at hscore
    cases hsimilar : tools.similarity expect actual with
    | error e => rw [hsimilar] at hscore; cases hscore
    | ok x =>
      rw [hsimilar] at hscore
      cases hscore
      simp [Call.score?, htools, hsimilar, Except.toOption]

theorem adds_assertSimilar (expect actual : String) (threshold : Binary64) :
    Adds s (.assertNlp expect actual threshold) (h.assertSimilar s expect actual threshold).2 h.inst
      (h.assertSimilar s expect actual threshold).1.inst := by
  have hinst :=
    consult_inst (s := s) (h := h) (.similarity expect actual) (·.similarity expect actual)
  rcases hask : h.consult s (.similarity expect actual) (·.similarity expect actual) with ⟨h₁, r⟩
  rw [hask] at hinst
  rw [assertSimilar, hask]
  cases r with
  | error e => exact .of_error hinst
  | ok score =>
    have hscore := score_of_consult hask
    dsimp only [withTests]
    rw [show h₁.inst = h.inst from hinst]
    refine ⟨rfl, rfl, rfl, (List.append_nil _).symm, (List.append_nil _).symm, ?_⟩
    simp only [Call.testStep?, hscore, Option.map_some]
    rfl

theorem adds_answerNow (s : Settings) (h : Host) (c : Call) :
    Adds s c (h.answerNow s c).2 h.inst (h.answerNow s c).1.inst := by
  -- a list that a call does not add to stays as it was
  have stays {α : Type} (xs : List α) : xs = xs ++ [] := (List.append_nil xs).symm
  cases c with
  | assertNlp expect actual threshold => exact adds_assertSimilar expect actual threshold
  | getEnv key =>
    simp only [answerNow]
    split
    · exact .of_same rfl rfl rfl rfl
    · exact .of_logs _ rfl rfl rfl
  | getShared key =>
    simp only [answerNow]
    split
    · exact .of_logs _ rfl rfl rfl
    · exact .of_logs _ rfl rfl rfl
  | nlpKeywords text k => exact .of_same (consultFor_inst _ _ _) rfl rfl rfl
  | nlpTags text => exact .of_same (consultFor_inst _ _ _) rfl rfl rfl
  | nlpTagFilter text tags => exact .of_same (consultFor_inst _ _ _) rfl rfl rfl
  | nlpSimilarity a b => exact .of_same (consultFor_inst _ _ _) rfl rfl rfl
  | _ => exact ⟨rfl, rfl, rfl, by first | rfl | exact stays _, by first | rfl | exact stays _, rfl⟩

theorem fetch_inst (s : Settings) (h : Host) (r : Request) : (h.fetch s r).1.inst = h.inst := by
  unfold fetch
  dsimp only
  split <;> rfl

theorem adds_invoke {c : Call} {a : Answer} (hc : h.invoke s c = (h', .answered a)) :
    Adds s c a h.inst h'.inst := by
  obtain ⟨ms, rfl, heq⟩ | ⟨r, rfl, heq⟩ | ⟨key, rfl, heq⟩ | heq := invoke_cases s h c
  · rw [heq] at hc
    split at hc <;> cases hc
    exact .of_same rfl rfl rfl rfl
  · have hinst : h'.inst = h.inst := by
      rw [← fetch_inst s h r, ← heq, hc]
    exact .of_same hinst rfl rfl rfl
  · rw [heq, waitShared] at hc
    split at hc <;> cases hc
    exact .of_logs _ rfl rfl rfl
  · rw [heq] at hc
    obtain ⟨rfl, ha⟩ := Prod.mk.inj hc
    exact Progress.answered.inj ha ▸ adds_answerNow s h c

/-- A call answered at once adds what its answer says, or is no call and adds nothing. -/
theorem adds_answered {a : Answer} (hcall : h.call s cancelled name argsText = (h', .answered a)) :
    (∃ c, readCall name argsText = .ok c ∧ Adds s c a h.inst h'.inst) ∨
      (∃ e, readCall name argsText = .error e) ∧ h'.inst = h.inst := by
  cases hread : readCall name argsText with
  | error e =>
    rw [call_unread hread] at hcall
    cases hcall
    exact .inr ⟨⟨e, rfl⟩, rfl⟩
  | ok c =>
    refine .inl ⟨c, rfl, ?_⟩
    rw [call, hread] at hcall
    dsimp only at hcall
    split at hcall
    · cases hcall
      exact .of_error rfl
    · exact adds_invoke hcall

theorem waits_suspended {on : Suspension}
    (hcall : h.call s cancelled name argsText = (h', .suspended on)) :
    h'.inst = h.inst ∧ ∃ c, readCall name argsText = .ok c ∧ c.operation.isSuspending = true := by
  have hinst : h'.inst = h.inst := by
    obtain ⟨_, -, rfl⟩ | ⟨_, -, rfl⟩ | ⟨_, -, -, rfl⟩ := call_suspended hcall <;> rfl
  refine ⟨hinst, ?_⟩
  unfold call at hcall
  split at hcall
  · cases hcall
  · rename_i c hread
    refine ⟨c, hread, ?_⟩
    split at hcall
    · cases hcall
    · obtain ⟨ms, rfl, -⟩ | ⟨r, rfl, -⟩ | ⟨key, rfl, -⟩ | heq := invoke_cases s h c
      · rfl
      · rfl
      · rfl
      · rw [heq] at hcall
        cases hcall

theorem logs_of_conclude (s : Settings) (h : Host) (on : Suspension) :
    ∃ logs, (h.conclude s on).1.inst = { h.inst with logs } := by
  cases on with
  | sleep ms => exact ⟨h.inst.logs, rfl⟩
  | network => exact ⟨h.inst.logs, rfl⟩
  | wait key id =>
    rw [conclude]
    split <;> exact ⟨_, rfl⟩

theorem interrupt_inst (h : Host) (on : Suspension) : (h.interrupt on).1.inst = h.inst := by
  cases on <;> rfl

end Host

namespace Happening

/-- What is to be taken from a call that was answered. -/
def ofAnswered? {α : Type} (f : Call → Answer → Option α) : Happening → Option α
  | .answered name argsText a _ _ => (Host.readCall name argsText).toOption.bind fun c => f c a
  | _ => none

/-- The header that was added. -/
def header? : Happening → Option NamedValue := ofAnswered? Call.header?

/-- The parameter that was added. -/
def param? : Happening → Option NamedValue := ofAnswered? Call.param?

/-- What was done to the tests. -/
def testStep? (s : Settings) : Happening → Option Aggregator.Step := ofAnswered? (Call.testStep? s)

end Happening

open Happening (header? param? testStep?)

/-! ## The replay of a history -/

/-- The state of an instance is the replay of its history. -/
structure Instance.Replays (s : Settings) (setup : Setup) (past : List Happening) (i : Instance) :
    Prop where
  name : i.name = setup.name
  testcase : i.testcase = setup.testcase
  lastResponse : i.lastResponse = setup.lastResponse.map Response.normalize
  headers : i.headers = past.filterMap header?
  params : i.params = past.filterMap param?
  tests : i.tests = Aggregator.empty.run (past.filterMap (testStep? s))

namespace Instance.Replays

variable {s : Settings} {setup : Setup} {past : List Happening} {i i' : Instance} {x : Happening}

theorem ofSetup (s : Settings) (id : Identity) (number : Nat) (setup : Setup) :
    (Instance.ofSetup id number setup).Replays s setup [] := ⟨rfl, rfl, rfl, rfl, rfl, rfl⟩

theorem snoc (h : i.Replays s setup past) (hx : Grows (header? x) (param? x) (testStep? s x) i i') :
    i'.Replays s setup (past ++ [x]) where
  name := hx.name.trans h.name
  testcase := hx.testcase.trans h.testcase
  lastResponse := hx.lastResponse.trans h.lastResponse
  headers := by
    rw [hx.headers, h.headers, List.filterMap_append]
    cases hheader : header? x <;> simp [hheader]
  params := by
    rw [hx.params, h.params, List.filterMap_append]
    cases hparam : param? x <;> simp [hparam]
  tests := by
    rw [hx.tests, h.tests, List.filterMap_append, Aggregator.run, Aggregator.run, Aggregator.run,
      List.foldl_append]
    cases htest : testStep? s x <;> simp [htest]

/-- A call that is answered adds to the state what it adds to the replay. -/
theorem answered (h : i.Replays s setup past) {name argsText : String} {c : Call} {a : Answer}
    (hread : Host.readCall name argsText = .ok c) (hadds : c.Adds s a i i') (cut : Bool)
    (found : Option Json) : i'.Replays s setup (past ++ [.answered name argsText a cut found]) := by
  refine h.snoc ?_
  simp only [header?, param?, testStep?, Happening.ofAnswered?, hread]
  exact hadds

theorem unread (h : i.Replays s setup past) {name argsText : String} {e : HostError}
    (hread : Host.readCall name argsText = .error e) (a : Answer) (cut : Bool)
    (found : Option Json) :
    i.Replays s setup (past ++ [.answered name argsText a cut found]) := by
  refine h.snoc ?_
  simp only [header?, param?, testStep?, Happening.ofAnswered?, hread]
  exact .quiet i i.scope i.logs

end Instance.Replays

/-- What a report says that replays a history. -/
structure InstanceReport.Tells (s : Settings) (setup : Setup) (past : List Happening)
    (status : Status) (r : InstanceReport) : Prop where
  name : r.name = setup.name
  outcome : r.status = status
  headers : r.headers = past.filterMap header?
  params : r.params = past.filterMap param?
  /-- The tests are those of a new aggregator after the same calls, but for their status. -/
  tests : ∃ verdict, r.tests =
    { (Aggregator.empty.run (past.filterMap (testStep? s))).report s.now with status := verdict }
  /-- They fail if the instance stopped early and did not skip them. -/
  verdict : r.tests.status =
    let replayed := (Aggregator.empty.run (past.filterMap (testStep? s))).report s.now
    if status ≠ .success ∧ replayed.status ≠ .skip then .fail else replayed.status

theorem Instance.Replays.tells {s : Settings} {setup : Setup} {past : List Happening} {i : Instance}
    (h : i.Replays s setup past) (status : Status) :
    (i.report s.now status).Tells s setup past status := by
  have hsuccess : status.isSuccess = decide (status = .success) := by cases status <;> rfl
  have htests : (i.report s.now status).tests =
      let replayed := (Aggregator.empty.run (past.filterMap (testStep? s))).report s.now
      if status ≠ .success ∧ replayed.status ≠ .skip then { replayed with status := .fail }
      else replayed := by
    rw [← h.tests]
    simp [report, hsuccess]
  refine ⟨h.name, rfl, h.headers, h.params, ?_, ?_⟩
  · rw [htests]
    dsimp only
    split
    · exact ⟨.fail, rfl⟩
    · exact ⟨_, rfl⟩
  · rw [htests]
    dsimp only
    split <;> rfl

/-- What happens after a past: a report tells of it, and what was given to the instance is still
what it answers with. -/
def Happening.Fits (s : Settings) (setup : Setup) (past : List Happening) : Happening → Prop
  | .answered name argsText a _ _ =>
    (Host.readCall name argsText = .ok .getTestcase → a = .ok setup.testcase) ∧
      (Host.readCall name argsText = .ok .response →
        a = .ok ((setup.lastResponse.map fun r => r.normalize.toJson.sorted).getD .null))
  | .reported status r => r.Tells s setup past status
  | _ => True

/-- Everything in a history fits what came before it. -/
def Happening.AllFit (s : Settings) (setup : Setup) (history : List Happening) : Prop :=
  ∀ (n : Nat) (x : Happening), history[n]? = some x → x.Fits s setup (history.take n)

/-- What holds of everything in a history and of what comes next holds of everything in the longer
one. -/
theorem Happening.each_snoc {P : List Happening → Happening → Prop} {past : List Happening}
    {x : Happening} (h : ∀ (n : Nat) y, past[n]? = some y → P (past.take n) y) (hx : P past x) :
    ∀ (n : Nat) y, (past ++ [x])[n]? = some y → P ((past ++ [x]).take n) y := by
  intro n y hy
  rcases Nat.lt_or_ge n past.length with hn | hn
  · rw [List.getElem?_append_left hn] at hy
    rw [List.take_append_of_le_length (Nat.le_of_lt hn)]
    exact h n y hy
  · rw [List.getElem?_append_right hn] at hy
    -- the only place from there on is that of `x`
    obtain ⟨hlt, rfl⟩ := List.getElem?_eq_some_iff.mp hy
    have hn' : n = past.length := by
      rw [List.length_singleton] at hlt
      omega
    subst hn'
    simpa using hx

theorem Happening.AllFit.snoc {s : Settings} {setup : Setup} {past : List Happening} {x : Happening}
    (h : Happening.AllFit s setup past) (hx : x.Fits s setup past) :
    Happening.AllFit s setup (past ++ [x]) :=
  Happening.each_snoc h hx

namespace Host

variable {s : Settings} {cancelled : Bool} {h : Host} {name argsText : String}

theorem call_getTestcase (hread : readCall name argsText = .ok .getTestcase) :
    h.call s cancelled name argsText = (h, .answered (.ok h.inst.testcase)) := by
  rw [call, hread]
  rfl

theorem call_response (hread : readCall name argsText = .ok .response) :
    h.call s cancelled name argsText =
      (h, .answered (.ok ((h.inst.lastResponse.map fun r => r.toJson.sorted).getD .null))) := by
  rw [call, hread]
  rfl

end Host

/-! ## Whatever is done with an instance -/

/-- The state of a caller and its history agree. -/
structure Caller.Kept (c : Caller) : Prop where
  state : c.inst.Replays c.settings c.setup c.history
  fits : Happening.AllFit c.settings c.setup c.history
  pending : ∀ p, c.pending = some p →
    ∃ call, Host.readCall p.name p.argsText = .ok call ∧ call.operation.isSuspending = true

namespace Caller

open Instance (Grows)

variable {c : Caller} {w : World}

theorem kept_start (settings : Settings) (number : Nat) (setup : Setup) :
    (start settings number setup).Kept where
  state := .ofSetup settings .nil number setup
  fits := by simp [Happening.AllFit, start]
  pending := by simp [start]

theorem Kept.quiet (hk : c.Kept) {x : Happening} (hx : x.Fits c.settings c.setup c.history)
    (hnone : ∀ name argsText a cut found, x ≠ .answered name argsText a cut found)
    (cancelled : Bool) (scope : String) (logs : List LogEntry) :
    ({ c with inst := { c.inst with scope, logs }, cancelled }.note [x]).Kept := by
  have hgrows : Grows (header? x) (param? x) (testStep? c.settings x)
      c.inst { c.inst with scope, logs } := by
    cases x with
    | answered name argsText a cut found => exact absurd rfl (hnone name argsText a cut found)
    | _ => exact .quiet c.inst scope logs
  exact ⟨hk.state.snoc hgrows, hk.fits.snoc hx, hk.pending⟩

/-- An instance that asks for what it was given gets it. -/
theorem Kept.fits_answered (hk : c.Kept) {name argsText : String} {h : Host} {a : Answer}
    (hcall : Host.call c.settings c.cancelled ⟨c.inst, w⟩ name argsText = (h, .answered a))
    (found : Option Json) (past : List Happening) :
    (Happening.answered name argsText a false found).Fits c.settings c.setup past := by
  refine ⟨fun hread => ?_, fun hread => ?_⟩
  · rw [Host.call_getTestcase hread] at hcall
    cases hcall
    rw [hk.state.testcase]
  · rw [Host.call_response hread] at hcall
    cases hcall
    rw [hk.state.lastResponse, Option.map_map]
    rfl

theorem kept_call (hk : c.Kept) (name argsText : String) : (c.call w name argsText).1.Kept := by
  unfold call
  split
  · exact hk
  · rename_i hfree
    -- that a call was made adds nothing, whatever comes of it
    have hcalled : Kept (c.note [.called name argsText]) :=
      hk.quiet (x := .called name argsText) trivial (by simp) c.cancelled c.inst.scope c.inst.logs
    rcases hcall : Host.call c.settings c.cancelled ⟨c.inst, w⟩ name argsText with ⟨h, a | on⟩
    · have hhistory : c.history ++ [.called name argsText,
          .answered name argsText a false (found w.store name argsText a)] =
          c.history ++ [.called name argsText] ++
            [.answered name argsText a false (found w.store name argsText a)] := by simp
      have hstate : h.inst.Replays c.settings c.setup (c.history ++ [.called name argsText] ++
          [.answered name argsText a false (found w.store name argsText a)]) := by
        obtain ⟨call, hread, hadds⟩ | ⟨⟨e, hread⟩, hinst⟩ := Host.adds_answered hcall
        · exact hcalled.state.answered hread hadds false _
        · rw [hinst]
          exact hcalled.state.unread hread a false _
      refine ⟨?_, ?_, hk.pending⟩
      · dsimp only [note]
        rw [hhistory]
        exact hstate
      · dsimp only [note]
        rw [hhistory]
        exact hcalled.fits.snoc (hk.fits_answered hcall _ _)
    · obtain ⟨hinst, hread⟩ := Host.waits_suspended hcall
      refine ⟨?_, hcalled.fits, ?_⟩
      · dsimp only [note]
        rw [hinst]
        exact hcalled.state
      · rintro p hp
        cases hp
        exact hread

theorem kept_finish (hk : c.Kept) {p : PendingCall} (hp : c.pending = some p) (cut : Bool)
    {h : Host} {a : Answer} (hlogs : ∃ logs, h.inst = { c.inst with logs }) :
    (c.finish p cut (h, a)).1.Kept := by
  obtain ⟨call, hread, hsuspending⟩ := hk.pending p hp
  obtain ⟨logs, hinst⟩ := hlogs
  obtain ⟨hheader, hparam, htest⟩ := Call.adds_none_of_suspending (s := c.settings) hsuspending a
  refine ⟨?_, hk.fits.snoc ⟨fun h => ?_, fun h => ?_⟩, by simp [finish, note]⟩
  · have hadds : call.Adds c.settings a c.inst h.inst := hinst ▸ .of_logs logs hheader hparam htest
    exact hk.state.answered hread hadds cut _
  -- a call for what was given to the instance never waits
  · rw [hread] at h
    cases h
    cases hsuspending
  · rw [hread] at h
    cases h
    cases hsuspending

theorem goOn_cases (c : Caller) (w : World) : c.goOn w = (c, w) ∨
    ∃ p, c.pending = some p ∧
      c.goOn w = c.finish p false (Host.conclude c.settings ⟨c.inst, w⟩ p.on) := by
  unfold goOn
  split
  · exact .inl rfl
  · rename_i p hp
    split
    · exact .inl rfl
    · exact .inr ⟨p, hp, rfl⟩

theorem cutOff_cases (c : Caller) (w : World) : c.cutOff w = (c, w) ∨
    ∃ p, c.pending = some p ∧ c.cutOff w = c.finish p true (Host.interrupt ⟨c.inst, w⟩ p.on) := by
  unfold cutOff
  split
  · exact .inl rfl
  · rename_i p hp
    split
    · exact .inr ⟨p, hp, rfl⟩
    · exact .inl rfl

theorem kept_goOn (hk : c.Kept) : (c.goOn w).1.Kept := by
  obtain heq | ⟨p, hp, heq⟩ := c.goOn_cases w
  · rw [heq]
    exact hk
  · rw [heq]
    exact kept_finish hk hp false (Host.logs_of_conclude _ _ _)

theorem kept_cutOff (hk : c.Kept) : (c.cutOff w).1.Kept := by
  obtain heq | ⟨p, hp, heq⟩ := c.cutOff_cases w
  · rw [heq]
    exact hk
  · rw [heq]
    exact kept_finish hk hp true ⟨c.inst.logs, Host.interrupt_inst _ _⟩

/-- Whatever is done with an instance, its state stays the replay of its history. -/
theorem kept_act (hk : c.Kept) (a : Act) : (c.act w a).1.Kept := by
  cases a with
  | call name argsText => exact kept_call hk name argsText
  | goOn => exact kept_goOn hk
  | cutOff => exact kept_cutOff hk
  | enterScope scope =>
    exact hk.quiet (x := .entered scope) trivial (by simp) c.cancelled scope c.inst.logs
  | cancel => exact hk.quiet (x := .cancelled) trivial (by simp) true c.inst.scope c.inst.logs
  | log level message =>
    exact hk.quiet (x := .wrote level message) trivial (by simp) c.cancelled c.inst.scope _
  | report status =>
    exact hk.quiet (x := .reported status (c.inst.report c.settings.now status))
      (hk.state.tells status) (by simp) c.cancelled c.inst.scope c.inst.logs

end Caller

/-! ## Callers of a party -/

theorem Caller.setup_act (c : Caller) (w : World) (a : Caller.Act) :
    (c.act w a).1.settings = c.settings ∧ (c.act w a).1.setup = c.setup := by
  cases a with
  | call name argsText =>
    simp only [act, call]
    split
    · exact ⟨rfl, rfl⟩
    · split <;> exact ⟨rfl, rfl⟩
  | goOn =>
    rw [act]
    obtain heq | ⟨p, -, heq⟩ := c.goOn_cases w <;> rw [heq] <;> exact ⟨rfl, rfl⟩
  | cutOff =>
    rw [act]
    obtain heq | ⟨p, -, heq⟩ := c.cutOff_cases w <;> rw [heq] <;> exact ⟨rfl, rfl⟩
  | _ => exact ⟨rfl, rfl⟩

namespace Party

/-- Who joins by a move. -/
def Move.joins? : Move → Option (Settings × Setup)
  | .join settings setup => some (settings, setup)
  | _ => none

theorem joined_step (p : Party) (m : Move) :
    (p.step m).callers.map (fun c => (c.settings, c.setup)) =
      p.callers.map (fun c => (c.settings, c.setup)) ++ m.joins?.toList := by
  cases m with
  | join settings setup =>
    rw [step, List.map_append]
    rfl
  | act i a =>
    rw [step]
    split
    · simp [Move.joins?]
    · rename_i c hc
      obtain ⟨hsettings, hsetup⟩ := c.setup_act p.world a
      have hlt := (List.getElem?_eq_some_iff.mp hc).1
      refine List.ext_getElem? fun n => ?_
      simp only [Move.joins?, Option.toList_none, List.append_nil, List.getElem?_map,
        List.getElem?_set]
      split
      · rename_i hn
        subst hn
        rw [hc, Option.map_some, Option.map_some, hsettings, hsetup]
      · rfl
  | share key value => simp [step, Move.joins?]
  | watch channel => simp [step, Move.joins?]

/-- Callers come in the order in which they join, with what they are given. -/
theorem joined_run (p : Party) (moves : List Move) :
    (p.run moves).callers.map (fun c => (c.settings, c.setup)) =
      p.callers.map (fun c => (c.settings, c.setup)) ++ moves.filterMap Move.joins? := by
  induction moves generalizing p with
  | nil => exact (List.append_nil _).symm
  | cons m rest ih =>
    rw [run, List.foldl_cons, ← run, ih, joined_step, List.append_assoc, List.filterMap_cons]
    cases m.joins? <;> rfl

/-- What callers start with and keep through every act holds of all callers of a party. -/
theorem every_step {P : Caller → Prop}
    (hstart : ∀ settings number setup, P (.start settings number setup))
    (hact : ∀ c w a, P c → P (Caller.act c w a).1) {p : Party} (hp : ∀ c ∈ p.callers, P c)
    (m : Move) :
    ∀ c ∈ (p.step m).callers, P c := by
  cases m with
  | join settings setup =>
    intro c hc
    rcases List.mem_append.mp hc with hc | hc
    · exact hp c hc
    · rw [List.mem_singleton.mp hc]
      exact hstart settings p.callers.length setup
  | act i a =>
    rw [step]
    split
    · exact hp
    · rename_i c hc
      intro d hd
      rcases List.mem_or_eq_of_mem_set hd with hd | rfl
      · exact hp d hd
      · exact hact c p.world a (hp c (List.mem_of_getElem? hc))
  | share key value => exact hp
  | watch channel => exact hp

theorem every_run {P : Caller → Prop}
    (hstart : ∀ settings number setup, P (.start settings number setup))
    (hact : ∀ c w a, P c → P (Caller.act c w a).1) {p : Party} (hp : ∀ c ∈ p.callers, P c)
    (moves : List Move) : ∀ c ∈ (p.run moves).callers, P c := by
  induction moves generalizing p with
  | nil => exact hp
  | cons m rest ih => exact ih (every_step hstart hact hp m)

theorem kept_run {p : Party} (hk : ∀ c ∈ p.callers, c.Kept) (moves : List Move) :
    ∀ c ∈ (p.run moves).callers, c.Kept :=
  every_run Caller.kept_start (fun _ _ a hc => Caller.kept_act hc a) hk moves

/-- Callers of a party are what joined it. -/
theorem joined_of_run {shared : List Store.Step} {channel : Option (Channel Event)}
    {moves : List Move} {i : Nat} {c : Caller}
    (hc : ((start shared channel).run moves).callers[i]? = some c) :
    (moves.filterMap Move.joins?)[i]? = some (c.settings, c.setup) := by
  have hjoined := congrArg (·[i]?) (joined_run (.start shared channel) moves)
  simp only [List.getElem?_map, hc] at hjoined
  exact hjoined.symm

end Party

/-- However many callers there are and whatever they do, every report of an instance, at its end or
on the way, is the replay of the calls it has had answered until then. Whenever it asks for what it
was given, it gets it. -/
theorem report_replays_history (shared : List Store.Step) (channel : Option (Channel Event))
    (moves : List Party.Move) (i : Nat) (c : Caller)
    (hc : ((Party.start shared channel).run moves).callers[i]? = some c) :
    (moves.filterMap Party.Move.joins?)[i]? = some (c.settings, c.setup) ∧
      (∀ status, (c.inst.report c.settings.now status).Tells c.settings c.setup c.history status) ∧
      (∀ (n : Nat) status r, c.history[n]? = some (.reported status r) →
        r.Tells c.settings c.setup (c.history.take n) status) ∧
      (∀ (n : Nat) name argsText a cut found,
        c.history[n]? = some (.answered name argsText a cut found) →
          (Host.readCall name argsText = .ok .getTestcase → a = .ok c.setup.testcase) ∧
            (Host.readCall name argsText = .ok .response →
              a = .ok ((c.setup.lastResponse.map fun r => r.normalize.toJson.sorted).getD .null))) ∧
      ∀ w name argsText, c.pending = none →
        (Host.readCall name argsText = .ok .getTestcase ∨
          Host.readCall name argsText = .ok .response) →
          ∃ a found, (c.call w name argsText).1.history =
            c.history ++ [.called name argsText, .answered name argsText a false found] := by
  have hk : c.Kept := Party.kept_run (p := .start shared channel) (by simp [Party.start]) moves c
    (List.mem_of_getElem? hc)
  refine ⟨?_, fun status => hk.state.tells status, fun n status r hr => hk.fits n _ hr,
    fun n name argsText a cut found ha => hk.fits n _ ha, ?_⟩
  · have hjoined := congrArg (·[i]?) (Party.joined_run (.start shared channel) moves)
    simp only [List.getElem?_map, hc] at hjoined
    exact hjoined.symm
  · rintro w name argsText hfree (hread | hread)
    · rw [Caller.call, hfree, Host.call_getTestcase hread]
      exact ⟨_, _, rfl⟩
    · rw [Caller.call, hfree, Host.call_response hread]
      exact ⟨_, _, rfl⟩

/-- An instance that has opened a block, and then stops early. -/
theorem report_replays_history_stopped :
    let moves : List Party.Move :=
      [.join default ⟨"case", .null, [], none⟩, .act 0 (.call "open_test" "[\"t\"]")]
    ∃ c, ((Party.start [] none).run moves).callers[0]? = some c ∧
      c.history.filterMap (testStep? c.settings) = [.openBlock c.settings.now "t"] ∧
      (c.inst.report c.settings.now (.error "stopped")).Tells c.settings c.setup c.history
        (.error "stopped") := by
  intro moves
  obtain ⟨c, hc⟩ : ∃ c, ((Party.start [] none).run moves).callers[0]? = some c := ⟨_, rfl⟩
  refine ⟨c, hc, ?_, (report_replays_history [] none moves 0 c hc).2.1 (.error "stopped")⟩
  cases hc
  rfl

/-- The tests of an instance that stopped early are not those of the replay: a block that was opened
and closed passes, and the tests fail. -/
theorem early_stop_fails_tests :
    ¬ ∀ (moves : List Party.Move) (i : Nat) (c : Caller),
      ((Party.start [] none).run moves).callers[i]? = some c →
        ∀ status, (c.inst.report c.settings.now status).tests =
          (Aggregator.empty.run (c.history.filterMap (testStep? c.settings))).report
            c.settings.now := by
  intro h
  have htests := h [.join default ⟨"case", .null, [], none⟩, .act 0 (.call "open_test" "[\"t\"]"),
    .act 0 (.call "close_test" "[\"t\"]")] 0 _ rfl (.error "stopped")
  cases congrArg TestReport.status htests

end ScriptBench
