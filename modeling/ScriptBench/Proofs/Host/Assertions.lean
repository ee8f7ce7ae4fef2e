import Mathlib.Data.Int.ConditionallyCompleteOrder
import Mathlib.Data.List.Basic
import Mathlib.Order.ConditionallyCompleteLattice.Basic
import ScriptBench.Proofs.Host.Cancellation
import ScriptBench.Proofs.Host.Separation
import ScriptBench.Proofs.Report.Ledger

/-!
The verdict that a script sees is the one that is recorded.

1. The answer to an assertion is its verdict: what `equal` says of the same values, or whether the
   score of the language tools lies above the threshold (`judged_answered`, `lt_iff`).
2. So what a call records has the verdict that it was answered with, or that it was given
   (`record_of_judged`).
3. Hence each act of a caller that answers an assertion adds one record, to the innermost open
   block, and every other act adds none (`records_act`). Over a run, records and verdicts are the
   same sequence (`verdicts_are_recorded`).
-/
namespace ScriptBench

/-! ## The order of doubles -/

namespace Binary64

/-- Where a number is on the line; a NaN is nowhere. -/
def place? : Binary64 → Option (WithBot (WithTop Int))
  | .nan => none
  | .infinite negative => some (if negative then ⊥ else ⊤)
  | .finite negative units =>
    some (((if negative then -units else units : Int) : WithTop Int) : WithBot (WithTop Int))

theorem coe_lt_top (n : Int) : ((n : WithTop Int) : WithBot (WithTop Int)) < ⊤ :=
  WithBot.coe_lt_coe.mpr (WithTop.coe_lt_top n)

/-- A double is below another one if it comes before it on the line. -/
theorem lt_iff (x y : Binary64) :
    x.lt y = true ↔ ∃ a b, x.place? = some a ∧ y.place? = some b ∧ a < b := by
  cases x with
  | nan => simp [lt, place?]
  | infinite s =>
    cases y with
    | nan => simp [lt, place?]
    | infinite t => cases s <;> cases t <;> simp [lt, place?]
    | finite t v => cases s <;> simp [lt, place?]
  | finite s u =>
    cases y with
    | nan => simp [lt, place?]
    | infinite t => cases t <;> simp [lt, place?, coe_lt_top]
    | finite t v =>
      have hunits : (∃ a b, (finite s u).place? = some a ∧ (finite t v).place? = some b ∧ a < b) ↔
          (if s then -u else u : Int) < (if t then -v else v : Int) := by
        simp [place?]
      rw [hunits]
      cases s <;> cases t <;> simp [lt]
      omega

end Binary64

/-! ## What is answered and what is recorded -/

/-- Whether a value says yes. -/
def Json.isTrue : Json → Bool
  | .bool b => b
  | _ => false

namespace Call

/-- The verdict that an assertion answers. -/
def answeredVerdict? : Call → Answer → Option Bool
  | .assert _ _, .ok v => some v.isTrue
  | .assertNlp _ _ _, .ok v => some v.isTrue
  | _, _ => none

/-- The verdict that a call is given. -/
def givenVerdict? : Call → Answer → Option Bool
  | .appendAssert passed _, .ok _ => some passed
  | _, _ => none

/-- The verdict of an assertion that was carried out. -/
def verdict? (c : Call) (a : Answer) : Option Bool := (c.answeredVerdict? a).or (c.givenVerdict? a)

/-- The answer to an assertion says what it asks for. -/
def Judged (s : Settings) : Call → Answer → Prop
  | .assert expect actual, a => a = .ok (.bool (expect.same actual))
  | .equal x y, a => a = .ok (.bool (x.same y))
  | .assertNlp expect actual threshold, a => ∀ v, a = .ok v →
      ∃ score, score? s expect actual = some score ∧ v = .bool (threshold.lt score)
  | _, _ => True

variable {s : Settings} {c : Call} {a : Answer}

theorem judged_of_patient (h : c.isPatient = true) : c.Judged s a := by
  cases c with
  | sleep ms => trivial
  | httpFetch r => trivial
  | waitShared key => trivial
  | _ => cases h

theorem record_of_judged (h : c.Judged s a) :
    ((c.testStep? s a).bind Ledger.record?).map (·.passed) = c.verdict? a := by
  cases c with
  | assert expect actual =>
    obtain rfl : a = .ok (.bool (expect.same actual)) := h
    rfl
  | assertNlp expect actual threshold =>
    cases a with
    | error e => rfl
    | ok v =>
      obtain ⟨score, hscore, rfl⟩ := h v rfl
      simp only [testStep?, hscore, Option.map_some, Option.bind_some]
      rfl
  | _ => cases a <;> rfl

end Call

namespace Host

open Call (Judged judged_of_patient)

variable {s : Settings} {cancelled : Bool} {h h' : Host} {name argsText : String}

theorem judged_answerNow (s : Settings) (h : Host) (c : Call) : c.Judged s (h.answerNow s c).2 := by
  cases c with
  | assert expect actual => rfl
  | equal x y => rfl
  | assertNlp expect actual threshold =>
    intro v hv
    rw [answerNow, assertSimilar] at hv
    rcases hask : h.consult s (.similarity expect actual) (·.similarity expect actual)
      with ⟨h₁, e | score⟩
    · rw [hask] at hv
      cases hv
    · rw [hask] at hv
      cases hv
      exact ⟨score, score_of_consult hask, rfl⟩
  | _ => trivial

/-- What is answered to an assertion is its verdict. -/
theorem judged_answered {c : Call} {a : Answer}
    (hcall : h.call s cancelled name argsText = (h', .answered a))
    (hread : readCall name argsText = .ok c) : c.Judged s a := by
  cases hpatient : c.isPatient with
  | true => exact judged_of_patient hpatient
  | false =>
    rw [call, hread] at hcall
    simp only [c.isSuspending_operation, hpatient, Bool.false_and, Bool.false_eq_true, if_false,
      invoke_of_prompt hpatient] at hcall
    cases hcall
    exact judged_answerNow s h c

theorem call_equal {x y : Json} (hread : readCall name argsText = .ok (.equal x y)) :
    h.call s cancelled name argsText = (h, .answered (.ok (.bool (x.same y)))) := by
  rw [call, hread]
  rfl

end Host

namespace Happening

/-- The verdict that was answered. -/
def answeredVerdict? : Happening → Option Bool := ofAnswered? Call.answeredVerdict?

/-- The verdict that was given. -/
def givenVerdict? : Happening → Option Bool := ofAnswered? Call.givenVerdict?

/-- The verdict of an assertion that was carried out. -/
def verdict? : Happening → Option Bool := ofAnswered? Call.verdict?

/-- An assertion was answered with its verdict. -/
def Judged (s : Settings) : Happening → Prop
  | .answered name argsText a _ _ => ∀ c, Host.readCall name argsText = .ok c → c.Judged s a
  | _ => True

theorem record_of_judged {s : Settings} {x : Happening} (h : x.Judged s) :
    ((x.testStep? s).bind Ledger.record?).map (·.passed) = x.verdict? := by
  cases x with
  | answered name argsText a cut found =>
    simp only [testStep?, verdict?, ofAnswered?]
    cases hread : Host.readCall name argsText with
    | error e => rfl
    | ok c => exact Call.record_of_judged (h c hread)
  | _ => rfl

theorem records_of_judged {s : Settings} {past : List Happening} (h : ∀ x ∈ past, x.Judged s) :
    ((past.filterMap (testStep? s)).filterMap Ledger.record?).map (·.passed) =
      past.filterMap verdict? := by
  rw [List.filterMap_filterMap, List.map_filterMap]
  refine List.filterMap_congr fun x hx => ?_
  exact record_of_judged (h x hx)

theorem count_verdicts (past : List Happening) : (past.filterMap verdict?).count false =
    (past.filterMap answeredVerdict?).count false + (past.filterMap givenVerdict?).count false := by
  induction past with
  | nil => rfl
  | cons x rest ih =>
    -- a call is answered a verdict or given one, never both
    have hone : x.answeredVerdict? = none ∧ x.verdict? = x.givenVerdict? ∨
        x.givenVerdict? = none ∧ x.verdict? = x.answeredVerdict? := by
      cases x with
      | answered name argsText a cut found =>
        simp only [answeredVerdict?, givenVerdict?, verdict?, ofAnswered?]
        cases (Host.readCall name argsText).toOption with
        | none => exact .inl ⟨rfl, rfl⟩
        | some c =>
          cases c with
          | assert expect actual => exact .inr ⟨by cases a <;> rfl, by cases a <;> rfl⟩
          | assertNlp expect actual threshold => exact .inr ⟨by cases a <;> rfl, by cases a <;> rfl⟩
          | _ => exact .inl ⟨by cases a <;> rfl, by cases a <;> rfl⟩
      | _ => exact .inl ⟨rfl, rfl⟩
    obtain ⟨hnone, hsame⟩ | ⟨hnone, hsame⟩ := hone
    · rw [List.filterMap_cons_none hnone]
      cases hgiven : x.givenVerdict? with
      | none =>
        rw [List.filterMap_cons_none (hsame.trans hgiven), List.filterMap_cons_none hgiven, ih]
      | some b =>
        rw [List.filterMap_cons_some (hsame.trans hgiven), List.filterMap_cons_some hgiven,
          List.count_cons, List.count_cons, ih]
        omega
    · rw [List.filterMap_cons_none hnone]
      cases hanswered : x.answeredVerdict? with
      | none =>
        rw [List.filterMap_cons_none (hsame.trans hanswered), List.filterMap_cons_none hanswered,
          ih]
      | some b =>
        rw [List.filterMap_cons_some (hsame.trans hanswered), List.filterMap_cons_some hanswered,
          List.count_cons, List.count_cons, ih]
        omega

end Happening

open Happening (testStep? verdict? answeredVerdict? givenVerdict?)

/-- A step of the tests puts its record into the row of the innermost open block; one without a
record leaves all records where they are, and so does no step. -/
theorem Aggregator.records_step (g : Aggregator) (st? : Option Aggregator.Step) :
    match st?.bind Ledger.record? with
    | none => Row.placed (g.run st?.toList).rows = Row.placed g.rows
    | some record => ∃ before records after, g.rows = before ++ (g.chain, records) :: after ∧
        (g.run st?.toList).rows = before ++ (g.chain, records ++ [record]) :: after := by
  cases st? with
  | none => rfl
  | some st =>
    cases st with
    | append passed message => exact (g.rows_append passed message).2
    | openBlock now name =>
      show Row.placed (g.openBlock now name).rows = Row.placed g.rows
      rw [(g.rows_openBlock now name).2, Row.placed_append]
      exact List.append_nil _
    | closeBlock now name => exact congrArg Row.placed (g.rows_closeBlock now name).2
    | skip => rfl

namespace Caller

variable {c : Caller} {w : World}

/-- Every assertion that the caller had answered was answered with its verdict. -/
def Judged (c : Caller) : Prop := ∀ x ∈ c.history, x.Judged c.settings

theorem Judged.snoc {c' : Caller} (h : c.Judged) {x : Happening}
    (hsettings : c'.settings = c.settings) (hhistory : c'.history = c.history ++ [x])
    (hx : x.Judged c.settings) : c'.Judged := by
  intro y hy
  rw [hhistory] at hy
  rw [hsettings]
  rcases List.mem_append.mp hy with hy | hy
  · exact h y hy
  · rw [List.mem_singleton.mp hy]
    exact hx

theorem judged_call (h : c.Judged) (name argsText : String) :
    (c.call w name argsText).1.Judged := by
  unfold call
  split
  · exact h
  · have hcalled : (c.note [.called name argsText]).Judged :=
      h.snoc (x := .called name argsText) rfl rfl trivial
    rcases hcall : Host.call c.settings c.cancelled ⟨c.inst, w⟩ name argsText with ⟨h', a | on⟩
    · refine hcalled.snoc (x := .answered name argsText a false (found w.store name argsText a)) rfl
        (by simp [note]) ?_
      intro call hread
      exact Host.judged_answered hcall hread
    · exact hcalled

/-- The end of a call that waited is the answer to no assertion. -/
theorem judged_finish (hk : c.Kept) (h : c.Judged) {p : PendingCall} (hp : c.pending = some p)
    (cut : Bool) (end_ : Host × Answer) : (c.finish p cut end_).1.Judged := by
  obtain ⟨call, hread, hsuspending⟩ := hk.pending p hp
  refine h.snoc rfl rfl fun call' hread' => ?_
  rw [hread] at hread'
  cases hread'
  exact Call.judged_of_patient (call.isSuspending_operation ▸ hsuspending)

theorem judged_act (hk : c.Kept) (h : c.Judged) (a : Act) : (c.act w a).1.Judged := by
  cases a with
  | call name argsText => exact judged_call h name argsText
  | goOn =>
    rw [act]
    obtain heq | ⟨p, hp, heq⟩ := c.goOn_cases w
    · rw [heq]
      exact h
    · rw [heq]
      exact judged_finish hk h hp false _
  | cutOff =>
    rw [act]
    obtain heq | ⟨p, hp, heq⟩ := c.cutOff_cases w
    · rw [heq]
      exact h
    · rw [heq]
      exact judged_finish hk h hp true _
  | enterScope scope => exact h.snoc (x := .entered scope) rfl rfl trivial
  | cancel => exact h.snoc (x := .cancelled) rfl rfl trivial
  | log level message => exact h.snoc (x := .wrote level message) rfl rfl trivial
  | report status => exact h.snoc (x := .reported status _) rfl rfl trivial

/-- What the tests of an instance show of an act: one new record in the innermost open block, or
none. -/
def Records (c c' : Caller) : Option Bool → Prop
  | none => Row.placed c'.inst.tests.rows = Row.placed c.inst.tests.rows
  | some passed => ∃ message before records after,
      c.inst.tests.rows = before ++ (c.inst.tests.chain, records) :: after ∧
        c'.inst.tests.rows = before ++ (c.inst.tests.chain, records ++ [⟨passed, message⟩]) :: after

/-- An act has at most one verdict, and that is what it records. -/
theorem records_act (hk : c.Kept) (h : c.Judged) (w : World) (a : Act) :
    ∃ verdict, ((c.act w a).1.history.drop c.history.length).filterMap verdict? = verdict.toList ∧
      c.Records (c.act w a).1 verdict := by
  obtain ⟨calls, x?, hhistory⟩ := c.noted_act w a
  have hsettings : (c.act w a).1.settings = c.settings := (c.setup_act w a).1
  have htests : (c.act w a).1.inst.tests =
      c.inst.tests.run (x?.bind (testStep? c.settings)).toList := by
    rw [(kept_act hk a).state.tests, hk.state.tests, hsettings, hhistory, List.filterMap_append,
      filterMap_noted fun _ _ => rfl, Aggregator.run, Aggregator.run, Aggregator.run,
        List.foldl_append]
  rw [hhistory, List.drop_left, filterMap_noted fun _ _ => rfl]
  refine ⟨x?.bind verdict?, rfl, ?_⟩
  have hverdict : ((x?.bind (testStep? c.settings)).bind Ledger.record?).map (·.passed) =
      x?.bind verdict? := by
    cases x? with
    | none => rfl
    | some x =>
      have hmem : x ∈ (c.act w a).1.history := by simp [hhistory]
      have hx : x.Judged (c.act w a).1.settings := judged_act hk h a x hmem
      rw [hsettings] at hx
      exact Happening.record_of_judged hx
  have hrecords := c.inst.tests.records_step (x?.bind (testStep? c.settings))
  rw [← htests] at hrecords
  rw [← hverdict]
  cases hrecord : (x?.bind (testStep? c.settings)).bind Ledger.record? with
  | none =>
    rw [hrecord] at hrecords
    exact hrecords
  | some record =>
    rw [hrecord] at hrecords
    obtain ⟨before, records, after, hrows, hrows'⟩ := hrecords
    exact ⟨record.message, before, records, after, hrows, hrows'⟩

end Caller

/-- The tests of a past count as failed the verdicts that are false, answered or given. -/
theorem Aggregator.failedCount_of_judged {s : Settings} {past : List Happening}
    (h : ∀ x ∈ past, x.Judged s) (now : Time) :
    ((Aggregator.empty.run (past.filterMap (testStep? s))).report now).failedCount =
      (past.filterMap answeredVerdict?).count false +
        (past.filterMap givenVerdict?).count false := by
  have hcount := Aggregator.count_report false (past.filterMap (testStep? s)) now
  rw [← Happening.count_verdicts, ← Happening.records_of_judged h, List.count, List.countP_map]
  exact hcount

/-- However many callers there are and whatever they do: each act of a caller has at most one
verdict, and adds a record with that verdict to the innermost open block, or no record if it has
none. An assertion of equality is answered what `equal` answers of the same values, and one of
similarity whether the score comes after the threshold, which a NaN never does. Over the whole run
the records are the verdicts in their order, and every report counts the false ones. -/
theorem verdicts_are_recorded (shared : List Store.Step) (channel : Option (Channel Event))
    (moves : List Party.Move) (i : Nat) (c : Caller)
    (hc : ((Party.start shared channel).run moves).callers[i]? = some c) :
    (moves.filterMap Party.Move.joins?)[i]? = some (c.settings, c.setup) ∧
      (∀ w a, ∃ verdict : Option Bool,
        ((c.act w a).1.history.drop c.history.length).filterMap verdict? = verdict.toList ∧
          c.Records (c.act w a).1 verdict) ∧
      (∀ name argsText a cut found, .answered name argsText a cut found ∈ c.history →
        (∀ expect actual, Host.readCall name argsText = .ok (.assert expect actual) →
          a = .ok (.bool (expect.same actual)) ∧
            ∀ s cancelled h name' argsText',
              Host.readCall name' argsText' = .ok (.equal expect actual) →
              Host.call s cancelled h name' argsText' = (h, .answered a)) ∧
          ∀ expect actual threshold,
            Host.readCall name argsText = .ok (.assertNlp expect actual threshold) →
            ∀ v, a = .ok v → ∃ score passed, Call.score? c.settings expect actual = some score ∧
              v = .bool passed ∧
              (passed = true ↔ ∃ x y, threshold.place? = some x ∧ score.place? = some y ∧ x < y)) ∧
      (let calls := Ledger.empty.run (c.history.filterMap (testStep? c.settings))
       calls.appended.map (·.2.passed) = c.history.filterMap verdict? ∧
         (Row.placed c.inst.tests.rows).Perm calls.appended) ∧
      (∀ now, (c.inst.tests.report now).failedCount =
        (c.history.filterMap answeredVerdict?).count false +
          (c.history.filterMap givenVerdict?).count false) ∧
      ∀ (n : Nat) status r, c.history[n]? = some (.reported status r) → r.tests.failedCount =
        ((c.history.take n).filterMap answeredVerdict?).count false +
          ((c.history.take n).filterMap givenVerdict?).count false := by
  obtain ⟨hk, hj⟩ : c.Kept ∧ c.Judged :=
    Party.every_run (P := fun c => c.Kept ∧ c.Judged)
      (fun settings number setup =>
        ⟨Caller.kept_start settings number setup, by simp [Caller.Judged, Caller.start]⟩)
      (fun _ _ a h => ⟨Caller.kept_act h.1 a, Caller.judged_act h.1 h.2 a⟩)
      (p := .start shared channel) (by simp [Party.start]) moves c (List.mem_of_getElem? hc)
  refine ⟨Party.joined_of_run hc, fun w a => Caller.records_act hk hj w a, ?_, ?_, ?_, ?_⟩
  · intro name argsText a cut found hmem
    refine ⟨fun expect actual hread => ?_, fun expect actual threshold hread v hv => ?_⟩
    · obtain rfl : a = .ok (.bool (expect.same actual)) := hj _ hmem _ hread
      exact ⟨rfl, fun s cancelled h name' argsText' hequal => Host.call_equal hequal⟩
    · have hjudged : ∀ v, a = .ok v → ∃ score, Call.score? c.settings expect actual = some score ∧
          v = .bool (threshold.lt score) := hj _ hmem _ hread
      obtain ⟨score, hscore, rfl⟩ := hjudged v hv
      exact ⟨score, threshold.lt score, hscore, rfl, Binary64.lt_iff threshold score⟩
  · intro calls
    have hsound : calls.Sound := Ledger.sound_run Ledger.sound_empty _
    refine ⟨?_, ?_⟩
    · have happended : calls.appended.map (·.2) =
          (c.history.filterMap (testStep? c.settings)).filterMap Ledger.record? :=
            Ledger.appended_run .empty _
      rw [← Happening.records_of_judged hj, ← happended, List.map_map]
      rfl
    · rw [hk.state.tests,
        (Aggregator.follows_run Ledger.sound_empty Aggregator.follows_empty _).rows]
      exact Ledger.placed_perm hsound
  · intro now
    rw [hk.state.tests]
    exact Aggregator.failedCount_of_judged hj now
  · intro n status r hr
    have hbefore : ∀ x ∈ c.history.take n, x.Judged c.settings := fun x hx =>
      hj x (List.mem_of_mem_take hx)
    have htells : r.Tells c.settings c.setup (c.history.take n) status := hk.fits n _ hr
    obtain ⟨verdict, htests⟩ := htells.tests
    rw [htests]
    exact Aggregator.failedCount_of_judged hbefore c.settings.now

/-- An assertion of equality that holds, one of similarity whose score is no number, and a verdict
that is given: two of the three are false. -/
theorem verdicts_are_recorded_three :
    let tools : LanguageTools :=
      ⟨fun _ _ => .ok [], fun _ => .ok [], fun _ _ => .ok [], fun _ _ => .ok .nan⟩
    let settings : Settings :=
      { (default : Settings) with collaborators := ⟨Collaborators.none.network, some tools⟩ }
    let moves : List Party.Move :=
      [.join settings ⟨"case", .null, [], none⟩, .act 0 (.call "open_test" "[\"t\"]"),
        .act 0 (.call "assert" "[[1],[1]]"), .act 0 (.call "assert_nlp" "[\"a\",\"b\",0]"),
        .act 0 (.call "append_assert" "[false,\"given\"]")]
    ∃ c, ((Party.start [] none).run moves).callers[0]? = some c ∧
      c.history.filterMap answeredVerdict? = [true, false] ∧
        c.history.filterMap givenVerdict? = [false] ∧
      ∀ now, (c.inst.tests.report now).failedCount =
        (c.history.filterMap answeredVerdict?).count false +
            (c.history.filterMap givenVerdict?).count false := by
  intro tools settings moves
  exact ⟨_, rfl, by decide +kernel, by decide +kernel,
    (verdicts_are_recorded [] none moves 0 _ rfl).2.2.2.2.1⟩

end ScriptBench
