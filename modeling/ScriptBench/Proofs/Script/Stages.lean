import ScriptBench.Proofs.Call.Grammar
import ScriptBench.Proofs.Host.Replay
import ScriptBench.Proofs.Report.Balanced
import ScriptBench.Proofs.Script.Runs

/-!
A script and its host, step by step.

A stage is a machine with the instance that it calls the host for, and what these calls have done to
the tests. It goes on by a turn of the machine or by an answer of the host, whatever the time is,
whatever others do to the world and whenever the instance is cancelled.

1. The tests of the instance are what the deeds of its calls make of them (`gains_of_next`).
2. A request to open a block opens it or is refused and does nothing (`opening_answered`); one to
   close it by the same arguments closes it (`closing_answered`); any other does at most one thing
   that is balanced (`other_answered`).
3. A stage leads to a goal if there is always a way to go on, and every way comes to the goal or
   strays (`Leads`).
-/
namespace ScriptBench

open Aggregator (Balanced)

/-- What an answered request does to the tests. -/
def HostRequest.deeds (s : Settings) (r : HostRequest) (a : Answer) : List Aggregator.Step :=
  ((Host.readCall r.operation.name r.argsText).toOption.bind fun c => c.testStep? s a).toList

structure Stage where
  machine : Machine
  inst : Instance
  deeds : List Aggregator.Step

namespace Stage

/-- How a stage goes on. -/
inductive Next (s : Settings) : Stage → Stage → Prop where
  | turn {m m' : Machine} {i : Instance} {deeds : List Aggregator.Step}
    (hturn : m.turn = .next m') :
    Next s ⟨m, i, deeds⟩ ⟨m', i, deeds⟩
  | call {m m' : Machine} {i : Instance} {deeds : List Aggregator.Step} {r : HostRequest}
    {cancelled : Bool}
    {world w : World} {h₁ h' : Host} {a : Answer} (now : Time) (hturn : m.turn = .ask r m')
    (hanswer : Host.Answers { s with now := now } cancelled ⟨i, world⟩
      r.operation.name r.argsText h₁ w h' a) :
    Next s ⟨m, i, deeds⟩ ⟨m'.answer a, h'.inst, deeds ++ r.deeds { s with now := now } a⟩

end Stage

/-! ## Answers -/

section Answers

variable {s : Settings} {cancelled : Bool} {h h₁ h' : Host} {w : World}
  {r : HostRequest} {a : Answer}

theorem deeds_of_read {c : Call} (hread : Host.readCall r.operation.name r.argsText = .ok c) :
    r.deeds s a = (c.testStep? s a).toList := by
  rw [HostRequest.deeds, hread]
  rfl

theorem deeds_of_unread {e : HostError}
    (hread : Host.readCall r.operation.name r.argsText = .error e) :
    r.deeds s a = [] := by
  rw [HostRequest.deeds, hread]
  rfl

theorem deeds_of_suspended {on : Suspension}
    (hcall : h.call s cancelled r.operation.name r.argsText = (h₁, .suspended on)) :
    h₁.inst = h.inst ∧ r.deeds s a = [] := by
  obtain ⟨hinst, c, hread, hsuspending⟩ := Host.waits_suspended hcall
  refine ⟨hinst, ?_⟩
  rw [deeds_of_read hread, (Call.adds_none_of_suspending hsuspending a).2.2]
  rfl

/-- A call changes the tests by its deeds, whatever happens while it waits. -/
theorem tests_answered
    (hanswer : Host.Answers s cancelled h r.operation.name r.argsText h₁ w h' a) :
    h'.inst.tests = h.inst.tests.run (r.deeds s a) := by
  cases hanswer with
  | atOnce hcall =>
    obtain ⟨c, hread, hadds⟩ | ⟨⟨e, hread⟩, hinst⟩ := Host.adds_answered hcall
    · rw [hadds.tests, deeds_of_read hread]
    · rw [hinst, deeds_of_unread hread]
      rfl
  | concluded others hcall hothers hend =>
    rename_i on
    obtain ⟨hinst, hnone⟩ := deeds_of_suspended (a := a) hcall
    obtain ⟨logs, hlogs⟩ := Host.logs_of_conclude s (⟨h₁.inst, w⟩ : Host) on
    rw [hend] at hlogs
    rw [hnone, show h'.inst = _ from hlogs, hinst]
    rfl
  | interrupted others hcall hothers hend =>
    rename_i on
    obtain ⟨hinst, hnone⟩ := deeds_of_suspended (a := a) hcall
    have hlast := Host.interrupt_inst (⟨h₁.inst, w⟩ : Host) on
    rw [hend] at hlast
    rw [hnone, show h'.inst = _ from hlast, hinst]
    rfl

theorem operation_name_inj {op op' : Operation} (heq : op.name = op'.name) : op = op' := by
  have hsome := congrArg Operation.ofName? heq
  rw [Operation.ofName?_name, Operation.ofName?_name] at hsome
  exact Option.some.inj hsome

theorem operation_of_read {c : Call} (hread : Host.readCall r.operation.name r.argsText = .ok c) :
    c.operation = r.operation := by
  obtain ⟨args, -, hparse⟩ := bind_eq_ok_iff.mp hread
  exact operation_name_inj (Call.parse_ok_iff.mp hparse).1

theorem call_of_answers (hanswer : Host.Answers s cancelled h r.operation.name r.argsText h₁ w h' a)
    (hkind : r.operation.isSuspending = false) :
    h.call s cancelled r.operation.name r.argsText = (h', .answered a) := by
  have hnever : ∀ {on : Suspension}, h.call s cancelled r.operation.name r.argsText ≠
      (h₁, .suspended on) := by
    intro on hcall
    obtain ⟨-, c, hread, hsuspending⟩ := Host.waits_suspended hcall
    rw [operation_of_read hread, hkind] at hsuspending
    cases hsuspending
  cases hanswer with
  | atOnce hcall => exact hcall
  | concluded others hcall _ _ => exact absurd hcall hnever
  | interrupted others hcall _ _ => exact absurd hcall hnever

theorem exists_answers (s : Settings) (h : Host) (r : HostRequest) :
    ∃ h₁ w h' a, Host.Answers s false h r.operation.name r.argsText h₁ w h' a := by
  obtain ⟨h₁, w, hanswer⟩ :=
    Host.answers_answerWhile s false h r.operation.name r.argsText fun _ => .nothing
  exact ⟨h₁, w, _, _, hanswer⟩

/-- The arguments with which a block is opened and closed. -/
def Names (argsText name : String) : Prop :=
  Host.readCall "open_test" argsText = .ok (.openTest name) ∧
    Host.readCall "close_test" argsText = .ok (.closeTest name)

/-- What is read as an opening is read as a closing of the same block. -/
theorem names_of_read {argsText : String} {c : Call}
    (hread : Host.readCall "open_test" argsText = .ok c) :
    ∃ name, Names argsText name ∧ c = .openTest name := by
  have hop : c.operation = .openTest := operation_of_read (r := ⟨.openTest, argsText⟩) hread
  obtain ⟨name, rfl⟩ : ∃ name, c = .openTest name := by
    cases c with
    | openTest name => exact ⟨name, rfl⟩
    | log level message => cases level <;> cases hop
    | _ => cases hop
  obtain ⟨args, hargs, hparse⟩ := bind_eq_ok_iff.mp hread
  obtain ⟨-, values, rfl, hdenotes⟩ := Call.parse_ok_iff.mp hparse
  have hclose : Call.parse "close_test" (.arr values) = .ok (.closeTest name) :=
    Call.parse_ok_iff.mpr ⟨rfl, values, rfl, hdenotes⟩
  have htext : Json.parse argsText = .ok (.arr values) := by
    unfold Host.readArguments at hargs
    cases htext : Json.parse argsText with
    | ok v =>
      rw [htext] at hargs
      cases hargs
      rfl
    | error f =>
      rw [htext] at hargs
      cases hargs
  refine ⟨name, ⟨hread, bind_eq_ok_iff.mpr ⟨.arr values, ?_, hclose⟩⟩, rfl⟩
  rw [Host.readArguments, htext]
  rfl

/-- A request that names a block opens it. -/
theorem call_open {argsText name : String} (hnames : Names argsText name) (s : Settings)
    (cancelled : Bool) (h : Host) :
    h.call s cancelled "open_test" argsText =
      (h.withTests (h.inst.tests.openBlock s.now name), .answered (.ok .null)) := by
  rw [Host.call, hnames.1]
  rfl

/-- A request to open a block opens it, or is refused and does nothing. -/
theorem opening_answered {argsText : String} (hr : r = ⟨.openTest, argsText⟩)
    (hanswer : Host.Answers s cancelled h r.operation.name r.argsText h₁ w h' a) :
    (∃ name, Names argsText name ∧ a = .ok .null ∧ r.deeds s a = [.openBlock s.now name]) ∨
      (∀ name, ¬ Names argsText name) ∧ ∃ e, a = .error e ∧ r.deeds s a = [] := by
  subst hr
  have hcall := call_of_answers hanswer rfl
  cases hread : Host.readCall "open_test" argsText with
  | error e =>
    have hunread : h.call s cancelled "open_test" argsText = _ := Host.call_unread hread
    rw [show h.call s cancelled "open_test" argsText = _ from hcall] at hunread
    obtain ⟨-, ha⟩ := Prod.mk.inj hunread
    cases ha
    refine .inr ⟨fun name hnames => ?_, e, rfl, deeds_of_unread hread⟩
    rw [hnames.1] at hread
    cases hread
  | ok c =>
    obtain ⟨name, hnames, rfl⟩ := names_of_read hread
    have hopen := call_open hnames s cancelled h
    rw [show h.call s cancelled "open_test" argsText = _ from hcall] at hopen
    obtain ⟨-, ha⟩ := Prod.mk.inj hopen
    cases ha
    exact .inl ⟨name, hnames, rfl, deeds_of_read (c := .openTest name) hread⟩

/-- A request to close the block that the same arguments opened closes it. -/
theorem closing_answered {argsText name : String} (hnames : Names argsText name)
    (hr : r = ⟨.closeTest, argsText⟩)
    (hanswer : Host.Answers s cancelled h r.operation.name r.argsText h₁ w h' a) :
    a = .ok .null ∧ r.deeds s a = [.closeBlock s.now name] := by
  subst hr
  have hcall := call_of_answers hanswer rfl
  have hclose : h.call s cancelled "close_test" argsText =
      (h.withTests (h.inst.tests.closeBlock s.now name).1, .answered (.ok .null)) := by
    rw [Host.call, hnames.2]
    rfl
  rw [show h.call s cancelled "close_test" argsText = _ from hcall] at hclose
  obtain ⟨-, ha⟩ := Prod.mk.inj hclose
  cases ha
  exact ⟨rfl, deeds_of_read (c := .closeTest name) hnames.2⟩

/-- Any other request does nothing to the tests, or something that is balanced and makes no
block. -/
theorem other_answered (hopen : r.operation ≠ .openTest) (hclose : r.operation ≠ .closeTest)
    (s : Settings) (a : Answer) : ∃ records, Balanced (r.deeds s a) records [] := by
  cases hread : Host.readCall r.operation.name r.argsText with
  | error e =>
    rw [deeds_of_unread hread]
    exact ⟨[], .nil⟩
  | ok c =>
    have hop := operation_of_read hread
    rw [deeds_of_read hread]
    cases hstep : c.testStep? s a with
    | none => exact ⟨[], .nil⟩
    | some step =>
      cases step with
      | append passed message => exact ⟨_, Balanced.nil.append passed message⟩
      | skip => exact ⟨_, Balanced.nil.skip⟩
      | openBlock openedAt name =>
        have hopens : c.operation = .openTest := by
          unfold Call.testStep? at hstep
          split at hstep <;> simp_all [Call.operation]
        exact absurd (hop ▸ hopens) hopen
      | closeBlock closedAt name =>
        have hcloses : c.operation = .closeTest := by
          unfold Call.testStep? at hstep
          split at hstep <;> simp_all [Call.operation]
        exact absurd (hop ▸ hcloses) hclose

end Answers

/-! ## Ways of going on -/

/-- A call of a test comes next. -/
def Control.callsTest : Control → Bool
  | .deliver _ (.body (.test .. :: _) :: _) => true
  | _ => false

theorem Control.no_duty {control : Control} {p : Prop} (h : control.callsTest = false)
    (hcalls : control.callsTest = true) : p := by
  rw [h] at hcalls
  cases hcalls

namespace Stage

/-- What has been done to the tests from one stage to the other is in the deeds. -/
def Gains (st st' : Stage) : Prop :=
  ∃ added, st'.deeds = st.deeds ++ added ∧ st'.inst.tests = st.inst.tests.run added

theorem Gains.refl (st : Stage) : Gains st st := ⟨[], (List.append_nil _).symm, rfl⟩

theorem Gains.trans {a b c : Stage} (h : Gains a b) (h' : Gains b c) : Gains a c := by
  obtain ⟨added, hdeeds, htests⟩ := h
  obtain ⟨added', hdeeds', htests'⟩ := h'
  refine ⟨added ++ added', ?_, ?_⟩
  · rw [hdeeds', hdeeds, List.append_assoc]
  · rw [htests', htests, Aggregator.run_append]

variable {s : Settings} {st st' : Stage}

theorem gains_of_next (h : Next s st st') : Gains st st' := by
  cases h with
  | turn _ => exact ⟨[], (List.append_nil _).symm, rfl⟩
  | call now _ hanswer => exact ⟨_, rfl, tests_answered hanswer⟩

/-- The script takes a test out of its bracket: it is interrupted; or it leaves a body with a value
that has to be followed and is no settled promise; or it does not await a test whose body was left
with such a value. -/
inductive Strays (st : Stage) : Prop where
  | interrupted {e : Value} {frames : List Frame} (hcontrol : st.machine.control = .raise e frames)
    (he : e.isInterruption = true)
  | unsettled {u v : Value} {e : Expr} {rest : List Step} {frames : List Frame}
    (hcontrol : st.machine.control = .deliver u (.body (.leave e :: rest) :: frames))
    (hvalue : st.machine.value e = .ok v) (hthen : v.isThenable = true)
    (hopen : ∀ p outcome, v = .promise p → st.machine.promises[p]? ≠ some (.settled outcome))
  | unawaited {v name : Value} {store : Option String} {frames : List Frame}
    (hcontrol : st.machine.control = .deliver v (.close name :: .keep store false :: frames))
    (hthen : v.isThenable = true)

/-- Every way of going on comes to the goal, unless the script strays; a duty is met wherever a test
is called on the way. -/
inductive Leads (s : Settings) (duty goal : Stage → Prop) : Stage → Prop where
  | here {st : Stage} (h : goal st) : Leads s duty goal st
  | off {st : Stage} (h : st.Strays) : Leads s duty goal st
  | on {st : Stage} (hduty : st.machine.control.callsTest = true → duty st)
    (hgoes : ∃ st', Next s st st') (h : ∀ st', Next s st st' → Leads s duty goal st') :
    Leads s duty goal st

variable {duty goal goal' : Stage → Prop}

theorem Leads.bind (h : Leads s duty goal st) (hgoal : ∀ st', goal st' → Leads s duty goal' st') :
    Leads s duty goal' st := by
  induction h with
  | here h => exact hgoal _ h
  | off h => exact .off h
  | on hduty hgoes _ ih => exact .on hduty hgoes ih

/-- What every step keeps can be counted on at the goal. -/
theorem Leads.keeping {keeps : Stage → Stage → Prop} (hrefl : ∀ a, keeps a a)
    (hnext : ∀ a b c, Next s a b → keeps b c → keeps a c) (h : Leads s duty goal st) :
    Leads s duty (fun st' => goal st' ∧ keeps st st') st := by
  induction h with
  | here h => exact .here ⟨h, hrefl _⟩
  | off h => exact .off h
  | on hduty hgoes _ ih =>
    exact .on hduty hgoes fun st' hst' => (ih st' hst').bind fun st'' hst'' =>
      .here ⟨hst''.1, hnext _ _ _ hst' hst''.2⟩

theorem Leads.gaining (h : Leads s duty goal st) :
    Leads s duty (fun st' => goal st' ∧ Gains st st') st :=
  h.keeping Gains.refl fun _ _ _ hnext hgains => (gains_of_next hnext).trans hgains

theorem leads_turn {m m' : Machine} {i : Instance} {deeds : List Aggregator.Step}
    (hturn : m.turn = .next m') (hduty : m.control.callsTest = true → duty ⟨m, i, deeds⟩)
    (h : Leads s duty goal ⟨m', i, deeds⟩) :
    Leads s duty goal ⟨m, i, deeds⟩ := by
  refine .on hduty ⟨_, .turn hturn⟩ fun st' hst' => ?_
  cases hst' with
  | turn hturn' =>
    rw [hturn] at hturn'
    cases hturn'
    exact h
  | call now hturn' _ =>
    rw [hturn] at hturn'
    cases hturn'

theorem leads_ask {m m' : Machine} {i : Instance} {deeds : List Aggregator.Step} {r : HostRequest}
    (hturn : m.turn = .ask r m') (hduty : m.control.callsTest = true → duty ⟨m, i, deeds⟩)
    (h : ∀ now cancelled world h₁ w h' a,
      Host.Answers { s with now := now } cancelled ⟨i, world⟩
      r.operation.name r.argsText h₁ w h' a →
        Leads s duty goal ⟨m'.answer a, h'.inst, deeds ++ r.deeds { s with now := now } a⟩) :
    Leads s duty goal ⟨m, i, deeds⟩ := by
  refine .on hduty ?_ fun st' hst' => ?_
  · obtain ⟨h₁, w, h', a, hanswer⟩ := exists_answers { s with now := s.now } ⟨i, default⟩ r
    exact ⟨_, .call s.now hturn hanswer⟩
  · cases hst' with
    | turn hturn' =>
      rw [hturn] at hturn'
      cases hturn'
    | call now hturn' hanswer =>
      rw [hturn] at hturn'
      cases hturn'
      exact h now _ _ _ _ _ _ hanswer

/-- A block may be opened at any moment at which it is asked for. -/
theorem next_open {m m' : Machine} {i : Instance} {deeds : List Aggregator.Step}
    {argsText name : String} (hturn : m.turn = .ask ⟨.openTest, argsText⟩ m')
    (hnames : Names argsText name) :
    Next s ⟨m, i, deeds⟩ ⟨m'.answer (.ok .null), { i with tests := i.tests.openBlock s.now name },
      deeds ++ [.openBlock s.now name]⟩ := by
  have hcall := call_open hnames s false ⟨i, default⟩
  have hdeeds : HostRequest.deeds s ⟨.openTest, argsText⟩ (.ok .null) = [.openBlock s.now name] :=
    deeds_of_read (c := .openTest name) hnames.1
  rw [← hdeeds]
  exact .call s.now hturn (.atOnce hcall)

/-- The stages a script comes to before it strays and before it has come to its goal. -/
inductive Reaches (s : Settings) (goal : Stage → Prop) (st : Stage) : Stage → Prop where
  | refl : Reaches s goal st st
  | next {st₁ st₂ : Stage} (h : Reaches s goal st st₁) (hgoal : ¬ goal st₁) (hstrays : ¬ st₁.Strays)
    (hnext : Next s st₁ st₂) : Reaches s goal st st₂

theorem Leads.met (h : Leads s duty goal st) (hreach : Reaches s goal st st') :
    Leads s duty goal st' := by
  induction hreach with
  | refl => exact h
  | next _ hgoal hstrays hnext ih =>
    cases ih with
    | here h => exact absurd h hgoal
    | off h => exact absurd h hstrays
    | on _ _ h => exact h _ hnext

end Stage

end ScriptBench
