import ScriptBench.Proofs.Host.Channels
import ScriptBench.Proofs.Host.Separation
import ScriptBench.Proofs.Report.Verdicts
import ScriptBench.Proofs.Run.Chains

/-!
Everything that a move can make of an execution and its world.

1. A move is of one of seven kinds (`Moved`), be it that an execution advances or that its time has
   come (`moved_advance`, `moved_elapse`).
2. From the kinds: what a move tells those who listen (`channel_moved`), what it does to the shared
   values (`store_moved`), and whether it skips the tests (`skipped_moved`).
3. What an execution was started with stays (`given_becomes`), and so does its report, once it is
   there (`report_becomes`), which tells what the instance has recorded (`told_becomes`).
-/
namespace ScriptBench

/-! ## Calls -/

namespace Host

open Store (lastSet? lastSet?_eq_none)

variable {s : Settings} {cancelled : Bool} {h h' : Host} {name argsText : String}

/-- Of all that a call does to the store only what it is a call for sets a value. -/
theorem store_call (s : Settings) (cancelled : Bool) (h : Host) (name argsText : String) :
    ∃ acts, (h.call s cancelled name argsText).1.world.store = h.world.store.run acts ∧
      ∀ key, lastSet? key acts = lastSet? key (callSteps name argsText) := by
  cases hreads : callReads? name argsText with
  | none =>
    have htogether : Together (callSteps name argsText) h h (h.call s cancelled name argsText)
        (h.call s cancelled name argsText) := call_together (fun _ => rfl) (alike_refl h) hreads
    obtain ⟨_, _, hmoved, -⟩ := htogether.moved
    exact ⟨_, hmoved.store, fun _ => rfl⟩
  | some read =>
    obtain ⟨acts, hstore, hacts⟩ := (reaches_call s cancelled h name argsText).store
    have hnone : callSteps name argsText = [] := by
      obtain hread | hread := of_callReads hreads <;> rw [callSteps, hread] <;> rfl
    refine ⟨acts, hstore, fun key => ?_⟩
    rw [hnone]
    refine lastSet?_eq_none fun st hst => Classical.byContradiction fun hset => ?_
    -- what reads a value sets none
    obtain ⟨v, hread⟩ := hacts st hst key hset
    obtain hread' | hread' := of_callReads hreads <;> cases hread.symm.trans hread'

end Host

namespace Execution

/-- The call that shows in a mark. -/
def Mark.call? : Mark → Option (String × String)
  | .called name args => some (name, args)
  | _ => none

/-- The shared values that are set where a mark is made. -/
def Mark.sets (m : Mark) : List Store.Step :=
  match m.call? with
  | some (name, args) => Host.callSteps name args
  | none => []

/-- The tests are skipped where the mark is made. -/
def Mark.skips (m : Mark) : Bool :=
  match m.call?.map fun c => Host.readCall c.1 c.2 with
  | some (.ok .testSkip) => true
  | _ => false

/-- At work: neither waiting nor over. -/
inductive Working (e : Execution) : Prop where
  | between (h : e.phase = .between)
  | running {p : Program} (h : e.phase = .running p)

/-- The kinds of moves, each with its mark. -/
inductive Moved (s : Settings) (e : Execution) (w : World) :
    Option Mark → Execution → World → Prop where
  | rested : Moved s e w none e w
  /-- A scope is entered, or left, or a script goes on without a call. -/
  | passed {mark : Option Mark} {phase : Phase} (scope : String) (chain : List Scope)
    (h : e.Working) (hphase : ∀ e' : Execution, e'.phase = phase → e'.Working)
    (hmark : mark.bind Mark.call? = none) :
    Moved s e w mark { e with inst := { e.inst with scope }, chain, phase } w
  | answered {name args : String} {next : Answer → Program} {h : Host} {a : Answer}
    (hphase : e.phase = .running (.call name args next))
    (hcall : (⟨e.inst, w⟩ : Host).call s e.cancelled name args = (h, .answered a)) :
    Moved s e w (some (.called name args))
      { e with inst := h.inst, phase := .running (next a) } h.world
  | suspended {name args : String} {next : Answer → Program} {h : Host} {on : Suspension}
    (clock : Nat) (hphase : e.phase = .running (.call name args next))
    (hcall : (⟨e.inst, w⟩ : Host).call s e.cancelled name args = (h, .suspended on)) :
    Moved s e w (some (.called name args))
      { e with inst := h.inst, phase := .suspended on clock next } h.world
  /-- A call that waits has its end. -/
  | resumed {on : Suspension} {since : Nat} {next : Answer → Program} {h : Host} {a : Answer}
    (hphase : e.phase = .suspended on since next)
    (hend : (⟨e.inst, w⟩ : Host).interrupt on = (h, a) ∨
      (⟨e.inst, w⟩ : Host).conclude s on = (h, a)) :
    Moved s e w none { e with inst := h.inst, phase := .running (next a) } h.world
  /-- The chain is over. -/
  | ended {mark : Option Mark} (result : Except ScriptError Unit) (h : e.Working)
    (hmark : mark.bind Mark.call? = none) :
    Moved s e w mark (e.finish s w result).1 (e.finish s w result).2
  | reported {status : Status} (hphase : e.phase = .leaving status)
    (hdone : Host.isAnnouncing ⟨e.inst, w⟩ status = false) :
    Moved s e w none { e with phase := .finished (e.inst.report s.now status) } w

section Moves

variable {s : Settings} {clock : Nat} {e e' : Execution} {w w' : World} {mark : Option Mark}

theorem moved_advance (s : Settings) (clock : Nat) (e : Execution) (w : World) :
    Moved s e w e.mark? (e.advance s clock w).1 (e.advance s clock w).2 := by
  unfold advance mark?
  dsimp only
  cases hphase : e.phase with
  | finished r => exact .rested
  | leaving status =>
    dsimp only
    by_cases h : Host.isAnnouncing ⟨e.inst, w⟩ status = true
    · rw [if_pos h]
      exact .rested
    · rw [if_neg h]
      exact .reported hphase (Bool.eq_false_iff.mpr h)
  | between =>
    dsimp only
    cases hchain : e.chain with
    | nil => exact .ended _ (.between hphase) rfl
    | cons scope rest =>
      dsimp only
      by_cases h : e.cancelled = true
      · rw [if_pos h, if_pos h]
        exact .ended _ (.between hphase) rfl
      · rw [if_neg h, if_neg h]
        exact .passed scope.name rest (.between hphase) (fun _ => .running) rfl
  | running p =>
    cases p with
    | call name args next =>
      dsimp only
      rcases hcall : (⟨e.inst, w⟩ : Host).call s e.cancelled name args with ⟨h, a | on⟩
      · exact .answered hphase hcall
      · exact .suspended clock hphase hcall
    | finish outcome =>
      dsimp only
      cases outcome.result s.config.memoryLimit e.cancelled with
      | ok _ => exact .passed e.inst.scope e.chain (.running hphase) (fun _ => .between) rfl
      | error err => exact .ended _ (.running hphase) rfl
    | spin p =>
      dsimp only
      split
      · exact .passed e.inst.scope e.chain (.running hphase) (fun _ => .running) rfl
      · exact .rested
  | suspended on since next =>
    dsimp only
    split
    · exact .resumed hphase (.inl rfl)
    · split
      · split
        · exact .resumed hphase (.inr rfl)
        · exact .rested
      · exact .rested

theorem moved_elapse (s : Settings) (clock : Nat) (e : Execution) (w : World) :
    Moved s e w none (e.elapse s clock w).1 (e.elapse s clock w).2 := by
  unfold elapse
  split
  · rename_i hphase _
    split
    · exact .resumed hphase (.inr rfl)
    · exact .rested
  · exact .rested

/-- How the execution has ended, if it is over. -/
def status? (e : Execution) : Option Status :=
  match e.phase with
  | .leaving status => some status
  | .finished report => some report.status
  | _ => none

theorem Working.status?_eq_none (h : e.Working) : e.status? = none := by
  cases h with
  | between h => rw [status?, h]
  | running h => rw [status?, h]

/-! ## What a move tells -/

/-- The end of a chain tells of a failure in the log, and then that the instance has ended. -/
theorem channel_finish (e : Execution) (w : World) (result : Except ScriptError Unit) :
    ∃ lines status, (e.finish s w result).1.inst.logs = e.inst.logs ++ lines ∧
      (e.finish s w result).1.phase = .leaving status ∧
      (e.finish s w result).2.channel =
        w.channel.map fun c =>
          (c.hear e.inst.number lines).send (.finished e.inst.number status) := by
  simp only [finish]
  split
  · refine ⟨[], _, (List.append_nil _).symm, rfl, ?_⟩
    simp only [Host.announce]
    cases w.channel <;> rfl
  · refine ⟨[_], _, rfl, rfl, ?_⟩
    simp only [Host.announce, Host.log]
    cases w.channel <;> rfl

/-- Those who listen hear lines that are written to the log. That an instance has ended is told when
its chain is over, and never again. -/
theorem channel_moved (h : Moved s e w mark e' w') :
    ∃ lines, e'.inst.logs = e.inst.logs ++ lines ∧
      ((e'.status? = e.status? ∧ w'.channel = w.channel.map (·.hear e.inst.number lines)) ∨
        e.status? = none ∧ ∃ status, e'.phase = .leaving status ∧
          w'.channel = w.channel.map fun c =>
            (c.hear e.inst.number lines).send (.finished e.inst.number status)) := by
  have hsilent : w.channel = w.channel.map (·.hear e.inst.number []) := by
    cases w.channel <;> rfl
  -- only the end of a chain is told as such; a call tells what it has written
  cases h with
  | rested => exact ⟨[], (List.append_nil _).symm, .inl ⟨rfl, hsilent⟩⟩
  | passed scope chain hworking hphase _ =>
    refine ⟨[], (List.append_nil _).symm, .inl ⟨?_, hsilent⟩⟩
    rw [hworking.status?_eq_none]
    exact (hphase _ rfl).status?_eq_none
  | answered hphase hcall =>
    obtain ⟨lines, hlogs, -, hchannel⟩ := (Host.heard_call (s := s) e.cancelled _ _).channel
    rw [hcall] at hlogs hchannel
    exact ⟨lines, hlogs, .inl ⟨by rw [status?, status?, hphase], hchannel⟩⟩
  | suspended clock hphase hcall =>
    obtain ⟨lines, hlogs, -, hchannel⟩ := (Host.heard_call (s := s) e.cancelled _ _).channel
    rw [hcall] at hlogs hchannel
    exact ⟨lines, hlogs, .inl ⟨by rw [status?, status?, hphase], hchannel⟩⟩
  | resumed hphase hend =>
    obtain hend | hend := hend
    · obtain ⟨lines, hlogs, -, hchannel⟩ := (Host.heard_interrupt (h := ⟨e.inst, w⟩) _).channel
      rw [hend] at hlogs hchannel
      exact ⟨lines, hlogs, .inl ⟨by rw [status?, status?, hphase], hchannel⟩⟩
    · obtain ⟨lines, hlogs, -, hchannel⟩ :=
        (Host.heard_conclude (s := s) (h := ⟨e.inst, w⟩) _).channel
      rw [hend] at hlogs hchannel
      exact ⟨lines, hlogs, .inl ⟨by rw [status?, status?, hphase], hchannel⟩⟩
  | ended result hworking _ =>
    obtain ⟨lines, status, hlogs, hphase, hchannel⟩ := channel_finish (s := s) e w result
    exact ⟨lines, hlogs, .inr ⟨hworking.status?_eq_none, status, hphase, hchannel⟩⟩
  | reported hphase _ =>
    exact ⟨[], (List.append_nil _).symm, .inl ⟨by rw [status?, status?, hphase]; rfl, hsilent⟩⟩

/-! ## What a move does to the shared values -/

theorem sets_of_silent (h : mark.bind Mark.call? = none) : (mark.map Mark.sets).getD [] = [] := by
  cases mark with
  | none => rfl
  | some m =>
    have hcall : m.call? = none := h
    simp [Mark.sets, hcall]

theorem store_moved (h : Moved s e w mark e' w') :
    ∃ acts, w'.store = w.store.run acts ∧
      ∀ key, Store.lastSet? key acts = Store.lastSet? key ((mark.map Mark.sets).getD []) := by
  cases h with
  | rested => exact ⟨[], rfl, fun _ => rfl⟩
  | passed _ _ _ _ hmark => exact ⟨[], rfl, fun _ => by rw [sets_of_silent hmark]⟩
  | @answered name args next h a hphase hcall =>
    obtain ⟨acts, hstore, hacts⟩ := Host.store_call s e.cancelled ⟨e.inst, w⟩ name args
    rw [hcall] at hstore
    exact ⟨acts, hstore, hacts⟩
  | @suspended name args next h on clock hphase hcall =>
    obtain ⟨acts, hstore, hacts⟩ := Host.store_call s e.cancelled ⟨e.inst, w⟩ name args
    rw [hcall] at hstore
    exact ⟨acts, hstore, hacts⟩
  | @resumed on since next h a hphase hend =>
    have hreaches : Host.Reaches (fun _ => False) ⟨e.inst, w⟩ h := by
      obtain hend | hend := hend
      · have hinterrupt : (Host.interrupt ⟨e.inst, w⟩ on).1 = h := congrArg Prod.fst hend
        exact hinterrupt ▸ Host.reaches_interrupt ⟨e.inst, w⟩ on
      · have hconclude : (Host.conclude s ⟨e.inst, w⟩ on).1 = h := congrArg Prod.fst hend
        exact hconclude ▸ Host.reaches_conclude s ⟨e.inst, w⟩ on
    obtain ⟨acts, hstore, hacts⟩ := hreaches.store
    exact ⟨acts, hstore, fun key => Store.lastSet?_eq_none fun st hst =>
      Classical.byContradiction fun hset => hacts st hst key hset⟩
  | ended result _ hmark =>
    refine ⟨[], ?_, fun _ => by rw [sets_of_silent hmark]⟩
    simp only [finish]
    split <;> rfl
  | reported _ _ => exact ⟨[], rfl, fun _ => rfl⟩

/-! ## Skipping -/

theorem skips_of_silent (h : mark.bind Mark.call? = none) : mark.any Mark.skips = false := by
  cases mark with
  | none => rfl
  | some m =>
    have hcall : m.call? = none := h
    simp [Mark.skips, hcall]

theorem skips_of_read {name args : String} {c : Call} (hread : Host.readCall name args = .ok c) :
    (Mark.called name args).skips = true ↔ c = .testSkip := by
  simp only [Mark.skips, Mark.call?, Option.map_some, hread]
  cases c <;> simp

theorem testStep?_ne_skip {c : Call} (h : c ≠ .testSkip) (s : Settings) (a : Answer) :
    c.testStep? s a ≠ some .skip := by
  unfold Call.testStep?
  split
  · simp
  · simp
  · simp
  · exact absurd rfl h
  · simp
  · intro hskip
    obtain ⟨_, -, hstep⟩ := Option.map_eq_some_iff.mp hskip
    cases hstep
  · simp

/-- A call that is answered skips the tests if it is a call for that, and only then. -/
theorem skipped_answered {cancelled : Bool} {h h' : Host} {name args : String} {a : Answer}
    (hcall : h.call s cancelled name args = (h', .answered a)) :
    h'.inst.tests.skipped = (h.inst.tests.skipped || (Mark.called name args).skips) := by
  obtain ⟨c, hread, hadds⟩ | ⟨⟨err, hread⟩, hinst⟩ := Host.adds_answered hcall
  · by_cases hc : c = .testSkip
    · subst hc
      rw [(skips_of_read hread).mpr rfl, Bool.or_true]
      rw [Host.call, hread] at hcall
      cases hcall
      rfl
    · have hnone : .skip ∉ (c.testStep? s a).toList := fun hmem =>
        testStep?_ne_skip hc s a (Option.mem_toList.mp hmem)
      rw [Bool.eq_false_iff.mpr (mt (skips_of_read hread).mp hc), hadds.tests,
        Aggregator.skipped_run, decide_eq_false hnone]
  · rw [hinst]
    simp [Mark.skips, Mark.call?, hread]

theorem skipped_moved (h : Moved s e w mark e' w') :
    e'.inst.tests.skipped = (e.inst.tests.skipped || mark.any Mark.skips) := by
  cases h with
  | rested => exact (Bool.or_false _).symm
  | passed _ _ _ _ hmark => rw [skips_of_silent hmark, Bool.or_false]
  | answered _ hcall => exact skipped_answered hcall
  | @suspended name args _ _ _ _ _ hcall =>
    obtain ⟨hinst, c, hread, hsuspending⟩ := Host.waits_suspended hcall
    have hc : c ≠ .testSkip := by
      rintro rfl
      cases hsuspending
    have hskips : (Mark.called name args).skips = false :=
      Bool.eq_false_iff.mpr (mt (skips_of_read hread).mp hc)
    dsimp only
    rw [hinst, Option.any_some, hskips, Bool.or_false]
  | @resumed on _ _ h _ _ hend =>
    have htests : h.inst.tests = e.inst.tests := by
      obtain hend | hend := hend
      · have hinst := Host.interrupt_inst ⟨e.inst, w⟩ on
        rw [hend] at hinst
        exact congrArg Instance.tests hinst
      · obtain ⟨logs, hinst⟩ := Host.logs_of_conclude s ⟨e.inst, w⟩ on
        rw [hend] at hinst
        have htests := congrArg Instance.tests hinst
        exact htests
    exact (congrArg Aggregator.skipped htests).trans (Bool.or_false _).symm
  | ended result _ hmark =>
    rw [skips_of_silent hmark, Bool.or_false]
    simp only [finish]
    split <;> rfl
  | reported _ _ => exact (Bool.or_false _).symm

/-! ## Reports -/

/-- The report of an execution, once there is one, tells what its instance has recorded. -/
def Told (s : Settings) (e : Execution) : Prop :=
  ∀ r, e.report? = some r → ∃ status, r = e.inst.report s.now status

theorem told_of_status (h : e.status? = none) : Told s e := by
  intro r hr
  unfold report? at hr
  unfold status? at h
  split at hr
  · rename_i hphase
    rw [hphase] at h
    cases h
  · cases hr

theorem told_moved (ht : Told s e) (h : Moved s e w mark e' w') : Told s e' := by
  cases h with
  | rested => exact ht
  | passed _ _ _ hphase _ => exact told_of_status (hphase _ rfl).status?_eq_none
  | answered _ _ => exact told_of_status rfl
  | suspended _ _ _ => exact told_of_status rfl
  | resumed _ _ => exact told_of_status rfl
  | ended _ _ _ =>
    intro r hr
    cases hr
  | reported _ _ =>
    intro r hr
    cases hr
    exact ⟨_, rfl⟩

theorem report_moved {r : InstanceReport} (hr : e.report? = some r) (h : Moved s e w mark e' w') :
    e' = e := by
  have hphase : e.phase = .finished r := by
    unfold report? at hr
    split at hr
    · rename_i hphase
      rw [hphase, Option.some.inj hr]
    · cases hr
  have hbusy : ¬ e.Working := by
    rintro (h | h) <;> cases h.symm.trans hphase
  cases h with
  | rested => rfl
  | passed _ _ hworking _ _ => exact absurd hworking hbusy
  | answered hphase' _ => cases hphase'.symm.trans hphase
  | suspended _ hphase' _ => cases hphase'.symm.trans hphase
  | resumed hphase' _ => cases hphase'.symm.trans hphase
  | ended _ hworking _ => exact absurd hworking hbusy
  | reported hphase' _ => cases hphase'.symm.trans hphase

theorem expire_eq (s : Settings) (clock : Nat) (e : Execution) :
    e.expire s clock = e ∨ e.expire s clock = { e with cancelled := true, timedOut := true } := by
  unfold expire
  split
  · split
    · exact .inr rfl
    · exact .inl rfl
  · exact .inl rfl

end Moves

end Execution

/-! ## What an instance was given -/

namespace Instance

theorem foldl_record_given (records : List Record) (i : Instance) :
    (records.foldl record i).number = i.number ∧ (records.foldl record i).name = i.name := by
  induction records generalizing i with
  | nil => exact ⟨rfl, rfl⟩
  | cons r rest ih =>
    obtain ⟨hnumber, hname⟩ := ih (i.record r)
    rw [List.foldl_cons, hnumber, hname]
    cases r <;> exact ⟨rfl, rfl⟩

theorem Outgrown.given {i i' : Instance} (h : i.Outgrown i') :
    i'.number = i.number ∧ i'.name = i.name := by
  obtain ⟨scope, records, rfl⟩ := h
  exact foldl_record_given records { i with scope }

end Instance

namespace Run

open Execution

variable {s : Settings} {e e' : Execution} {new : List Mark}

theorem told_becomes (ht : Told s e) (h : Becomes s e new e') : Told s e' := by
  cases h with
  | same => exact ht
  | advanced clock w => exact told_moved ht (moved_advance s clock e w)
  | elapsed clock w => exact told_moved ht (moved_elapse s clock e w)
  | expired clock =>
    obtain h | h := expire_eq s clock e <;> rw [h]
    · exact ht
    · exact ht
  | cancelled => exact ht

theorem report_becomes {r : InstanceReport} (hr : e.report? = some r) (h : Becomes s e new e') :
    e'.report? = some r ∧ e'.inst = e.inst := by
  cases h with
  | same => exact ⟨hr, rfl⟩
  | advanced clock w =>
    rw [report_moved hr (moved_advance s clock e w)]
    exact ⟨hr, rfl⟩
  | elapsed clock w =>
    rw [report_moved hr (moved_elapse s clock e w)]
    exact ⟨hr, rfl⟩
  | expired clock => obtain h | h := expire_eq s clock e <;> rw [h] <;> exact ⟨hr, rfl⟩
  | cancelled => exact ⟨hr, rfl⟩

/-- The tests are skipped by calls and by nothing else. -/
theorem skipped_becomes (h : Becomes s e new e') :
    e'.inst.tests.skipped = (e.inst.tests.skipped || new.any Mark.skips) := by
  cases h with
  | same => exact (Bool.or_false _).symm
  | advanced clock w =>
    rw [skipped_moved (moved_advance s clock e w)]
    cases e.mark? <;> simp
  | elapsed clock w => exact skipped_moved (moved_elapse s clock e w)
  | expired clock => obtain h | h := expire_eq s clock e <;> rw [h] <;> exact (Bool.or_false _).symm
  | cancelled => exact (Bool.or_false _).symm

end Run

end ScriptBench
