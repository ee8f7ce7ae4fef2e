import Mathlib.Data.List.Forall2
import ScriptBench.Proofs.Run.Moves
import ScriptBench.Proofs.Shared.Snapshot
import ScriptBench.Run.Gathering

/-!
What is gathered from a run, under any schedule.

1. An execution lives by moves, each of which leaves its mark (`Execution.Life`). Whatever the
   marks, it keeps the name it was given, its report tells what it has recorded, and its tests are
   skipped if a mark says so.
2. Whoever gathers has started the instances in their order, each in an execution of its own, and
   has the report of each at its place (`Gathered`, kept by every step: `gathered_step`).
3. The shared values are those of the steps that set them: calls of instances, and what is done by
   others (`store_follow`).
4. So the report of the run is what the executions have recorded and what was set last
   (`reported_of_conclude`).
-/
namespace ScriptBench

open Execution

/-! ## Lives -/

/-- What an execution can have become by moves that leave these marks. -/
inductive Execution.Life (s : Settings) (first : Execution) : List Mark → Execution → Prop where
  | start : Life s first [] first
  | step {marks new : List Mark} {e e' : Execution} (h : Life s first marks e)
    (hbecomes : Run.Becomes s e new e') :
    Life s first (marks ++ new) e'

namespace Execution.Life

variable {s : Settings} {number clock : Nat} {setup : Setup} {chain : List Scope}
  {marks : List Mark} {e : Execution}

theorem given (h : Life s (.start number clock setup chain) marks e) :
    e.inst.number = number ∧ e.inst.name = setup.name := by
  induction h with
  | start => exact ⟨rfl, rfl⟩
  | step _ hbecomes ih =>
    obtain ⟨hnumber, hname⟩ := (Run.outgrown_becomes hbecomes).given
    exact ⟨hnumber.trans ih.1, hname.trans ih.2⟩

theorem told (h : Life s (.start number clock setup chain) marks e) : Told s e := by
  induction h with
  | start => exact told_of_status rfl
  | step _ hbecomes ih => exact Run.told_becomes ih hbecomes

theorem skipped (h : Life s (.start number clock setup chain) marks e) :
    e.inst.tests.skipped = marks.any Mark.skips := by
  induction h with
  | start => rfl
  | step _ hbecomes ih => rw [Run.skipped_becomes hbecomes, ih, List.any_append]

end Execution.Life

theorem Instance.skipped_report (i : Instance) (now : Time) (status : Status) :
    (i.report now status).tests.skipped = i.tests.skipped := by
  have htests : (i.tests.report now).skipped = i.tests.skipped := by
    rw [Aggregator.report]
    split <;> rfl
  rw [report, ← htests]
  dsimp only
  split <;> rfl

namespace Gathering

/-! ## What shows of a step -/

/-- What shows of an execution at a step. -/
def shown (g : Gathering) (i : Nat) : Step → List Mark
  | .move m => g.run.shown i m
  | _ => []

/-- What shows of an execution while steps are followed. -/
def marks (s : Settings) (i : Nat) : Gathering → List Step → List Mark
  | _, [] => []
  | g, st :: rest => g.shown i st ++ marks s i (g.step s st) rest

/-- The shared values that a step sets, by the call of an instance or from outside. -/
def setsOf (g : Gathering) : Step → List Store.Step
  | .move (.advance i) => ((g.run.executions[i]?.bind mark?).map Mark.sets).getD []
  | .move (.share key value) => [.set key value]
  | .use (.set key value) => [.set key value]
  | _ => []

/-- The shared values that are set while steps are followed, in their order. -/
def sets (s : Settings) : Gathering → List Step → List Store.Step
  | _, [] => []
  | g, st :: rest => g.setsOf st ++ sets s (g.step s st) rest

variable {s : Settings} {g : Gathering} {instances : List (Setup × List Scope)}
  {marked : Nat → List Mark}

theorem follow_append (g : Gathering) (xs ys : List Step) :
    g.follow s (xs ++ ys) = (g.follow s xs).follow s ys :=
  List.foldl_append

theorem becomes_step {i : Nat} {e : Execution} (he : g.run.executions[i]? = some e) (st : Step) :
    ∃ e', (g.step s st).run.executions[i]? = some e' ∧ Run.Becomes s e (g.shown i st) e' := by
  cases st with
  | spawn =>
    rw [step]
    split
    · exact ⟨e, he, .same⟩
    · exact Run.becomes_step he (.start _ _)
  | join =>
    rw [step]
    split <;> exact ⟨e, he, .same⟩
  | conclude =>
    rw [step]
    split <;> exact ⟨e, he, .same⟩
  | move m => exact Run.becomes_step he m
  | use st => exact ⟨e, he, .same⟩

theorem length_step (g : Gathering) (st : Step) :
    g.run.executions.length ≤ (g.step s st).run.executions.length := by
  refine Nat.le_of_not_lt fun hlt => ?_
  obtain ⟨e', he', -⟩ := becomes_step (s := s) (List.getElem?_eq_getElem hlt) st
  exact Nat.lt_irrefl _ (List.getElem?_eq_some_iff.mp he').1

theorem shown_eq_nil {i : Nat} (hi : g.run.executions.length ≤ i) (st : Step) :
    g.shown i st = [] := by
  have hnone : g.run.executions[i]? = none := List.getElem?_eq_none hi
  cases st with
  | move m =>
    cases m with
    | advance j =>
      rw [shown, Run.shown, hnone]
      split <;> rfl
    | _ => rfl
  | _ => rfl

/-! ## Instances -/

/-- The execution of an instance, alive since it was started. -/
def Lives (s : Settings) (r : Run) (marked : Nat → List Mark) (i : Nat)
    (given : Setup × List Scope) : Prop :=
  ∃ clock e, r.executions[i]? = some e ∧ Life s (.start i clock given.1 given.2) (marked i) e

/-- What holds while reports are gathered, given what showed of the executions. -/
structure Gathered (s : Settings) (instances : List (Setup × List Scope)) (marked : Nat → List Mark)
    (g : Gathering) : Prop where
  /-- Those that were started live in their executions. -/
  started : ∃ done, instances = done ++ g.coming ∧
    List.Forall₂ (Lives s g.run marked) g.started done
  /-- Each in one of its own. -/
  apart : g.started.Pairwise (· < ·)
  reports : ∀ (k : Nat) (report : InstanceReport), g.reports[k]? = some report →
    ∃ i, g.started[k]? = some i ∧ g.run.report? i = some report
  /-- Nothing shows of what is not there. -/
  unmarked : ∀ i, g.run.executions.length ≤ i → marked i = []

theorem gathered_ofRun (s : Settings) (r : Run) (instances : List (Setup × List Scope)) :
    Gathered s instances (fun _ => []) (ofRun r instances) where
  started := ⟨[], rfl, .nil⟩
  apart := .nil
  reports k report hreport := by cases hreport
  unmarked i hi := rfl

theorem Lives.step {i : Nat} {given : Setup × List Scope} (h : Lives s g.run marked i given)
    (st : Step) :
    Lives s (g.step s st).run (fun i => marked i ++ g.shown i st) i given := by
  obtain ⟨clock, e, he, hlife⟩ := h
  obtain ⟨e', he', hbecomes⟩ := becomes_step (s := s) he st
  exact ⟨clock, e', he', hlife.step hbecomes⟩

theorem Lives.lt {r : Run} {i : Nat} {given : Setup × List Scope} (h : Lives s r marked i given) :
    i < r.executions.length := by
  obtain ⟨clock, e, he, -⟩ := h
  exact (List.getElem?_eq_some_iff.mp he).1

theorem Gathered.exists_lives (h : Gathered s instances marked g) {i : Nat} (hi : i ∈ g.started) :
    ∃ given, Lives s g.run marked i given := by
  obtain ⟨done, -, hlives⟩ := h.started
  obtain ⟨k, hk, rfl⟩ := List.mem_iff_getElem.mp hi
  obtain ⟨hlength, hget⟩ := List.forall₂_iff_get.mp hlives
  exact ⟨_, hget k hk (hlength ▸ hk)⟩

theorem report?_step {i : Nat} {report : InstanceReport} (h : g.run.report? i = some report)
    (st : Step) :
    (g.step s st).run.report? i = some report := by
  obtain ⟨e, he, hreport⟩ := Option.bind_eq_some_iff.mp h
  obtain ⟨e', he', hbecomes⟩ := becomes_step (s := s) he st
  rw [Run.report?, he', Option.bind_some, (Run.report_becomes hreport hbecomes).1]

theorem Gathered.kept (h : Gathered s instances marked g) (st : Step)
    (hstarted : (g.step s st).started = g.started) (hcoming : (g.step s st).coming = g.coming)
    (hreports : (g.step s st).reports = g.reports) :
    Gathered s instances (fun i => marked i ++ g.shown i st) (g.step s st) where
  started := by
    obtain ⟨done, hdone, hlives⟩ := h.started
    rw [hstarted, hcoming]
    exact ⟨done, hdone, hlives.imp fun _ _ hlives => hlives.step st⟩
  apart := hstarted ▸ h.apart
  reports k report hreport := by
    rw [hreports] at hreport
    obtain ⟨i, hi, hreport⟩ := h.reports k report hreport
    exact ⟨i, hstarted ▸ hi, report?_step hreport st⟩
  unmarked i hi := by
    have hi : g.run.executions.length ≤ i := Nat.le_trans (length_step g st) hi
    rw [h.unmarked i hi, shown_eq_nil hi]
    rfl

theorem gathered_spawn (h : Gathered s instances marked g) :
    Gathered s instances (fun i => marked i ++ g.shown i .spawn) (g.step s .spawn) := by
  cases hcoming : g.coming with
  | nil =>
    have hsame : g.step s .spawn = g := by rw [step, hcoming]
    exact h.kept .spawn (by rw [hsame]) (by rw [hsame]) (by rw [hsame])
  | cons given rest =>
    obtain ⟨setup, chain⟩ := given
    have hstep : g.step s .spawn =
        { g with
          run := g.run.step s (.start setup chain)
          coming := rest
          started := g.started ++ [g.run.executions.length] } := by rw [step, hcoming]
    obtain ⟨done, hdone, hlives⟩ := h.started
    have hold : List.Forall₂ (Lives s (g.step s .spawn).run fun i => marked i ++ g.shown i .spawn)
        g.started done :=
      hlives.imp fun _ _ hlives => hlives.step .spawn
    have hnew : Lives s (g.step s .spawn).run (fun i => marked i ++ g.shown i .spawn)
      g.run.executions.length
        (setup, chain) := by
      refine ⟨g.run.clock, .start g.run.executions.length g.run.clock setup chain, ?_, ?_⟩
      · rw [hstep]
        exact List.getElem?_concat_length
      · dsimp only
        rw [h.unmarked _ (Nat.le_refl _), shown_eq_nil (Nat.le_refl _)]
        exact .start
    -- its number is larger than all numbers so far, so it is apart from those that were started
    -- before
    refine ⟨⟨done ++ [(setup, chain)], ?_, ?_⟩, ?_, fun k report hreport => ?_, fun i hi => ?_⟩
    · rw [hstep, hdone, hcoming, List.append_assoc]
      rfl
    · rw [hstep] at hold hnew ⊢
      exact List.rel_append hold (.cons hnew .nil)
    · rw [hstep]
      refine List.pairwise_append.mpr ⟨h.apart, List.pairwise_singleton _ _, fun i hi j hj => ?_⟩
      rw [List.mem_singleton.mp hj]
      obtain ⟨given, hlives⟩ := h.exists_lives hi
      exact hlives.lt
    · have hreport : g.reports[k]? = some report := by rwa [hstep] at hreport
      obtain ⟨i, hi, hreport⟩ := h.reports k report hreport
      refine ⟨i, ?_, report?_step hreport .spawn⟩
      rw [hstep]
      exact List.getElem?_append_left (List.getElem?_eq_some_iff.mp hi).1 |>.trans hi
    · have hi : g.run.executions.length ≤ i := Nat.le_trans (length_step g .spawn) hi
      rw [h.unmarked i hi, shown_eq_nil hi]
      rfl

theorem gathered_join (h : Gathered s instances marked g) :
    Gathered s instances (fun i => marked i ++ g.shown i .join) (g.step s .join) := by
  by_cases hjoin : g.coming = [] ∧
    ∃ report, g.started[g.reports.length]?.bind g.run.report? = some report
  · obtain ⟨hcoming, report, hreport⟩ := hjoin
    have hstep : g.step s .join = { g with reports := g.reports ++ [report] } := by
      rw [step, hcoming, hreport]
    have hkept : Gathered s instances (fun i => marked i ++ g.shown i .join) g := by
      have hshown : ∀ i, g.shown i .join = [] := fun _ => rfl
      simpa only [hshown, List.append_nil] using h
    rw [hstep]
    refine ⟨hkept.started, hkept.apart, fun k report' hreport' => ?_, hkept.unmarked⟩
    rcases Nat.lt_or_ge k g.reports.length with hk | hk
    · exact hkept.reports k report' ((List.getElem?_append_left hk).symm.trans hreport')
    · -- the report that was taken last
      rw [List.getElem?_append_right hk, List.getElem?_singleton] at hreport'
      split at hreport'
      · rename_i hlast
        cases hreport'
        obtain rfl : k = g.reports.length := Nat.le_antisymm (Nat.sub_eq_zero_iff_le.mp hlast) hk
        exact Option.bind_eq_some_iff.mp hreport
      · cases hreport'
  · have hsame : g.step s .join = g := by
      rw [step]
      split
      · rename_i hcoming hreport
        exact absurd ⟨hcoming, _, hreport⟩ hjoin
      · rfl
    exact h.kept .join (by rw [hsame]) (by rw [hsame]) (by rw [hsame])

theorem gathered_step (h : Gathered s instances marked g) (st : Step) :
    Gathered s instances (fun i => marked i ++ g.shown i st) (g.step s st) := by
  cases st with
  | spawn => exact gathered_spawn h
  | join => exact gathered_join h
  | conclude =>
    refine h.kept .conclude ?_ ?_ ?_
    all_goals
      rw [step]
      split <;> rfl
  | move m => exact h.kept (.move m) rfl rfl rfl
  | use st => exact h.kept (.use st) rfl rfl rfl

theorem gathered_follow (h : Gathered s instances marked g) (steps : List Step) :
    Gathered s instances (fun i => marked i ++ g.marks s i steps) (g.follow s steps) := by
  induction steps generalizing g marked with
  | nil =>
    simp only [marks, List.append_nil]
    exact h
  | cons st rest ih =>
    have hrest := ih (gathered_step h st)
    simp only [List.append_assoc] at hrest
    exact hrest

/-! ## Shared values -/

/-- What a step does to the shared values is what it sets. -/
theorem store_step (s : Settings) (g : Gathering) (st : Step) :
    ∃ acts, (g.step s st).run.world.store = g.run.world.store.run acts ∧
      ∀ key, Store.lastSet? key acts = Store.lastSet? key (g.setsOf st) := by
  -- a step that sets nothing, and so leaves the store
  have hsame : ∀ r : Run, r.world.store = g.run.world.store → ∃ acts, r.world.store =
    g.run.world.store.run acts ∧
      ∀ key, Store.lastSet? key acts = Store.lastSet? key [] := fun r hstore =>
        ⟨[], hstore, fun _ => rfl⟩
  cases st with
  | spawn =>
    rw [step]
    split <;> exact hsame _ rfl
  | join =>
    rw [step]
    split <;> exact hsame _ rfl
  | conclude =>
    rw [step]
    split <;> exact hsame _ rfl
  | use st =>
    refine ⟨[st], rfl, fun key => ?_⟩
    cases st <;> rfl
  | move m =>
    -- of the moves of a run only calls, and values shared from outside, set anything
    cases m with
    | advance i =>
      rw [step, setsOf, Run.step, Run.act]
      cases he : g.run.executions[i]? with
      | none => exact hsame _ rfl
      | some e => exact store_moved (moved_advance s g.run.clock e g.run.world)
    | elapse i =>
      rw [step, Run.step, Run.act]
      cases he : g.run.executions[i]? with
      | none => exact hsame _ rfl
      | some e => exact store_moved (moved_elapse s g.run.clock e g.run.world)
    | expire i =>
      rw [step, Run.step, Run.act]
      split <;> exact hsame _ rfl
    | cancel i =>
      rw [step, Run.step, Run.act]
      split <;> exact hsame _ rfl
    | share key value => exact ⟨[.set key value], rfl, fun _ => rfl⟩
    | start setup chain => exact hsame _ rfl
    | pass ms => exact hsame _ rfl
    | receive => exact hsame _ rfl
    | unwatch => exact hsame _ rfl

theorem store_follow (s : Settings) (g : Gathering) (steps : List Step) :
    ∃ acts, (g.follow s steps).run.world.store = g.run.world.store.run acts ∧
      ∀ key, Store.lastSet? key acts = Store.lastSet? key (g.sets s steps) := by
  induction steps generalizing g with
  | nil => exact ⟨[], rfl, fun _ => rfl⟩
  | cons st rest ih =>
    obtain ⟨acts, hstore, hacts⟩ := store_step s g st
    obtain ⟨acts', hstore', hacts'⟩ := ih (g.step s st)
    refine ⟨acts ++ acts', ?_, fun key => ?_⟩
    · rw [Store.run_append, ← hstore]
      exact hstore'
    · rw [sets, Store.lastSet?_append, Store.lastSet?_append, hacts, hacts']

/-! ## The report of the run -/

/-- What the report of a run tells that was gathered by some steps, from a store that clients had
reached by some steps before. -/
structure Reported (s : Settings) (instances : List (Setup × List Scope)) (early : List Store.Step)
    (g : Gathering) (steps : List Step) (report : RunReport) : Prop where
  /-- Each instance has run in an execution of its own. -/
  started : (g.follow s steps).started.length = instances.length ∧
    (g.follow s steps).started.Pairwise (· < ·)
  /-- There is one report for each instance, and no other. -/
  count : report.instances.length = instances.length
  /-- The report of an instance is at its place, has its name, and tells what its execution has
  recorded. -/
  each : ∀ (k : Nat) (given : Setup × List Scope), instances[k]? = some given → ∃ i clock e status,
    (g.follow s steps).started[k]? = some i ∧ (g.follow s steps).run.executions[i]? = some e ∧
      Life s (.start i clock given.1 given.2) (g.marks s i steps) e ∧
      report.instances[k]? = some (e.inst.report s.now status) ∧
      e.report? = some (e.inst.report s.now status) ∧
        (e.inst.report s.now status).name = given.1.name
  /-- The run is skipped if and only if one of its instances has called for that. -/
  skipped : report.skipped = true ↔
    ∃ i ∈ (g.follow s steps).started, ∃ m ∈ g.marks s i steps, m.skips = true
  /-- The shared values are the last ones set, as they are read back. -/
  shared : ∀ key v, (key, v) ∈ report.shared ↔
    ∃ x, Store.lastSet? key (early ++ g.sets s steps) = some x ∧ v = Store.decode x.text
  /-- A value without doubles is read back as it is, unless it is nested too deep. -/
  plain : ∀ key x, Store.lastSet? key (early ++ g.sets s steps) = some x → x.Plain → x.InKeyOrder →
    (key, if x.depth ≤ 127 then x else .null) ∈ report.shared
  keys : KeyMap.Ordered report.shared

variable {report : RunReport} {steps : List Step}

theorem of_conclude (hnone : g.result = none) (h : (g.step s .conclude).result = some report) :
    g.coming = [] ∧ g.reports.length = g.started.length ∧
      report = .ofInstances .nil g.reports g.run.world.store.snapshot := by
  rw [step] at h
  split at h
  · rename_i hready
    simp only [Bool.and_eq_true, List.isEmpty_iff, beq_iff_eq] at hready
    exact ⟨hready.1.2, hready.2, (Option.some.inj h).symm⟩
  · rw [hnone] at h
    cases h

/-- With all reports taken, everything that is at a place belongs together. -/
theorem Gathered.place (h : Gathered s instances marked g) (hcoming : g.coming = [])
    (hall : g.reports.length = g.started.length) {k i : Nat} (hi : g.started[k]? = some i) :
    ∃ given clock e status, instances[k]? = some given ∧ g.run.executions[i]? = some e ∧
      Life s (.start i clock given.1 given.2) (marked i) e ∧ g.reports[k]? =
        some (e.inst.report s.now status) ∧
      e.report? = some (e.inst.report s.now status) := by
  obtain ⟨done, hdone, hlives⟩ := h.started
  rw [hcoming, List.append_nil] at hdone
  subst hdone
  obtain ⟨hk, rfl⟩ := List.getElem?_eq_some_iff.mp hi
  obtain ⟨hlength, hget⟩ := List.forall₂_iff_get.mp hlives
  obtain ⟨clock, e, he, hlife⟩ := hget k hk (hlength ▸ hk)
  obtain ⟨report, hreport⟩ : ∃ report, g.reports[k]? = some report :=
    ⟨_, List.getElem?_eq_getElem (hall ▸ hk)⟩
  obtain ⟨i, hi', htaken⟩ := h.reports k report hreport
  obtain rfl : g.started[k] = i := Option.some.inj (hi.symm.trans hi')
  have htaken : e.report? = some report := by
    rw [Run.report?] at htaken
    exact (congrArg (Option.bind · Execution.report?) he).symm.trans htaken
  obtain ⟨status, htold⟩ := hlife.told _ htaken
  rw [htold] at hreport htaken
  exact ⟨_, clock, e, status, List.getElem?_eq_getElem (hlength ▸ hk), he, hlife, hreport, htaken⟩

/-- With all reports taken, one of them is skipped exactly if a call of its instance was for
that. -/
theorem Gathered.skipped_iff (h : Gathered s instances marked g) (hcoming : g.coming = [])
    (hall : g.reports.length = g.started.length) :
    g.reports.any (·.tests.skipped) = true ↔ ∃ i ∈ g.started, ∃ m ∈ marked i, m.skips = true := by
  rw [List.any_eq_true]
  constructor
  · rintro ⟨report, hmem, hskipped⟩
    obtain ⟨k, hk, rfl⟩ := List.mem_iff_getElem.mp hmem
    obtain ⟨given, clock, e, status, -, -, hlife, hreport, -⟩ :=
      h.place hcoming hall (List.getElem?_eq_getElem (hall ▸ hk))
    rw [List.getElem?_eq_getElem hk] at hreport
    rw [Option.some.inj hreport, Instance.skipped_report, hlife.skipped,
      List.any_eq_true] at hskipped
    exact ⟨_, List.getElem_mem _, hskipped⟩
  · rintro ⟨i, hi, hmarks⟩
    obtain ⟨k, hk, rfl⟩ := List.mem_iff_getElem.mp hi
    obtain ⟨given, clock, e, status, -, -, hlife, hreport, -⟩ :=
      h.place hcoming hall (List.getElem?_eq_getElem hk)
    refine ⟨_, List.mem_of_getElem? hreport, ?_⟩
    rw [Instance.skipped_report, hlife.skipped, List.any_eq_true]
    exact hmarks

/-- The shared values have come about by what was done before and what the steps set. -/
theorem store_reached (s : Settings) {early : List Store.Step}
    (hg : g.run.world.store = Store.empty.run early) (steps : List Step) :
    ∃ acts, (g.follow s steps).run.world.store = Store.empty.run acts ∧
      ∀ key, Store.lastSet? key acts = Store.lastSet? key (early ++ g.sets s steps) := by
  obtain ⟨acts, hstore, hacts⟩ := store_follow s g steps
  refine ⟨early ++ acts, ?_, fun key => ?_⟩
  · rw [hstore, hg, Store.run_append]
  · rw [Store.lastSet?_append, Store.lastSet?_append, hacts]

/-- The report of a run, whenever it is made. -/
theorem reported_of_conclude {early : List Store.Step} {visits : Visits}
    {channel : Option (Channel Event)}
    (hnone : ((ofRun (.ofWorld ⟨Store.empty.run early, visits, channel⟩) instances).follow s
      steps).result = none)
    (h : ((ofRun (.ofWorld ⟨Store.empty.run early, visits, channel⟩) instances).follow s
      (steps ++ [.conclude])).result = some report) :
    Reported s instances early (ofRun (.ofWorld ⟨Store.empty.run early, visits, channel⟩) instances)
    steps report := by
  generalize hg : ofRun (.ofWorld ⟨Store.empty.run early, visits, channel⟩)
    instances = g at hnone h ⊢
  have hgathered : Gathered s instances (fun i => g.marks s i steps) (g.follow s steps) := by
    subst hg
    exact gathered_follow (gathered_ofRun s _ instances) steps
  rw [follow_append] at h
  obtain ⟨hcoming, hall, rfl⟩ := of_conclude (s := s) hnone h
  have hlength : (g.follow s steps).started.length = instances.length := by
    obtain ⟨done, hdone, hlives⟩ := hgathered.started
    rw [hdone, hcoming, List.append_nil, hlives.length_eq]
  obtain ⟨acts, hstore, hacts⟩ := store_reached s (g := g) (by rw [← hg]; rfl) steps
  have hshared : ∀ key v, (key, v) ∈ (g.follow s steps).run.world.store.snapshot ↔
      ∃ x, Store.lastSet? key (early ++ g.sets s steps) = some x ∧ v = Store.decode x.text := by
    intro key v
    rw [hstore, Store.mem_snapshot_run, hacts]
  refine
    { started := ⟨hlength, hgathered.apart⟩
      count := hall.trans hlength
      each := fun k given hgiven => ?_
      skipped := hgathered.skipped_iff hcoming hall
      shared := hshared
      plain := fun key x hx hplain hkeys =>
        (hshared key _).mpr ⟨x, hx, (Store.decode_text hplain hkeys).symm⟩
      keys := ?_ }
  · have hk : k < (g.follow s steps).started.length :=
      hlength ▸ (List.getElem?_eq_some_iff.mp hgiven).1
    obtain ⟨given', clock, e, status, hgiven', he, hlife, hreport, htaken⟩ :=
      hgathered.place hcoming hall (List.getElem?_eq_getElem hk)
    obtain rfl : given = given' := Option.some.inj (hgiven.symm.trans hgiven')
    exact ⟨_, clock, e, status, List.getElem?_eq_getElem hk, he, hlife, hreport,
      htaken, hlife.given.2⟩
  · show KeyMap.Ordered (g.follow s steps).run.world.store.snapshot
    rw [hstore]
    exact Store.ordered_snapshot (Store.ordered_run .nil acts)

end Gathering

end ScriptBench
