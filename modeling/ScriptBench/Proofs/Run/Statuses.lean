import ScriptBench.Proofs.Host.Replay
import ScriptBench.Proofs.Report.Verdicts
import ScriptBench.Run.Schedule

/-!
Statuses add up, from the calls of each instance to the whole run.

1. Whatever an execution does, the tests of its instance are those of some sequence of calls, and so
   is its report (`recorded_step`, `recorded_execute`).
2. What such reports say of blocks and statuses are facts about these calls and about how the
   instances ended (`statuses_add_up`).
-/
namespace ScriptBench

/-- The tests of an instance come from calls. -/
def Instance.Recorded (i : Instance) : Prop := ∃ calls, i.tests = Aggregator.empty.run calls

namespace Instance.Recorded

variable {i i' : Instance}

theorem of_tests (h : i.Recorded) (htests : i'.tests = i.tests) : i'.Recorded := by
  obtain ⟨calls, hcalls⟩ := h
  exact ⟨calls, htests.trans hcalls⟩

theorem of_grows {header param : Option NamedValue} {test : Option Aggregator.Step} (h : i.Recorded)
    (hgrows : Grows header param test i i') : i'.Recorded := by
  obtain ⟨calls, hcalls⟩ := h
  refine ⟨calls ++ test.toList, ?_⟩
  rw [hgrows.tests, hcalls, Aggregator.run, Aggregator.run, ← List.foldl_append, Aggregator.run]

theorem ending (h : i.Recorded) (now : Time) (status : Status) :
    ∃ e : Ending, i.report now status = e.report := by
  obtain ⟨calls, hcalls⟩ := h
  refine ⟨⟨i, calls, status, now⟩, ?_⟩
  rw [Ending.report, ← hcalls]

end Instance.Recorded

namespace Host

variable {s : Settings} {cancelled : Bool} {h h' : Host} {name argsText : String}

theorem recorded_answered {a : Answer} (hr : h.inst.Recorded)
    (hcall : h.call s cancelled name argsText = (h', .answered a)) : h'.inst.Recorded := by
  obtain ⟨c, -, hadds⟩ | ⟨-, hinst⟩ := adds_answered hcall
  · exact hr.of_grows hadds
  · exact hr.of_tests (congrArg Instance.tests hinst)

theorem recorded_suspended {on : Suspension} (hr : h.inst.Recorded)
    (hcall : h.call s cancelled name argsText = (h', .suspended on)) : h'.inst.Recorded :=
  hr.of_tests (congrArg Instance.tests (waits_suspended hcall).1)

theorem recorded_conclude (hr : h.inst.Recorded) (on : Suspension) :
    (h.conclude s on).1.inst.Recorded := by
  obtain ⟨logs, hinst⟩ := logs_of_conclude s h on
  exact hr.of_tests (by rw [hinst])

theorem recorded_interrupt (hr : h.inst.Recorded) (on : Suspension) :
    (h.interrupt on).1.inst.Recorded :=
  hr.of_tests (congrArg Instance.tests (interrupt_inst h on))

end Host

/-! ## Executions -/

/-- The tests of an execution come from calls, those in its report too. -/
structure Execution.Recorded (e : Execution) : Prop where
  inst : e.inst.Recorded
  report : ∀ r, e.report? = some r → ∃ ending : Ending, r = ending.report

namespace Execution

variable {s : Settings} {clock : Nat} {e : Execution} {w : World}

theorem recorded_start (number clock : Nat) (setup : Setup) (chain : List Scope) :
    (start number clock setup chain).Recorded where
  inst := ⟨[], rfl⟩
  report r hr := by cases hr

theorem recorded_goOn {h : Host} (hr : h.inst.Recorded) (p : Program) :
    (e.goOn h p).1.Recorded where
  inst := hr
  report r hreport := by cases hreport

theorem recorded_finish (hr : e.Recorded) (result : Except ScriptError Unit) :
    (e.finish s w result).1.Recorded where
  inst := by
    simp only [finish]
    split
    · exact hr.inst
    · exact hr.inst.of_tests rfl
  report r hreport := by cases hreport

theorem recorded_advance (hr : e.Recorded) : (e.advance s clock w).1.Recorded := by
  unfold advance
  dsimp only
  split
  · exact hr
  · rename_i status _
    split
    · exact hr
    · refine ⟨hr.inst, fun r hreport => ?_⟩
      cases hreport
      exact hr.inst.ending s.now status
  · split
    · exact recorded_finish hr _
    · split
      · exact recorded_finish hr _
      · exact recorded_goOn (hr.inst.of_tests rfl) _
  · split
    · rename_i hcall
      exact recorded_goOn (Host.recorded_answered hr.inst hcall) _
    · rename_i hcall
      exact ⟨Host.recorded_suspended hr.inst hcall, fun r hreport => by cases hreport⟩
  · split
    · exact ⟨hr.inst, fun r hreport => by cases hreport⟩
    · exact recorded_finish hr _
  · split
    · exact recorded_goOn hr.inst _
    · exact hr
  · split
    · exact recorded_goOn (Host.recorded_interrupt hr.inst _) _
    · split
      · split
        · exact recorded_goOn (Host.recorded_conclude hr.inst _) _
        · exact hr
      · exact hr

theorem recorded_elapse (hr : e.Recorded) : (e.elapse s clock w).1.Recorded := by
  unfold elapse
  split
  · split
    · exact recorded_goOn (Host.recorded_conclude hr.inst _) _
    · exact hr
  · exact hr

theorem recorded_expire (hr : e.Recorded) : (e.expire s clock).Recorded := by
  unfold expire
  split
  · split
    · exact ⟨hr.inst, hr.report⟩
    · exact hr
  · exact hr

end Execution

/-! ## Runs -/

/-- All tests of a run come from calls. -/
def Run.Recorded (r : Run) : Prop := ∀ e ∈ r.executions, e.Recorded

namespace Run

variable {s : Settings} {r : Run}

theorem recorded_act (hr : r.Recorded) (i : Nat) (f : Execution → World → Execution × World)
    (hf : ∀ e, e.Recorded → (f e r.world).1.Recorded) : (r.act i f).Recorded := by
  unfold act
  split
  · exact hr
  · rename_i e he
    intro d hd
    rcases List.mem_or_eq_of_mem_set hd with hd | rfl
    · exact hr d hd
    · exact hf e (hr e (List.mem_of_getElem? he))

theorem recorded_step (hr : r.Recorded) (m : Move) : (r.step s m).Recorded := by
  cases m with
  | start setup chain =>
    intro e he
    rcases List.mem_append.mp he with he | he
    · exact hr e he
    · rw [List.mem_singleton.mp he]
      exact Execution.recorded_start _ _ setup chain
  | advance i => exact recorded_act hr i _ fun e he => Execution.recorded_advance he
  | elapse i => exact recorded_act hr i _ fun e he => Execution.recorded_elapse he
  | expire i => exact recorded_act hr i _ fun e he => Execution.recorded_expire he
  | cancel i => exact recorded_act hr i _ fun e he => ⟨he.inst, he.report⟩
  | share key value => exact hr
  | pass ms => exact hr
  | receive => exact hr
  | unwatch => exact hr

theorem recorded_follow (hr : r.Recorded) (moves : List Move) : (r.follow s moves).Recorded := by
  induction moves generalizing r with
  | nil => exact hr
  | cons m rest ih => exact ih (recorded_step hr m)

theorem recorded_settle (hr : r.Recorded) (fuel : Nat) : (r.settle s fuel).Recorded := by
  induction fuel generalizing r with
  | zero => exact hr
  | succ fuel ih =>
    rw [settle]
    split
    · exact ih (recorded_follow hr _)
    · exact hr

theorem recorded_carry (hr : r.Recorded) (goal : Run → Bool) (fuel : Nat) :
    (r.carry s goal fuel).Recorded := by
  induction fuel generalizing r with
  | zero => exact hr
  | succ fuel ih =>
    have hsettled := recorded_settle (s := s) hr r.enough
    rw [carry]
    split
    · exact hsettled
    · split
      · exact hsettled
      · exact ih (recorded_follow hsettled _)

theorem recorded_await (hr : r.Recorded) (i : Nat) : (r.await s i).Recorded := by
  unfold await carryOn
  split
  · exact hr
  · exact recorded_carry hr _ _

theorem recorded_awaits (hr : r.Recorded) (mine : List Nat) :
    (mine.foldl (await s) r).Recorded := by
  induction mine generalizing r with
  | nil => exact hr
  | cons i rest ih => exact ih (recorded_await hr i)

theorem endings_of_recorded (hr : r.Recorded) (mine : List Nat) :
    ∃ run : List Ending, mine.filterMap r.report? = run.map (·.report) := by
  induction mine with
  | nil => exact ⟨[], rfl⟩
  | cons i rest ih =>
    obtain ⟨run, hrun⟩ := ih
    rw [List.filterMap_cons]
    cases hreport : r.report? i with
    | none => exact ⟨run, hrun⟩
    | some report =>
      obtain ⟨e, he, hreport⟩ := Option.bind_eq_some_iff.mp hreport
      obtain ⟨ending, rfl⟩ := (hr e (List.mem_of_getElem? he)).report report hreport
      exact ⟨ending :: run, by rw [List.map_cons, ← hrun]⟩

/-- The report of a run is made of endings. -/
theorem recorded_execute (hr : r.Recorded) (instances : List (Setup × List Scope)) :
    ∃ (run : List Ending) (shared : List (String × Json)),
      (r.execute s instances).2 = .ofInstances .nil (run.map (·.report)) shared := by
  let mine := (List.range instances.length).map (r.executions.length + ·)
  let started := r.follow s (instances.map fun i => .start i.1 i.2)
  have hended : (mine.foldl (await s) started).Recorded :=
    recorded_awaits (recorded_follow hr _) mine
  obtain ⟨run, hrun⟩ := endings_of_recorded hended mine
  refine ⟨run, (mine.foldl (await s) started).world.store.snapshot, ?_⟩
  rw [← hrun]
  rfl

end Run

open TestBlock (subtrees)

/-- In every report of a run, a block has the status of the records in it, or that of a skip, which
changes nothing else; and the status of the run is the skip, the failure or the test of one of its
instances. -/
theorem statuses_add_up :
    (∀ (s : Settings) (w : World) (moves : List Run.Move) (instances : List (Setup × List Scope)),
      ∃ (run : List Ending) (shared : List (String × Json)),
        (Run.execute s ((Run.ofWorld w).follow s moves) instances).2 =
          .ofInstances .nil (run.map (·.report)) shared) ∧
      ∀ (id : Identity) (shared : List (String × Json)) (run : List Ending),
        (∀ e ∈ run, ¬ e.Skipped → ∀ b ∈ subtrees e.report.tests.blocks, b.Judged) ∧
        (∀ e ∈ run, e.Skipped →
          (∀ b ∈ subtrees e.report.tests.blocks, b.skip = true ∧ b.status = .skip) ∧
            e.report.tests.SameRecords e.unskipped.report.tests) ∧
        let status := (RunReport.ofInstances id (run.map (·.report)) shared).status
        let skipped := ∃ e ∈ run, e.Skipped
        let failed := ∃ e ∈ run, e.Failed
        let tested := ∃ e ∈ run, e.Tested
        (status = .skip ↔ skipped) ∧ (¬ skipped → (status = .fail ↔ failed)) ∧
          (¬ skipped → ¬ failed → (status = .pass ↔ tested)) ∧
          (¬ skipped → ¬ failed → ¬ tested → status = .none) := by
  refine ⟨fun s w moves instances => ?_, fun id shared run => ⟨fun e _ h => Ending.judged_report h,
    fun e _ h => Ending.report_skipped h, ?_⟩⟩
  · have hempty : (Run.ofWorld w).Recorded := by simp [Run.Recorded, Run.ofWorld]
    exact Run.recorded_execute (Run.recorded_follow hempty moves) instances
  · have hamounts := RunReport.amounts id shared run
    exact ⟨hamounts.eq_skip_iff, hamounts.eq_fail_iff, hamounts.eq_pass_iff, hamounts.none⟩

end ScriptBench
