import ScriptBench.Proofs.Run.Chains
import ScriptBench.Proofs.Script.Endings

/-!
A chain of scopes stops at the first that fails, and loses nothing.

1. What the report says of a chain that stopped early is what the last line of its log says, and
   everything that was recorded until then is in it (`aborted_report`).
2. As soon as a chain is over the next move makes its report, and the report tells of the first
   failure, of the scope that was not entered, or of neither (`concluded_of_over`).
3. All of it together, for every run (`chain_stops_at_first_failure`). A script fails as its body
   does, save that one that threw what has no text for the host counts as settled
   (`unread_failure_goes_on`).
-/
namespace ScriptBench

open Execution Run

/-! ## Reports -/

/-- The report of a chain that stopped early for a reason, with what the instance held by then. -/
structure Aborted (s : Settings) (left : Instance) (err : ScriptError) (report : InstanceReport) :
    Prop where
  kept : report = (left.withFailure s err).report s.now (.ofOutcome (.error err))
  failed : report.status ≠ .success
  line : report.logs = left.logs ++ [⟨.error, s.now, left.scope, err.message⟩]
  reason : report.abortReason = some err.message

/-- The reason for which a chain stopped is told twice, and the same way. -/
theorem abortReason_ofOutcome (err : ScriptError) :
    (Status.ofOutcome (.error err)).abortReason = some err.message := by
  cases err <;> rfl

theorem ofOutcome_error_ne_success (err : ScriptError) :
    Status.ofOutcome (.error err) ≠ .success := by
  cases err <;> exact Status.noConfusion

theorem aborted_report (s : Settings) (left : Instance) (err : ScriptError) :
    Aborted s left err ((left.withFailure s err).report s.now (.ofOutcome (.error err))) :=
  ⟨rfl, ofOutcome_error_ne_success err, rfl, abortReason_ofOutcome err⟩

/-- What a report tells of the end of its chain, with the marks that led there. -/
inductive Concluded (s : Settings) (chain : List Scope) (cancelled : Bool) :
    List Mark → InstanceReport → Prop where
  /-- The scripts of some scopes settled, that of the next one failed. -/
  | failed {done rest : List Scope} {scope : Scope} {marks : List Mark}
    {calls : List (String × String)}
    {outcome : Outcome} {err : ScriptError} {left : Instance} {report : InstanceReport}
    (hchain : chain = done ++ scope :: rest) (hpassed : Passed done marks)
    (hcalls : scope.program.Makes calls (.finish outcome)) (hfailed : outcome ≠ .settled)
    (herr : ∃ c, (c = true → cancelled = true) ∧ outcome.result s.config.memoryLimit c = .error err)
    (hscope : left.scope = scope.name) (hreport : Aborted s left err report) :
    Concluded s chain cancelled
      (marks ++ .entered scope.name :: callMarks calls ++ [.ended outcome left]) report
  /-- The scripts of some scopes settled, the next one was not entered. -/
  | stopped {done rest : List Scope} {scope : Scope} {marks : List Mark} {left : Instance}
    {report : InstanceReport} (hchain : chain = done ++ scope :: rest) (hpassed : Passed done marks)
    (hcancelled : cancelled = true) (hscope : left.scope = lastName done)
    (hreport : Aborted s left .cancelled report) (hstatus : report.status = .cancelled) :
    Concluded s chain cancelled (marks ++ [.barred left]) report
  /-- Every script settled. -/
  | completed {marks : List Mark} {left : Instance} {report : InstanceReport}
    (hpassed : Passed chain marks) (hreport : report = left.report s.now .success)
    (hstatus : report.status = .success) (hreason : report.abortReason = none)
    (hlogs : report.logs = left.logs) :
    Concluded s chain cancelled (marks ++ [.exhausted left]) report

variable {s : Settings} {chain : List Scope} {e : Execution} {marks : List Mark}

theorem not_settled_of_error {memoryLimit : Nat} {cancelled : Bool} {outcome : Outcome}
    {err : ScriptError} (h : outcome.result memoryLimit cancelled = .error err) :
    outcome ≠ .settled := by
  rintro rfl
  cases h

/-- The story of a chain that is over is told by its report. -/
theorem concluded_of_over (h : Story s chain e marks) {status : Status} (hover : e.Over s status) :
    Concluded s chain e.cancelled marks (e.inst.report s.now status) := by
  cases h with
  | between _ _ _ hphase => exact absurd hover (not_over (by rw [hphase]; trivial))
  | inside _ _ _ _ hphase => exact absurd hover (not_over (by rw [hphase]; trivial))
  | waiting _ _ _ _ hphase => exact absurd hover (not_over (by rw [hphase]; trivial))
  | @failed _ _ _ _ _ err left hpassed hchain hcalls hfails hscope hinst hover' =>
    obtain ⟨c, hcancelled, hresult⟩ := hfails
    rw [over_unique hover hover', hinst]
    exact .failed hchain hpassed hcalls (not_settled_of_error hresult)
      ⟨c, hcancelled, hresult⟩ hscope (aborted_report s left err)
  | @stopped _ _ left hpassed hchain hnext hcancelled hscope hinst hover' =>
    obtain ⟨scope, rest, hrest⟩ := List.exists_cons_of_ne_nil hnext
    rw [over_unique hover hover', hinst]
    exact .stopped (hrest ▸ hchain) hpassed hcancelled hscope (aborted_report s left .cancelled) rfl
  | completed hpassed _ _ hinst hover' =>
    rw [over_unique hover hover', hinst]
    exact .completed hpassed rfl rfl rfl rfl
where
  not_over {e : Execution} {status : Status}
      (h : match e.phase with | .leaving _ | .finished _ => False | _ => True) :
          ¬ e.Over s status := by
    rintro (hphase | hphase) <;> rw [hphase] at h <;> exact h
  over_unique {e : Execution} {status status' : Status} (h : e.Over s status)
    (h' : e.Over s status') :
      status = status' := by
    rcases h with h | h <;> rcases h' with h' | h' <;> have heq := h.symm.trans h'
    · exact Phase.leaving.inj heq
    · cases heq
    · cases heq
    · have hreports := Phase.finished.inj heq
      exact congrArg InstanceReport.status hreports

/-- When a chain is over its report is there, or made by the next move that is not held up by those
who watch. -/
theorem report_of_over {status : Status} (h : e.Over s status) :
    e.report? = some (e.inst.report s.now status) ∨
      ∀ clock w, Host.isAnnouncing ⟨e.inst, w⟩ status = false →
        (e.advance s clock w).1.report? = some (e.inst.report s.now status) := by
  obtain h | h := h
  · refine .inr fun clock w hdone => ?_
    simp only [advance, h, hdone]
    rfl
  · exact .inl (by rw [Execution.report?, h])

/-! ## Runs -/

/-- Once an execution is cancelled no scope is entered. -/
theorem none_entered {r : Run} {i : Nat} (he : r.executions[i]? = some e)
    (hcancelled : e.cancelled = true) (moves : List Move) (scope : String) :
    .entered scope ∉ r.marks s i moves := by
  have hkept : ∀ (e : Execution) (ms new : List Mark) (e' : Execution),
      (e.cancelled = true ∧ Mark.entered scope ∉ ms) → Becomes s e new e' →
        e'.cancelled = true ∧ Mark.entered scope ∉ ms ++ new := by
    rintro e ms new e' ⟨hcancelled, hms⟩ hbecomes
    refine ⟨cancelled_becomes hcancelled hbecomes, fun hmem => ?_⟩
    rcases List.mem_append.mp hmem with hmem | hmem
    · exact hms hmem
    · exact not_entered_becomes hcancelled hbecomes hmem
  obtain ⟨e', -, -, hnone⟩ := follow_becomes hkept he [] ⟨hcancelled, List.not_mem_nil⟩ moves
  exact hnone
where
  cancelled_becomes {e e' : Execution} {new : List Mark} (hcancelled : e.cancelled = true)
      (h : Becomes s e new e') : e'.cancelled = true := by
    cases h with
    | same => exact hcancelled
    | advanced clock w => exact (flags_advance e clock w).2.trans hcancelled
    | elapsed clock w => exact (flags_elapse e clock w).2.trans hcancelled
    | expired clock =>
      unfold expire
      repeat' split
      all_goals first | rfl | exact hcancelled
    | cancelled => rfl
  not_entered_becomes {e e' : Execution} {new : List Mark} (hcancelled : e.cancelled = true)
      (h : Becomes s e new e') : .entered scope ∉ new := by
    cases h with
    | advanced clock w =>
      unfold mark?
      simp only [hcancelled, if_true]
      repeat' split
      all_goals simp
    | _ => exact List.not_mem_nil

/-- The chain of sources with their names. -/
def chainOf (memoryLimit : Nat) (sources : List (String × Source)) : List Scope :=
  sources.map fun source => .ofSource memoryLimit source.1 source.2

/-- An execution is neither calling the host nor waiting for it. -/
def Execution.Quiet (e : Execution) : Prop :=
  (∀ name args next, e.phase ≠ .running (.call name args next)) ∧
    ∀ on since next, e.phase ≠ .suspended on since next

/-- Scopes are entered in order until one fails, and none once the execution is cancelled; the
report says so in its status, in its reason and in its last line. Nothing recorded at any moment is
missing later, and no move but a call changes the shared values. -/
theorem chain_stops_at_first_failure (s : Settings) (world : World) (before : List Move)
    (setup : Setup) (sources : List (String × Source)) (moves : List Move) :
    let chain := chainOf s.config.memoryLimit sources
    let i := ((Run.ofWorld world).follow s before).executions.length
    let r := ((Run.ofWorld world).follow s before).step s (.start setup chain)
    ∃ e, (r.follow s moves).executions[i]? = some e ∧
      (∀ t, ∃ e', (r.follow s (moves.take t)).executions[i]? = some e' ∧ e'.inst.Outgrown e.inst ∧
        (e'.cancelled = true → ∀ scope,
          .entered scope ∉ (r.follow s (moves.take t)).marks s i (moves.drop t)) ∧
        (e'.Quiet → ∀ clock w, (e'.advance s clock w).2.store = w.store)) ∧
      (e.timedOut = false → Story s chain e (r.marks s i moves) ∧
        ∀ status, e.Over s status → ∃ report,
          Concluded s chain e.cancelled (r.marks s i moves) report ∧
          (e.report? = some report ∨ ∀ clock w, Host.isAnnouncing ⟨e.inst, w⟩ status = false →
            (e.advance s clock w).1.report? = some report)) ∧
      ∀ source ∈ sources, source.2.Sparing → ∀ calls outcome,
        (Scope.ofSource s.config.memoryLimit source.1 source.2).program.Makes calls
            (.finish outcome) →
          source.2.Ends s.config.memoryLimit source.1 outcome := by
  intro chain i r
  obtain ⟨first, hstart, hstory⟩ : ∃ first, r.executions[i]? = some first ∧
      Story s chain first [] :=
    ⟨_, List.getElem?_concat_length, .between .nil rfl rfl rfl⟩
  obtain ⟨e, he, htold⟩ := story_follow hstart (fun _ => hstory) moves
  refine ⟨e, he, fun t => ?_, fun ht => ⟨htold ht, fun status hover => ?_⟩, ?_⟩
  · obtain ⟨e', he', -⟩ := outgrown_follow (s := s) hstart (moves.take t)
    obtain ⟨e'', he'', hgrown⟩ := outgrown_follow (s := s) he' (moves.drop t)
    have hwhole : (r.follow s (moves.take t)).follow s (moves.drop t) = r.follow s moves := by
      rw [follow, follow, ← List.foldl_append, List.take_append_drop]
      rfl
    rw [hwhole, he] at he''
    cases he''
    exact ⟨e', he', hgrown, fun hcancelled => none_entered he' hcancelled _,
      fun hquiet clock w => store_advance hquiet.1 hquiet.2⟩
  · exact ⟨_, concluded_of_over (htold ht) hover, report_of_over hover⟩
  · intro source _ hsparing calls outcome hmakes
    exact Source.ends_of_makes hsparing hmakes

/-- A scope that threw half of a surrogate pair, which the host cannot read, counts as settled: the
next one is entered and skips the tests. -/
theorem unread_failure_goes_on :
    let unread : Source := .body [.throw (.value (.string ⟨[0xD800]⟩))]
    let skipping : Source := .body [.call [.ofString "host", .ofString "test_skip"] [] none false]
    let chain := chainOf Config.default.memoryLimit [("first", unread), ("second", skipping)]
    let moves := .start default chain :: List.replicate 8 (.advance 0)
    (((Run.ofWorld default).follow default moves).report? 0).map
      (fun report => (report.status, report.tests.skipped)) = some (.success, true) := by
  rfl

end ScriptBench
