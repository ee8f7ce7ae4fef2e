import ScriptBench.Proofs.Run.FirstFailure

/-!
What becomes of an execution that is cancelled while a call waits.

1. The call is answered that it was cancelled, whatever else has come about since, and nothing shows
   of the execution from then on but the further calls of the same script, its end, and that no
   scope follows (`unwinding_advance`, `unwinding_becomes`).
2. How the script ends decides what the report says (`lateResult`). A script that fails, for
   whatever reason, is reported as cancelled, and so is one that settles before another scope. One
   that settles in the last scope is a success unless its time was over by then
   (`status_after_cancelled_wait`): nothing asks for the cancellation after the last scope
   (`caught_cancellation_succeeds`).
-/
namespace ScriptBench

/-- The instance when its chain is over: with the line that tells why, if there is a reason. -/
def Instance.closed (s : Settings) (i : Instance) : Except ScriptError Unit → Instance
  | .ok () => i
  | .error err => i.withFailure s err

/-- The report of an instance whose chain has ended. -/
def Instance.lastReport (s : Settings) (i : Instance) (result : Except ScriptError Unit) :
    InstanceReport :=
  (i.closed s result).report s.now (.ofOutcome result)

theorem Host.answered_of_cancelled (s : Settings) (h : Host) (name args : String) :
    ∃ h' a, h.call s true name args = (h', .answered a) := by
  rcases hcall : h.call s true name args with ⟨h', a | on⟩
  · exact ⟨h', a, rfl⟩
  · obtain ⟨-, c, hread, hsuspending⟩ := waits_suspended hcall
    rw [call, hread] at hcall
    simp [hsuspending] at hcall

theorem Host.interrupt_answer (h : Host) (on : Suspension) :
    (h.interrupt on).2 = .error .cancelled := by
  cases on <;> rfl

namespace Execution

open Run

/-- How a chain ends that was cancelled in a wait, by how the script went on that waited. -/
def lateResult (memoryLimit : Nat) (timedOut isLast : Bool) (outcome : Outcome) :
    Except ScriptError Unit :=
  if timedOut then .error .timeout
  else
    match outcome.result memoryLimit true with
    | .ok () => if isLast then .ok () else .error .cancelled
    | .error err => .error err

/-- What shows behind the end of a script when the execution is cancelled. -/
def closingMarks (rest : List Scope) (outcome : Outcome) (left : Instance) : List Mark :=
  match outcome with
  | .settled => [if rest.isEmpty then .exhausted left else .barred left]
  | _ => []

/-- Where an execution stands that was cancelled in a wait, and what has shown of it since. `told`
is what the script does when it is told of that. -/
inductive Unwinding (s : Settings) (told : Program) (e : Execution) : List Mark → Prop where
  | waiting {on : Suspension} {since : Nat} {next : Answer → Program}
    (hphase : e.phase = .suspended on since next) (htold : next (.error .cancelled) = told) :
    Unwinding s told e []
  | inside {calls : List (String × String)} {p : Program} (hcalls : told.Makes calls p)
    (hphase : e.phase = .running p) : Unwinding s told e (callMarks calls)
  | settled {calls : List (String × String)} (hcalls : told.Makes calls (.finish .settled))
    (hphase : e.phase = .between) : Unwinding s told e (callMarks calls ++ [.ended .settled e.inst])
  | finished {calls : List (String × String)} {outcome : Outcome} {left : Instance}
    (hcalls : told.Makes calls (.finish outcome))
    (hinst : e.inst =
      left.closed s (lateResult s.config.memoryLimit e.timedOut e.chain.isEmpty outcome))
    (hover : e.Over s
      (.ofOutcome (lateResult s.config.memoryLimit e.timedOut e.chain.isEmpty outcome))) :
    Unwinding s told e (callMarks calls ++ .ended outcome left :: closingMarks e.chain outcome left)

section Moves

variable {s : Settings} {told : Program} {e : Execution} {marks : List Mark}

/-- A time that is over counts more than how the chain ended. -/
theorem finish_eq (e : Execution) (w : World) (result : Except ScriptError Unit) :
    (e.finish s w result).1 =
      { e with
        inst := e.inst.closed s (if e.timedOut then .error .timeout else result)
        phase := .leaving (.ofOutcome (if e.timedOut then .error .timeout else result)) } := by
  obtain ⟨⟩ | err := result <;> cases ht : e.timedOut <;> simp [finish, ht] <;> rfl

theorem lateResult_settled (memoryLimit : Nat) (timedOut isLast : Bool) :
    lateResult memoryLimit timedOut isLast .settled =
      if timedOut then .error .timeout else if isLast then .ok () else .error .cancelled := rfl

theorem lateResult_of_error {memoryLimit : Nat} (timedOut isLast : Bool) {outcome : Outcome}
    {err : ScriptError} (h : outcome.result memoryLimit true = .error err) :
    lateResult memoryLimit timedOut isLast outcome = if timedOut then .error .timeout
      else .error err := by
  rw [lateResult, h]

theorem closingMarks_of_ne {rest : List Scope} {outcome : Outcome} {left : Instance}
    (h : outcome ≠ .settled) :
    closingMarks rest outcome left = [] := by
  cases outcome with
  | settled => exact absurd rfl h
  | failed _ => rfl
  | refused _ => rfl

/-- Without a scope to come the chain has ended well, and with one it has been cancelled; but for
the time. -/
theorem unwinding_between {calls : List (String × String)}
    (hcalls : told.Makes calls (.finish .settled)) (hphase : e.phase = .between)
    (hcancelled : e.cancelled = true) (clock : Nat) (w : World) :
    Unwinding s told (e.advance s clock w).1
      (callMarks calls ++ [.ended .settled e.inst] ++ e.mark?.toList) := by
  have hmove : (e.advance s clock w).1 =
      (e.finish s w (if e.chain.isEmpty then .ok () else .error .cancelled)).1 := by
    cases hchain : e.chain <;> simp [advance, hphase, hchain, hcancelled]
  have hmark : e.mark?.toList = closingMarks e.chain .settled e.inst := by
    cases hchain : e.chain <;> simp [mark?, hphase, hchain, hcancelled, closingMarks]
  rw [hmove, finish_eq, hmark, List.append_assoc]
  exact .finished hcalls rfl (.inl rfl)

theorem unwinding_inside {calls : List (String × String)} {p : Program}
    (hcalls : told.Makes calls p) (hphase : e.phase = .running p) (hcancelled : e.cancelled = true)
    (clock : Nat) (w : World) :
    Unwinding s told (e.advance s clock w).1 (callMarks calls ++ e.mark?.toList) := by
  cases p with
  | call name args next =>
    obtain ⟨h, a, hcall⟩ := Host.answered_of_cancelled s ⟨e.inst, w⟩ name args
    simp only [advance, mark?, hphase, hcancelled, hcall, Option.toList_some]
    rw [← callMarks_snoc]
    exact .inside (hcalls.call a) rfl
  | finish outcome =>
    obtain ⟨rfl, hresult⟩ | ⟨err, hresult⟩ := result_cases s.config.memoryLimit true outcome
    · simp only [advance, mark?, hphase, hcancelled, hresult, Option.toList_some]
      exact .settled hcalls rfl
    · simp only [advance, mark?, hphase, hcancelled, hresult, Option.toList_some]
      rw [finish_eq, ← lateResult_of_error e.timedOut e.chain.isEmpty hresult]
      have hover : Unwinding s told
          { e with
            inst := e.inst.closed s
              (lateResult s.config.memoryLimit e.timedOut e.chain.isEmpty outcome)
            phase := .leaving
              (.ofOutcome (lateResult s.config.memoryLimit e.timedOut e.chain.isEmpty outcome)) }
          (callMarks calls ++ .ended outcome e.inst :: closingMarks e.chain outcome e.inst) :=
        .finished hcalls rfl (.inl rfl)
      rwa [closingMarks_of_ne (not_settled_of_error hresult)] at hover
  | spin interrupted =>
    simp only [advance, mark?, hphase, hcancelled, if_true, Option.toList_none, List.append_nil]
    exact .inside hcalls.interrupt rfl

theorem unwinding_advance (h : Unwinding s told e marks) (hcancelled : e.cancelled = true)
    (clock : Nat) (w : World) :
    Unwinding s told (e.advance s clock w).1 (marks ++ e.mark?.toList) := by
  cases h with
  | @waiting on since next hphase htold =>
    have hmark : e.mark? = none := by rw [mark?, hphase]
    have hmove : (e.advance s clock w).1.phase = .running told := by
      simp only [advance, hphase, hcancelled, if_true, goOn, Host.interrupt_answer, htold]
    rw [hmark]
    exact .inside .start hmove
  | inside hcalls hphase => exact unwinding_inside hcalls hphase hcancelled clock w
  | settled hcalls hphase => exact unwinding_between hcalls hphase hcancelled clock w
  | finished hcalls hinst hover =>
    obtain ⟨phase, heq, hover'⟩ := over_advance hover clock w
    rw [heq, mark?_of_over hover, Option.toList_none, List.append_nil]
    exact .finished hcalls hinst hover'

/-- The time of a cancelled execution may still run out, until its chain is over. -/
theorem unwinding_expire (h : Unwinding s told e marks) (clock : Nat) :
    Unwinding s told (e.expire s clock) marks := by
  cases h with
  | waiting hphase htold => exact .waiting ((phase_expire e clock).trans hphase) htold
  | inside hcalls hphase => exact .inside hcalls ((phase_expire e clock).trans hphase)
  | @settled calls hcalls hphase =>
    rw [← inst_expire e clock]
    exact .settled hcalls ((phase_expire e clock).trans hphase)
  | finished hcalls hinst hover =>
    have hrests : e.expire s clock = e := by
      obtain hphase | hphase := hover <;> simp only [expire, limit?, hphase]
    rw [hrests]
    exact .finished hcalls hinst hover
where
  phase_expire (e : Execution) (clock : Nat) : (e.expire s clock).phase = e.phase := by
    unfold expire
    repeat' split
    all_goals rfl
  inst_expire (e : Execution) (clock : Nat) : (e.expire s clock).inst = e.inst := by
    unfold expire
    repeat' split
    all_goals rfl

theorem elapse_of_cancelled (hcancelled : e.cancelled = true) (clock : Nat) (w : World) :
    (e.elapse s clock w).1 = e := by
  unfold elapse
  split
  · rw [hcancelled, Bool.not_true, Bool.and_false, if_neg Bool.false_ne_true]
  · rfl

/-- A cancelled execution enters no further scope. -/
theorem chain_advance (hcancelled : e.cancelled = true) (clock : Nat) (w : World) :
    (e.advance s clock w).1.chain = e.chain := by
  unfold advance goOn finish
  simp only [hcancelled, if_true]
  repeat' split
  all_goals rfl

end Moves

/-! ## Runs -/

/-- What one move leaves of an execution that was cancelled in a wait. -/
theorem unwinding_becomes {s : Settings} {told : Program} {rest : List Scope} {e e' : Execution}
    {ms new : List Mark} (h : e.cancelled = true ∧ e.chain = rest ∧ Unwinding s told e ms)
    (hbecomes : Becomes s e new e') :
    e'.cancelled = true ∧ e'.chain = rest ∧ Unwinding s told e' (ms ++ new) := by
  obtain ⟨hcancelled, hchain, hunwinding⟩ := h
  cases hbecomes with
  | same => exact ⟨hcancelled, hchain, (List.append_nil ms).symm ▸ hunwinding⟩
  | advanced clock w =>
    exact ⟨(flags_advance e clock w).2.trans hcancelled,
      (chain_advance hcancelled clock w).trans hchain,
      unwinding_advance hunwinding hcancelled clock w⟩
  | elapsed clock w =>
    rw [elapse_of_cancelled hcancelled, List.append_nil]
    exact ⟨hcancelled, hchain, hunwinding⟩
  | expired clock =>
    rw [List.append_nil]
    refine ⟨?_, ?_, unwinding_expire hunwinding clock⟩
    · unfold expire
      repeat' split
      all_goals first | rfl | exact hcancelled
    · unfold expire
      repeat' split
      all_goals exact hchain
  | cancelled =>
    have hsame : { e with cancelled := true } = e := by rw [← hcancelled]
    rw [hsame, List.append_nil]
    exact ⟨hcancelled, hchain, hunwinding⟩

/-- A chain that was cancelled in a wait has ended well where its last script settled in time. -/
theorem lateResult_ok_iff {memoryLimit : Nat} {timedOut isLast : Bool} {outcome : Outcome} :
    lateResult memoryLimit timedOut isLast outcome = .ok () ↔
      outcome = .settled ∧ isLast = true ∧ timedOut = false := by
  obtain ⟨rfl, -⟩ | ⟨err, hresult⟩ := result_cases memoryLimit true outcome
  · rw [lateResult_settled]
    cases timedOut <;> cases isLast <;> simp
  · have hne := not_settled_of_error hresult
    rw [lateResult_of_error timedOut isLast hresult]
    cases timedOut <;> simp [hne]

end Execution

open Execution Run

theorem ofOutcome_eq_success_iff {result : Except ScriptError Unit} :
    Status.ofOutcome result = .success ↔ result = .ok () := by
  obtain err | ⟨⟩ := result
  · exact ⟨fun h => absurd h (ofOutcome_error_ne_success err), fun h => nomatch h⟩
  · exact ⟨fun _ => rfl, fun _ => rfl⟩

theorem InstanceReport.abortReason_eq_none_iff (report : InstanceReport) :
    report.abortReason = none ↔ report.status = .success := by
  unfold abortReason
  cases report.status <;> simp [Status.abortReason]

/-- An execution that is cancelled while a call waits is told so; from then on it makes the calls of
that script, and its end decides what is reported. It is a success, and nothing is given as its
reason, exactly where the script settles, it was the last of the chain, and the time of the
execution was not over. -/
theorem status_after_cancelled_wait {s : Settings} {r : Run} {i : Nat} {e : Execution}
    {on : Suspension} {since : Nat} {next : Answer → Program} (he : r.executions[i]? = some e)
    (hwaits : e.phase = .suspended on since next) (hcancelled : e.cancelled = true)
    (moves : List Move) :
    ∃ e', (r.follow s moves).executions[i]? = some e' ∧
      ∀ report, e'.report? = some report →
        ∃ calls outcome left, (next (.error .cancelled)).Makes calls (.finish outcome) ∧
          r.marks s i moves =
            callMarks calls ++ .ended outcome left :: closingMarks e.chain outcome left ∧
          report = left.lastReport s
            (lateResult s.config.memoryLimit e'.timedOut e.chain.isEmpty outcome) ∧
          (report.status = .success ↔ outcome = .settled ∧ e.chain = [] ∧ e'.timedOut = false) ∧
          (report.abortReason = none ↔ report.status = .success) := by
  obtain ⟨e', he', -, hchain, hunwinding⟩ := follow_becomes
    (P := fun e' ms => e'.cancelled = true ∧ e'.chain = e.chain ∧
      Unwinding s (next (.error .cancelled)) e' ms)
    (fun _ _ _ _ h hbecomes => unwinding_becomes h hbecomes) he []
      ⟨hcancelled, rfl, .waiting hwaits rfl⟩ moves
  refine ⟨e', he', fun report hreport => ?_⟩
  rw [List.nil_append] at hunwinding
  generalize r.marks s i moves = shown at hunwinding
  unfold Execution.report? at hreport
  cases hunwinding with
  | waiting hphase _ => rw [hphase] at hreport; cases hreport
  | inside _ hphase => rw [hphase] at hreport; cases hreport
  | settled _ hphase => rw [hphase] at hreport; cases hreport
  | @finished calls outcome left hcalls hinst hover =>
    obtain hphase | hphase := hover
    · rw [hphase] at hreport
      cases hreport
    · rw [hphase, hinst, hchain] at hreport
      rw [hchain]
      obtain rfl := Option.some.inj hreport
      refine ⟨calls, outcome, left, hcalls, rfl, rfl, ?_, InstanceReport.abortReason_eq_none_iff _⟩
      show Status.ofOutcome _ = .success ↔ _
      rw [ofOutcome_eq_success_iff, lateResult_ok_iff, List.isEmpty_iff]

/-- A script that waits for a shared value and takes no notice when it gets none. -/
def carelessWait : Source :=
  .body [.attempt
    [.call [.ofString "host", .ofString "wait_shared"] [.value (.string (.ofString "k"))] none true]
    []]

/-- A run that cancels an execution of such scripts while the first of them waits. -/
def cancelledWait (names : List String) : Run :=
  let chain := chainOf Config.default.memoryLimit (names.map fun name => (name, carelessWait))
  (Run.ofWorld default).follow default [.start default chain, .advance 0, .advance 0, .cancel 0]

theorem caught_cancellation_stops_before_next_scope :
    ∃ e on since next report, (cancelledWait ["first", "second"]).executions[0]? = some e ∧
      e.phase = .suspended on since next ∧ e.cancelled = true ∧
      ((cancelledWait ["first", "second"]).follow default
        (List.replicate 8 (.advance 0))).report? 0 = some report ∧
      report.status ≠ .success ∧ report.abortReason ≠ none := by
  have hends : (((cancelledWait ["first", "second"]).follow default
      (List.replicate 8 (.advance 0))).report? 0).isSome = true := rfl
  obtain ⟨e, he, on, since, next, hwaits, hcancelled, hnext⟩ :
      ∃ e, (cancelledWait ["first", "second"]).executions[0]? = some e ∧
        ∃ on since next, e.phase = .suspended on since next ∧ e.cancelled = true ∧ e.chain ≠ [] :=
    ⟨_, rfl, _, _, _, rfl, rfl, List.cons_ne_nil _ _⟩
  obtain ⟨report, hreport⟩ := Option.isSome_iff_exists.mp hends
  obtain ⟨e', he', htold⟩ :=
    status_after_cancelled_wait he hwaits hcancelled (List.replicate 8 (.advance 0))
  have hlast : e'.report? = some report := by
    rw [Run.report?, he'] at hreport
    exact hreport
  obtain ⟨_, _, _, -, -, -, hsuccess, hreason⟩ := htold report hlast
  have hfailed : report.status ≠ .success := fun h => hnext (hsuccess.mp h).2.1
  exact ⟨e, on, since, next, report, he, hwaits, hcancelled, hreport, hfailed,
    mt hreason.mp hfailed⟩

/-- A script that catches its cancellation in the last scope of a chain is a success, and no reason
is given. -/
theorem caught_cancellation_succeeds :
    let r := cancelledWait ["s"]
    (∃ e on since next, r.executions[0]? = some e ∧ e.phase = .suspended on since next ∧
      e.cancelled = true) ∧
      ((r.follow default (List.replicate 8 (.advance 0))).report? 0).map
        (fun report => (report.status, report.abortReason)) = some (.success, none) := by
  exact ⟨⟨_, _, _, _, rfl, rfl, rfl⟩, rfl⟩

end ScriptBench
