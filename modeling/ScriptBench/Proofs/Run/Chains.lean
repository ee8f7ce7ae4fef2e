import ScriptBench.Proofs.Host.Growth
import ScriptBench.Proofs.Script.Runs
import ScriptBench.Run.State

/-!
What an execution does with its chain of scopes.

Every move of an execution that shows leaves a mark: a scope is entered, a call is made, a script
meets its end, or the chain does.

1. The marks of an execution tell the story of its chain (`Story`): scopes are entered in order,
   each when the script of the one before has settled; the first script that fails, and a scope that
   is not entered because the execution was cancelled, are the last.
2. Every move continues the story (`story_advance`, `story_elapse`), so every run tells it
   (`story_follow`).
3. Nothing that an instance has recorded is taken back by any move (`outgrown_follow`).
-/
namespace ScriptBench

/-- The instance with the line that tells why its chain stopped. -/
def Instance.withFailure (s : Settings) (i : Instance) (err : ScriptError) : Instance :=
  { i with logs := i.logs ++ [⟨.error, s.now, i.scope, err.message⟩] }

namespace Execution

/-- What shows of a move. Where a script or the chain meets its end, with what the instance holds by
then. -/
inductive Mark where
  | entered (scope : String)
  | called (name args : String)
  | ended (outcome : Outcome) (left : Instance)
  /-- The next scope is not entered, since the execution is cancelled. -/
  | barred (left : Instance)
  /-- There is no further scope. -/
  | exhausted (left : Instance)

/-- What shows of the next move. -/
def mark? (e : Execution) : Option Mark :=
  match e.phase with
  | .between =>
    match e.chain with
    | [] => some (.exhausted e.inst)
    | scope :: _ => if e.cancelled then some (.barred e.inst) else some (.entered scope.name)
  | .running (.call name args _) => some (.called name args)
  | .running (.finish outcome) => some (.ended outcome e.inst)
  | _ => none

def callMarks (calls : List (String × String)) : List Mark := calls.map fun c => .called c.1 c.2

/-- The marks of scopes that are entered in order, each run until its script has settled. -/
inductive Passed : List Scope → List Mark → Prop where
  | nil : Passed [] []
  | snoc {done : List Scope} {marks : List Mark} {scope : Scope} {calls : List (String × String)}
    {left : Instance} (h : Passed done marks)
    (hcalls : scope.program.Makes calls (.finish .settled)) :
    Passed (done ++ [scope])
      (marks ++ .entered scope.name :: callMarks calls ++ [.ended .settled left])

/-- The name of the last of some scopes; nothing if there is none. -/
def lastName (scopes : List Scope) : String := (scopes.getLast?.map (·.name)).getD ""

/-- Only the report is still to be made, or it is made. -/
def Over (s : Settings) (e : Execution) (status : Status) : Prop :=
  e.phase = .leaving status ∨ e.phase = .finished (e.inst.report s.now status)

/-- Where an execution of a chain stands after its marks. -/
inductive Story (s : Settings) (chain : List Scope) (e : Execution) : List Mark → Prop where
  | between {done : List Scope} {marks : List Mark} (hpassed : Passed done marks)
    (hchain : chain = done ++ e.chain) (hscope : e.inst.scope = lastName done)
    (hphase : e.phase = .between) :
    Story s chain e marks
  | inside {done : List Scope} {marks : List Mark} {scope : Scope} {calls : List (String × String)}
    {p : Program} (hpassed : Passed done marks) (hchain : chain = done ++ scope :: e.chain)
    (hscope : e.inst.scope = scope.name) (hcalls : scope.program.Makes calls p)
    (hphase : e.phase = .running p) :
    Story s chain e (marks ++ .entered scope.name :: callMarks calls)
  | waiting {done : List Scope} {marks : List Mark} {scope : Scope} {calls : List (String × String)}
    {name args : String} {next : Answer → Program} {on : Suspension} {since : Nat}
    (hpassed : Passed done marks) (hchain : chain = done ++ scope :: e.chain)
    (hscope : e.inst.scope = scope.name) (hcalls : scope.program.Makes calls (.call name args next))
    (hphase : e.phase = .suspended on since next) :
    Story s chain e (marks ++ .entered scope.name :: callMarks (calls ++ [(name, args)]))
  /-- The script of a scope has failed. -/
  | failed {done : List Scope} {marks : List Mark} {scope : Scope} {calls : List (String × String)}
    {outcome : Outcome} {err : ScriptError} {left : Instance} (hpassed : Passed done marks)
    (hchain : chain = done ++ scope :: e.chain)
      (hcalls : scope.program.Makes calls (.finish outcome))
    (hfails : ∃ cancelled, (cancelled = true → e.cancelled = true) ∧
      outcome.result s.config.memoryLimit cancelled = .error err)
    (hscope : left.scope = scope.name) (hinst : e.inst = left.withFailure s err)
    (hover : e.Over s (.ofOutcome (.error err))) :
    Story s chain e (marks ++ .entered scope.name :: callMarks calls ++ [.ended outcome left])
  /-- The execution was cancelled before the next scope. -/
  | stopped {done : List Scope} {marks : List Mark} {left : Instance} (hpassed : Passed done marks)
    (hchain : chain = done ++ e.chain) (hnext : e.chain ≠ []) (hcancelled : e.cancelled = true)
    (hscope : left.scope = lastName done) (hinst : e.inst = left.withFailure s .cancelled)
    (hover : e.Over s .cancelled) : Story s chain e (marks ++ [.barred left])
  /-- Every script has settled. -/
  | completed {marks : List Mark} {left : Instance} (hpassed : Passed chain marks)
    (hchain : e.chain = []) (hscope : left.scope = lastName chain) (hinst : e.inst = left)
    (hover : e.Over s .success) :
    Story s chain e (marks ++ [.exhausted left])

section Moves

variable {s : Settings} {chain : List Scope} {e : Execution} {w : World}
  {marks : List Mark} {clock : Nat}

/-! ## Single moves -/

theorem callMarks_snoc (calls : List (String × String)) (name args : String) :
    callMarks (calls ++ [(name, args)]) = callMarks calls ++ [.called name args] := by
  rw [callMarks, List.map_append]
  rfl

theorem lastName_snoc (done : List Scope) (scope : Scope) :
    lastName (done ++ [scope]) = scope.name := by
  simp [lastName]

theorem finish_error (ht : e.timedOut = false) (err : ScriptError) :
    (e.finish s w (.error err)).1 =
      { e with inst := e.inst.withFailure s err, phase := .leaving (.ofOutcome (.error err)) } := by
  rw [finish, ht]
  rfl

theorem finish_ok (ht : e.timedOut = false) :
    (e.finish s w (.ok ())).1 = { e with phase := .leaving .success } := by
  rw [finish, ht]
  rfl

/-- What is left to do when the chain is over changes nothing but the phase. -/
theorem over_advance {status : Status} (h : e.Over s status) (clock : Nat) (w : World) :
    ∃ phase, (e.advance s clock w).1 = { e with phase } ∧ Over s { e with phase } status := by
  obtain h | h := h
  · simp only [advance, h]
    split
    · exact ⟨e.phase, rfl, .inl h⟩
    · exact ⟨_, rfl, .inr rfl⟩
  · simp only [advance, h]
    exact ⟨e.phase, rfl, .inr h⟩

theorem mark?_of_over {status : Status} (h : e.Over s status) : e.mark? = none := by
  obtain h | h := h <;> rw [mark?, h]

theorem story_between {done : List Scope} (hpassed : Passed done marks)
    (hchain : chain = done ++ e.chain) (hscope : e.inst.scope = lastName done)
    (hphase : e.phase = .between) (ht : e.timedOut = false) :
    Story s chain (e.advance s clock w).1 (marks ++ e.mark?.toList) := by
  simp only [advance, mark?, hphase]
  cases hrest : e.chain with
  | nil =>
    rw [hrest, List.append_nil] at hchain
    subst hchain
    dsimp only
    rw [finish_ok ht]
    exact .completed hpassed hrest hscope rfl (.inl rfl)
  | cons scope rest =>
    dsimp only
    by_cases hcancelled : e.cancelled = true
    · rw [if_pos hcancelled, if_pos hcancelled, finish_error ht]
      have hnext : e.chain ≠ [] := by
        rw [hrest]
        exact List.cons_ne_nil _ _
      exact .stopped hpassed hchain hnext hcancelled hscope rfl (.inl rfl)
    · rw [if_neg hcancelled, if_neg hcancelled]
      exact .inside hpassed (hrest ▸ hchain) rfl .start rfl

/-- A script that is not settled when it ends has failed, cancelled or not. -/
theorem result_cases (memoryLimit : Nat) (cancelled : Bool) (outcome : Outcome) :
    (outcome = .settled ∧ outcome.result memoryLimit cancelled = .ok ()) ∨
      ∃ err, outcome.result memoryLimit cancelled = .error err := by
  cases outcome with
  | settled => exact .inl ⟨rfl, rfl⟩
  | refused message => exact .inr ⟨_, rfl⟩
  | failed message =>
    refine .inr ?_
    simp only [Outcome.result]
    split
    · exact ⟨_, rfl⟩
    · split <;> exact ⟨_, rfl⟩

theorem story_inside {done : List Scope} {scope : Scope} {calls : List (String × String)}
    {p : Program} (hpassed : Passed done marks) (hchain : chain = done ++ scope :: e.chain)
    (hscope : e.inst.scope = scope.name) (hcalls : scope.program.Makes calls p)
    (hphase : e.phase = .running p) (ht : e.timedOut = false) :
    Story s chain (e.advance s clock w).1
      (marks ++ .entered scope.name :: callMarks calls ++ e.mark?.toList) := by
  cases p with
  | call name args next =>
    have hmarks : marks ++ .entered scope.name :: callMarks calls ++ [.called name args] =
        marks ++ .entered scope.name :: callMarks (calls ++ [(name, args)]) := by
      rw [callMarks_snoc, List.append_assoc, List.cons_append]
    simp only [advance, mark?, hphase, Option.toList_some]
    rw [hmarks]
    rcases hcall : (⟨e.inst, w⟩ : Host).call s e.cancelled name args with ⟨h', a | on⟩
    · have hgrown := Host.grown_answered hcall
      exact .inside hpassed hchain (hgrown.scope.trans hscope) (hcalls.call a) rfl
    · have hinst : h'.inst = e.inst := (Host.waits_suspended hcall).1
      have hscope' : h'.inst.scope = scope.name := by
        rw [hinst]
        exact hscope
      exact .waiting hpassed hchain hscope' hcalls rfl
  | finish outcome =>
    simp only [advance, mark?, hphase, Option.toList_some]
    obtain ⟨rfl, hresult⟩ | ⟨err, hresult⟩ := result_cases s.config.memoryLimit e.cancelled outcome
    · rw [hresult]
      have hnext : chain = done ++ [scope] ++ e.chain := by
        rw [List.append_assoc]
        exact hchain
      exact .between (hpassed.snoc hcalls) hnext ((lastName_snoc done scope).symm ▸ hscope) rfl
    · rw [hresult]
      dsimp only
      rw [finish_error ht]
      exact .failed hpassed hchain hcalls ⟨e.cancelled, id, hresult⟩ hscope rfl (.inl rfl)
  | spin interrupted =>
    simp only [advance, mark?, hphase, Option.toList_none, List.append_nil]
    split
    · exact .inside hpassed hchain hscope hcalls.interrupt rfl
    · exact .inside hpassed hchain hscope hcalls hphase

theorem story_waiting {done : List Scope} {scope : Scope} {calls : List (String × String)}
    {name args : String} {next : Answer → Program} (hpassed : Passed done marks)
    (hchain : chain = done ++ scope :: e.chain) (hscope : e.inst.scope = scope.name)
    (hcalls : scope.program.Makes calls (.call name args next)) {h : Host}
    (hgrown : e.inst.Grown h.inst) (a : Answer) :
    Story s chain (e.goOn h (next a)).1
      (marks ++ .entered scope.name :: callMarks (calls ++ [(name, args)])) :=
  .inside hpassed hchain (hgrown.scope.trans hscope) (hcalls.call a) rfl

theorem story_advance (h : Story s chain e marks) (ht : e.timedOut = false) :
    Story s chain (e.advance s clock w).1 (marks ++ e.mark?.toList) := by
  cases h with
  | between hpassed hchain hscope hphase => exact story_between hpassed hchain hscope hphase ht
  | inside hpassed hchain hscope hcalls hphase =>
    exact story_inside hpassed hchain hscope hcalls hphase ht
  | @waiting _ _ _ _ _ _ next on since hpassed hchain hscope hcalls hphase =>
    have hmark : e.mark? = none := by rw [mark?, hphase]
    rw [hmark, Option.toList_none, List.append_nil]
    simp only [advance, hphase]
    split
    · have hinst : ((⟨e.inst, w⟩ : Host).interrupt on).1.inst = e.inst := Host.interrupt_inst _ on
      exact story_waiting hpassed hchain hscope hcalls (.of_eq hinst) _
    · split
      · split
        · exact story_waiting hpassed hchain hscope hcalls (Host.grown_conclude s ⟨e.inst, w⟩ _) _
        · exact .waiting hpassed hchain hscope hcalls hphase
      · exact .waiting hpassed hchain hscope hcalls hphase
  | failed hpassed hchain hcalls hfails hscope hinst hover =>
    obtain ⟨phase, heq, hover'⟩ := over_advance hover clock w
    rw [heq, mark?_of_over hover, Option.toList_none, List.append_nil]
    exact .failed hpassed hchain hcalls hfails hscope hinst hover'
  | stopped hpassed hchain hnext hcancelled hscope hinst hover =>
    obtain ⟨phase, heq, hover'⟩ := over_advance hover clock w
    rw [heq, mark?_of_over hover, Option.toList_none, List.append_nil]
    exact .stopped hpassed hchain hnext hcancelled hscope hinst hover'
  | completed hpassed hchain hscope hinst hover =>
    obtain ⟨phase, heq, hover'⟩ := over_advance hover clock w
    rw [heq, mark?_of_over hover, Option.toList_none, List.append_nil]
    exact .completed hpassed hchain hscope hinst hover'

theorem story_elapse (h : Story s chain e marks) : Story s chain (e.elapse s clock w).1 marks := by
  unfold elapse
  split
  · rename_i on since next due hphase hdue
    split
    · cases h with
      | @waiting _ _ _ _ _ _ next' on' since' hpassed hchain hscope hcalls hphase' =>
        rw [hphase'] at hphase
        cases hphase
        exact story_waiting hpassed hchain hscope hcalls (Host.grown_conclude s ⟨e.inst, w⟩ _) _
      | between _ _ _ hphase' => cases hphase'.symm.trans hphase
      | inside _ _ _ _ hphase' => cases hphase'.symm.trans hphase
      | failed _ _ _ _ _ _ hover => exact absurd hphase (not_suspended hover)
      | stopped _ _ _ _ _ _ hover => exact absurd hphase (not_suspended hover)
      | completed _ _ _ _ hover => exact absurd hphase (not_suspended hover)
    · exact h
  · exact h
where
  not_suspended {e : Execution} {status : Status} (h : e.Over s status)
    {on : Suspension} {since : Nat}
      {next : Answer → Program} : e.phase ≠ .suspended on since next := by
    obtain h | h := h <;> rw [h] <;> exact Phase.noConfusion

/-- The story does not depend on when an execution is cancelled. -/
theorem story_cancel (h : Story s chain e marks) :
    Story s chain { e with cancelled := true } marks := by
  cases h with
  | between hpassed hchain hscope hphase => exact .between hpassed hchain hscope hphase
  | inside hpassed hchain hscope hcalls hphase => exact .inside hpassed hchain hscope hcalls hphase
  | waiting hpassed hchain hscope hcalls hphase =>
    exact .waiting hpassed hchain hscope hcalls hphase
  | failed hpassed hchain hcalls hfails hscope hinst hover =>
    obtain ⟨cancelled, -, hresult⟩ := hfails
    exact .failed hpassed hchain hcalls ⟨cancelled, fun _ => rfl, hresult⟩ hscope hinst hover
  | stopped hpassed hchain hnext _ hscope hinst hover =>
    exact .stopped hpassed hchain hnext rfl hscope hinst hover
  | completed hpassed hchain hscope hinst hover =>
    exact .completed hpassed hchain hscope hinst hover

/-! ## Growth -/

/-- A move takes back nothing that an instance has recorded. -/
theorem outgrown_advance (e : Execution) : e.inst.Outgrown (e.advance s clock w).1.inst := by
  have hfinish : ∀ result, e.inst.Outgrown (e.finish s w result).1.inst := by
    intro result
    simp only [finish]
    split
    · exact .refl _
    · exact (Host.grown_log (⟨e.inst, w⟩ : Host) _ _).outgrown
  unfold advance
  dsimp only
  split
  · exact .refl _
  · split <;> exact .refl _
  · split
    · exact hfinish _
    · split
      · exact hfinish _
      · exact Instance.outgrown_scope _ _
  · split
    · rename_i hcall
      exact (Host.grown_answered hcall).outgrown
    · rename_i hcall
      exact (Instance.Grown.of_eq (Host.waits_suspended hcall).1).outgrown
  · split
    · exact .refl _
    · exact hfinish _
  · split <;> exact .refl _
  · split
    · exact (Instance.Grown.of_eq (Host.interrupt_inst _ _)).outgrown
    · split
      · split
        · exact (Host.grown_conclude s _ _).outgrown
        · exact .refl _
      · exact .refl _

theorem outgrown_elapse (e : Execution) : e.inst.Outgrown (e.elapse s clock w).1.inst := by
  unfold elapse
  split
  · split
    · exact (Host.grown_conclude s _ _).outgrown
    · exact .refl _
  · exact .refl _

theorem store_advance (hcall : ∀ name args next, e.phase ≠ .running (.call name args next))
    (hwait : ∀ on since next, e.phase ≠ .suspended on since next) :
    (e.advance s clock w).2.store = w.store := by
  have hfinish : ∀ result, (e.finish s w result).2.store = w.store := by
    intro result
    simp only [finish]
    split <;> rfl
  unfold advance
  dsimp only
  split
  · rfl
  · split <;> rfl
  · split
    · exact hfinish _
    · split
      · exact hfinish _
      · rfl
  · rename_i name args next hphase
    exact absurd hphase (hcall name args next)
  · split
    · rfl
    · exact hfinish _
  · split <;> rfl
  · rename_i on since next hphase
    exact absurd hphase (hwait on since next)

end Moves

end Execution

/-! ## Runs -/

namespace Run

open Execution

/-- What shows of an execution when the run makes a move. -/
def shown (r : Run) (i : Nat) : Move → List Mark
  | .advance j => if j = i then (r.executions[i]?.bind mark?).toList else []
  | _ => []

/-- What shows of an execution while the run follows its moves. -/
def marks (s : Settings) (i : Nat) : Run → List Move → List Mark
  | _, [] => []
  | r, m :: rest => r.shown i m ++ marks s i (r.step s m) rest

/-- What a move of the run can make of an execution, and what shows of it. -/
inductive Becomes (s : Settings) (e : Execution) : List Mark → Execution → Prop where
  | same : Becomes s e [] e
  | advanced (clock : Nat) (w : World) : Becomes s e e.mark?.toList (e.advance s clock w).1
  | elapsed (clock : Nat) (w : World) : Becomes s e [] (e.elapse s clock w).1
  | expired (clock : Nat) : Becomes s e [] (e.expire s clock)
  | cancelled : Becomes s e [] { e with cancelled := true }

variable {s : Settings} {r : Run} {i : Nat} {e : Execution}

theorem act_self {f : Execution → World → Execution × World} (he : r.executions[i]? = some e) :
    (r.act i f).executions[i]? = some (f e r.world).1 := by
  have hi : i < r.executions.length := (List.getElem?_eq_some_iff.mp he).1
  simp only [act, he]
  exact List.getElem?_set_self hi

theorem act_of_ne {f : Execution → World → Execution × World} {j : Nat} (hne : j ≠ i) :
    (r.act j f).executions[i]? = r.executions[i]? := by
  unfold act
  split
  · rfl
  · exact List.getElem?_set_ne hne

theorem becomes_act {f : Execution → World → Execution × World} (he : r.executions[i]? = some e)
    (j : Nat) {shown : List Mark} (hself : j = i → Becomes s e shown (f e r.world).1)
    (hother : j ≠ i → shown = []) :
    ∃ e', (r.act j f).executions[i]? = some e' ∧ Becomes s e shown e' := by
  by_cases hj : j = i
  · subst hj
    exact ⟨_, act_self he, hself rfl⟩
  · rw [hother hj]
    exact ⟨e, (act_of_ne hj).trans he, .same⟩

theorem becomes_step (he : r.executions[i]? = some e) (m : Move) :
    ∃ e', (r.step s m).executions[i]? = some e' ∧ Becomes s e (r.shown i m) e' := by
  cases m with
  | start setup chain =>
    have hi : i < r.executions.length := (List.getElem?_eq_some_iff.mp he).1
    refine ⟨e, ?_, .same⟩
    rw [← he]
    exact List.getElem?_append_left hi
  | advance j =>
    refine becomes_act he j (fun hj => ?_) (fun hj => if_neg hj)
    rw [shown, if_pos hj, he]
    exact .advanced r.clock r.world
  | elapse j => exact becomes_act he j (fun _ => .elapsed r.clock r.world) fun _ => rfl
  | expire j => exact becomes_act he j (fun _ => .expired r.clock) fun _ => rfl
  | cancel j => exact becomes_act he j (fun _ => .cancelled) fun _ => rfl
  | share key value => exact ⟨e, he, .same⟩
  | pass ms => exact ⟨e, he, .same⟩
  | receive => exact ⟨e, he, .same⟩
  | unwatch => exact ⟨e, he, .same⟩

/-- What every move keeps of an execution and its marks, every run keeps. -/
theorem follow_becomes {P : Execution → List Mark → Prop}
    (hP : ∀ e ms new e', P e ms → Becomes s e new e' → P e' (ms ++ new))
    (he : r.executions[i]? = some e) (ms : List Mark) (h : P e ms) (moves : List Move) :
    ∃ e', (r.follow s moves).executions[i]? = some e' ∧ P e' (ms ++ r.marks s i moves) := by
  induction moves generalizing r e ms with
  | nil => exact ⟨e, he, (List.append_nil ms).symm ▸ h⟩
  | cons m rest ih =>
    obtain ⟨e₁, he₁, hbecomes⟩ := becomes_step (s := s) he m
    obtain ⟨e', he', h'⟩ := ih he₁ _ (hP e ms _ e₁ h hbecomes)
    exact ⟨e', he', by rw [marks, ← List.append_assoc]; exact h'⟩

theorem flags_advance (e : Execution) (clock : Nat) (w : World) :
    (e.advance s clock w).1.timedOut = e.timedOut ∧
      (e.advance s clock w).1.cancelled = e.cancelled := by
  unfold advance goOn finish
  dsimp only
  repeat' split
  all_goals exact ⟨rfl, rfl⟩

theorem flags_elapse (e : Execution) (clock : Nat) (w : World) :
    (e.elapse s clock w).1.timedOut = e.timedOut ∧
      (e.elapse s clock w).1.cancelled = e.cancelled := by
  unfold elapse goOn
  repeat' split
  all_goals exact ⟨rfl, rfl⟩

/-- Within its time an execution goes on with its story. -/
theorem story_becomes {chain : List Scope} {ms new : List Mark} {e' : Execution}
    (h : e.timedOut = false → Story s chain e ms) (hbecomes : Becomes s e new e')
    (ht : e'.timedOut = false) :
    Story s chain e' (ms ++ new) := by
  cases hbecomes with
  | same => exact (List.append_nil ms).symm ▸ h ht
  | advanced clock w =>
    rw [(flags_advance e clock w).1] at ht
    exact story_advance (h ht) ht
  | elapsed clock w =>
    rw [(flags_elapse e clock w).1] at ht
    exact (List.append_nil ms).symm ▸ story_elapse (h ht)
  | expired clock =>
    rw [List.append_nil]
    unfold expire at ht ⊢
    split at ht
    · split at ht
      · cases ht
      · rename_i hlimit hover
        rw [if_neg hover]
        exact h ht
    · exact h ht
  | cancelled => exact (List.append_nil ms).symm ▸ story_cancel (h ht)

theorem story_follow {chain : List Scope} {ms : List Mark} (he : r.executions[i]? = some e)
    (h : e.timedOut = false → Story s chain e ms) (moves : List Move) :
    ∃ e', (r.follow s moves).executions[i]? = some e' ∧
      (e'.timedOut = false → Story s chain e' (ms ++ r.marks s i moves)) :=
  follow_becomes (P := fun e ms => e.timedOut = false → Story s chain e ms)
    (fun _ _ _ _ h hbecomes ht => story_becomes h hbecomes ht) he ms h moves

theorem outgrown_becomes {new : List Mark} {e' : Execution} (h : Becomes s e new e') :
    e.inst.Outgrown e'.inst := by
  cases h with
  | advanced clock w => exact outgrown_advance e
  | elapsed clock w => exact outgrown_elapse e
  | expired clock =>
    unfold expire
    split
    · split <;> exact .refl _
    · exact .refl _
  | same => exact .refl _
  | cancelled => exact .refl _

/-- Whatever an instance had recorded at one moment, it has recorded at every later one. -/
theorem outgrown_follow (he : r.executions[i]? = some e) (moves : List Move) :
    ∃ e', (r.follow s moves).executions[i]? = some e' ∧ e.inst.Outgrown e'.inst :=
  follow_becomes (P := fun e' _ => e.inst.Outgrown e'.inst)
    (fun _ _ _ _ h hbecomes => h.trans (outgrown_becomes hbecomes)) he [] (.refl _) moves

end Run

end ScriptBench
