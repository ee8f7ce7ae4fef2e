import ScriptBench.Proofs.Host.Replay

/-!
Cancelling stops the calls that may wait, and nothing else.

1. Three operations may wait, and these are the ones the catalog calls suspending
   (`isSuspending_operation`). Every other call is carried out the same way whether the flag is up
   or not (`answerWhile_of_prompt`).
2. Under the flag a call that may wait is answered before it has changed anything
   (`answerWhile_of_patient`), so no call visits the network (`visits_cancelled`).
3. From call to call this adds up: a sequence of calls under the flag leaves what its prompt calls
   alone would have left without it (`cancel_stops_only_waiting`).
-/
namespace ScriptBench

/-- The calls that have to wait for something: a moment, the network, or a shared value. -/
def Call.isPatient : Call → Bool
  | .sleep _ | .httpFetch _ | .waitShared _ => true
  | _ => false

theorem Call.isSuspending_operation (c : Call) : c.operation.isSuspending = c.isPatient := by
  cases c with
  | log level message => cases level <;> rfl
  | _ => rfl

/-- A visit that sends a request. -/
def Visit.isRequest : Visit → Bool
  | .http _ => true
  | _ => false

namespace Host

variable {s : Settings} {h : Host} {name argsText : String} {c : Call}

/-! ## One call -/

theorem answerWhile_unread {e : HostError} (hread : readCall name argsText = .error e)
    (cancelled : Bool) (meanwhile : Suspension → Meanwhile) :
    h.answerWhile s cancelled name argsText meanwhile = (h, cancelled, .error e) := by
  rw [answerWhile, call_unread hread]

theorem invoke_of_prompt (hc : c.isPatient = false) :
    h.invoke s c = ((h.answerNow s c).1, .answered (h.answerNow s c).2) := by
  cases c with
  | sleep ms => cases hc
  | httpFetch r => cases hc
  | waitShared key => cases hc
  | _ => rfl

/-- Whether the flag is up does not matter to a call that answers at once. -/
theorem answerWhile_of_prompt (hread : readCall name argsText = .ok c) (hc : c.isPatient = false)
    (cancelled : Bool) (meanwhile : Suspension → Meanwhile) :
    h.answerWhile s cancelled name argsText meanwhile =
      ((h.answerNow s c).1, cancelled, (h.answerNow s c).2) := by
  have hcall : h.call s cancelled name argsText = h.invoke s c := by
    rw [call, hread]
    simp only [c.isSuspending_operation, hc, Bool.false_and, Bool.false_eq_true, if_false]
  rw [answerWhile, hcall, invoke_of_prompt hc]

/-- Under the flag a call that may wait is answered before anything is done for it. -/
theorem answerWhile_of_patient (hread : readCall name argsText = .ok c) (hc : c.isPatient = true)
    (meanwhile : Suspension → Meanwhile) :
    h.answerWhile s true name argsText meanwhile = (h, true, .error .cancelled) := by
  have hcall : h.call s true name argsText = (h, .answered (.error .cancelled)) := by
    rw [call, hread]
    simp only [c.isSuspending_operation, hc, Bool.and_self, if_true]
  rw [answerWhile, hcall]

/-! ## Visits -/

theorem visits_consult {α : Type} {v : Visit} (hv : v.isRequest = false)
    (ask : LanguageTools → Except ConnectorError α) :
    ∃ new, (h.consult s v ask).1.world.visits = h.world.visits ++ new ∧
      ∀ x ∈ new, x.2.isRequest = false := by
  unfold consult
  split
  · exact ⟨[], (List.append_nil _).symm, by simp⟩
  · exact ⟨[(h.inst.number, v)], rfl, by simpa using hv⟩

theorem visits_assertSimilar (expect actual : String) (threshold : Binary64) :
    (h.assertSimilar s expect actual threshold).1.world.visits =
      (h.consult s (.similarity expect actual) (·.similarity expect actual)).1.world.visits := by
  unfold assertSimilar
  split <;> rename_i heq <;> rw [heq]
  rfl

theorem visits_answerNow (c : Call) :
    ∃ new, (h.answerNow s c).1.world.visits = h.world.visits ++ new ∧
      ∀ x ∈ new, x.2.isRequest = false := by
  have none : ∃ new, h.world.visits = h.world.visits ++ new ∧ ∀ x ∈ new, x.2.isRequest = false :=
    ⟨[], (List.append_nil _).symm, by simp⟩
  cases c with
  | assertNlp expect actual threshold =>
    rw [answerNow, visits_assertSimilar]
    exact visits_consult rfl _
  | nlpKeywords text k => exact visits_consult rfl _
  | nlpTags text => exact visits_consult rfl _
  | nlpTagFilter text tags => exact visits_consult rfl _
  | nlpSimilarity a b => exact visits_consult rfl _
  | getEnv key =>
    unfold answerNow
    dsimp only
    split <;> exact none
  | getShared key =>
    unfold answerNow
    dsimp only
    split <;> exact none
  | _ => exact none

theorem visits_cancelled (meanwhile : Suspension → Meanwhile) :
    ∃ new, (h.answerWhile s true name argsText meanwhile).1.world.visits = h.world.visits ++ new ∧
      ∀ x ∈ new, x.2.isRequest = false := by
  have none : ∃ new, h.world.visits = h.world.visits ++ new ∧ ∀ x ∈ new, x.2.isRequest = false :=
    ⟨[], (List.append_nil _).symm, by simp⟩
  cases hread : readCall name argsText with
  | error e =>
    rw [answerWhile_unread hread]
    exact none
  | ok c =>
    cases hc : c.isPatient with
    | true =>
      rw [answerWhile_of_patient hread hc]
      exact none
    | false =>
      rw [answerWhile_of_prompt hread hc]
      exact visits_answerNow c

/-- How a call fares under the flag, compared with the same call from the same state without it. -/
structure StopsOnlyWaiting (s : Settings) (h : Host) (name argsText : String)
    (meanwhile : Suspension → Meanwhile) : Prop where
  /-- A text that is no call is refused in the same words. -/
  refused : ∀ e, readCall name argsText = .error e → ∀ cancelled,
    h.answerWhile s cancelled name argsText meanwhile = (h, cancelled, .error e)
  /-- A call that answers at once is carried out, and the flag makes no difference. -/
  completed : ∀ c, readCall name argsText = .ok c → c.isPatient = false → ∀ cancelled,
    h.answerWhile s cancelled name argsText meanwhile =
      ((h.answerNow s c).1, cancelled, (h.answerNow s c).2)
  /-- A call that may wait leaves the instance, the shared values and their waits, and the visits to
  collaborators as they were. -/
  stopped : ∀ c, readCall name argsText = .ok c → c.isPatient = true →
    h.answerWhile s true name argsText meanwhile = (h, true, .error .cancelled)
  /-- Only such a call can wait at all. -/
  waiting : ∀ cancelled h' on, h.call s cancelled name argsText = (h', .suspended on) →
    ∃ c, readCall name argsText = .ok c ∧ c.isPatient = true
  requests : ∃ new, (h.answerWhile s true name argsText meanwhile).1.world.visits =
    h.world.visits ++ new ∧
    ∀ x ∈ new, x.2.isRequest = false

theorem stopsOnlyWaiting (s : Settings) (h : Host) (name argsText : String)
    (meanwhile : Suspension → Meanwhile) : StopsOnlyWaiting s h name argsText meanwhile where
  refused _ hread cancelled := answerWhile_unread hread cancelled meanwhile
  completed _ hread hc cancelled := answerWhile_of_prompt hread hc cancelled meanwhile
  stopped _ hread hc := answerWhile_of_patient hread hc meanwhile
  waiting cancelled h' on hcall := by
    obtain ⟨-, c, hread, hc⟩ := waits_suspended hcall
    exact ⟨c, hread, c.isSuspending_operation ▸ hc⟩
  requests := visits_cancelled meanwhile

/-! ## Sequences of calls -/

/-- What an instance meets: a call of its own, or a world that others have changed. -/
inductive Doing where
  | call (name argsText : String)
  | others (world : World)

/-- The call is none of those that may wait. -/
def Doing.isPrompt : Doing → Bool
  | .call name argsText =>
    match readCall name argsText with
    | .ok c => !c.isPatient
    | .error _ => true
  | .others _ => true

/-- The host after one doing, and the answer to a call. -/
def meet (s : Settings) (cancelled : Bool) (meanwhile : Suspension → Meanwhile) (h : Host) :
    Doing → Host × Option Answer
  | .call name argsText =>
    let (h, _, a) := h.answerWhile s cancelled name argsText meanwhile
    (h, some a)
  | .others world => ({ h with world }, none)

/-- The host after a sequence of doings under an unchanging flag, each with the answer it got. -/
def meetAll (s : Settings) (cancelled : Bool) (meanwhile : Suspension → Meanwhile) :
    Host → List Doing → Host × List (Doing × Option Answer)
  | h, [] => (h, [])
  | h, d :: rest =>
    let (h, a) := h.meet s cancelled meanwhile d
    let (h, answers) := meetAll s cancelled meanwhile h rest
    (h, (d, a) :: answers)

section

variable (meanwhile : Suspension → Meanwhile)

theorem meet_of_prompt {d : Doing} (hd : d.isPrompt = true) (cancelled : Bool) :
    h.meet s cancelled meanwhile d = h.meet s false meanwhile d := by
  cases d with
  | others world => rfl
  | call name argsText =>
    cases hread : readCall name argsText with
    | error e => simp only [meet, answerWhile_unread hread]
    | ok c =>
      have hc : c.isPatient = false := by simpa [Doing.isPrompt, hread] using hd
      simp only [meet, answerWhile_of_prompt hread hc]

theorem meet_of_not_prompt {d : Doing} (hd : d.isPrompt = false) :
    h.meet s true meanwhile d = (h, some (.error .cancelled)) := by
  cases d with
  | others world => cases hd
  | call name argsText =>
    cases hread : readCall name argsText with
    | error e => simp [Doing.isPrompt, hread] at hd
    | ok c =>
      have hc : c.isPatient = true := by simpa [Doing.isPrompt, hread] using hd
      simp only [meet, answerWhile_of_patient hread hc]

/-- What a sequence leaves under the flag is what its prompt doings leave without it. -/
theorem meetAll_cancelled (doings : List Doing) :
    (h.meetAll s true meanwhile doings).1 =
        (h.meetAll s false meanwhile (doings.filter (·.isPrompt))).1 ∧
      (h.meetAll s true meanwhile doings).2.filter (·.1.isPrompt) =
        (h.meetAll s false meanwhile (doings.filter (·.isPrompt))).2 := by
  induction doings generalizing h with
  | nil => exact ⟨rfl, rfl⟩
  | cons d rest ih =>
    cases hd : d.isPrompt with
    | true =>
      have hmeet : h.meet s true meanwhile d = h.meet s false meanwhile d :=
        meet_of_prompt meanwhile hd true
      have hrest := ih (h := (h.meet s true meanwhile d).1)
      simp only [List.filter_cons_of_pos, hd, meetAll]
      rw [hmeet] at hrest ⊢
      exact ⟨hrest.1, by rw [hrest.2]⟩
    | false =>
      have hmeet : h.meet s true meanwhile d = (h, some (.error .cancelled)) :=
        meet_of_not_prompt meanwhile hd
      simp only [meetAll, hmeet, List.filter_cons, hd, Bool.false_eq_true, if_false]
      exact ih

theorem meetAll_append (cancelled : Bool) (before after : List Doing) :
    (h.meetAll s cancelled meanwhile (before ++ after)).2 =
      (h.meetAll s cancelled meanwhile before).2 ++
        ((h.meetAll s cancelled meanwhile before).1.meetAll s cancelled meanwhile after).2 := by
  induction before generalizing h with
  | nil => rfl
  | cons d rest ih =>
    simp only [List.cons_append, meetAll]
    rw [ih]

theorem length_meetAll (cancelled : Bool) (doings : List Doing) :
    (h.meetAll s cancelled meanwhile doings).2.length = doings.length := by
  induction doings generalizing h with
  | nil => rfl
  | cons d rest ih => exact congrArg (· + 1) ih

end

end Host

open Host in
/-- Whatever an instance calls under a raised flag, and whatever others do between its calls: only
the calls that may wait are stopped, without a trace, and all others are answered and carried out as
without the flag. -/
theorem cancel_stops_only_waiting (s : Settings) (meanwhile : Suspension → Meanwhile) (h : Host)
    (before : List Doing) (name argsText : String) (after : List Doing) :
    let doings := before ++ .call name argsText :: after
    let reached := (h.meetAll s true meanwhile before).1
    StopsOnlyWaiting s reached name argsText meanwhile ∧
      (h.meetAll s true meanwhile doings).2[before.length]? =
        some (.call name argsText, some (reached.answerWhile s true name argsText meanwhile).2.2) ∧
      (h.meetAll s true meanwhile doings).1 =
        (h.meetAll s false meanwhile (doings.filter (·.isPrompt))).1 ∧
      (h.meetAll s true meanwhile doings).2.filter (·.1.isPrompt) =
        (h.meetAll s false meanwhile (doings.filter (·.isPrompt))).2 := by
  intro doings reached
  refine ⟨stopsOnlyWaiting s reached name argsText meanwhile, ?_,
    meetAll_cancelled meanwhile doings⟩
  have hlength : (h.meetAll s true meanwhile before).2.length = before.length :=
    length_meetAll meanwhile true before
  have hat : (h.meetAll s true meanwhile doings).2[before.length]? =
      (reached.meetAll s true meanwhile (.call name argsText :: after)).2[0]? := by
    rw [meetAll_append, ← hlength, List.getElem?_append_right (Nat.le_refl _), Nat.sub_self]
  rw [hat]
  rfl

end ScriptBench
