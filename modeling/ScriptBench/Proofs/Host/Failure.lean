import ScriptBench.Host.Session
import ScriptBench.Proofs.Shared.Wakeup

/-!
A host call that fails changes nothing.

A call is one or two steps of its instance: it is answered at once, or it waits while others move
the world, and is then ended by what it waited for or by a cancel (`Answers`).

1. At once, an error leaves the host as it was or with one more visit to a collaborator
   (`call_error`); a text that is no call leaves it as it was (`call_unread`).
2. A call that waits has at most visited the network or begun one wait (`call_suspended`).
3. Its end puts a line in the log only if the time of a shared value is over, and takes the wait
   back (`conclude_error`, `interrupt_error`).

No step of a failed call sets a value: `begin`, `resume` and `abandon` keep them all (`value_step`).
-/
namespace ScriptBench

namespace Store

theorem not_live_abandon {s : Store} (hs : Sound s) (id : Nat) (key : String) :
    id ∉ (s.abandon id).live key := by
  intro h
  obtain ⟨hmem, hopen⟩ := List.mem_filter.mp h
  rw [slot_abandon] at hmem
  obtain ⟨w, hw, -, hp⟩ := hs.registered key id hmem
  have hw' := wait_step hs hw (.abandon id)
  have hclosed : (s.abandon id).isClosed id = true := by
    rw [step] at hw'
    rw [isClosed, phase_eq hw']
    rcases hp with hp | hp <;> simp [hp]
  simp [hclosed] at hopen

end Store

namespace Host

/-! ## Calls answered at once -/

/-- An error without a wait: at most one collaborator was asked, and nothing else happened. -/
structure FailsAtOnce (h h' : Host) (e : HostError) : Prop where
  visits : h' = h ∨ ∃ v, h' = h.visit v
  untimed : ∀ key, e ≠ .timeout key

theorem consult_error {α : Type} {s : Settings} {h h' : Host} {v : Visit}
    {ask : LanguageTools → Except ConnectorError α} {e : HostError}
    (hc : h.consult s v ask = (h', .error e)) : FailsAtOnce h h' e := by
  unfold consult at hc
  split at hc
  · cases hc
    exact ⟨.inl rfl, by simp [collaboratorError]⟩
  · rename_i tools _
    obtain ⟨rfl, herr⟩ := Prod.mk.inj hc
    refine ⟨.inr ⟨v, rfl⟩, ?_⟩
    cases hask : ask tools with
    | ok a => rw [hask] at herr; cases herr
    | error e' =>
      rw [hask] at herr
      cases herr
      simp [collaboratorError]

theorem consultFor_error {α : Type} {s : Settings} {h h' : Host} {v : Visit}
    {ask : LanguageTools → Except ConnectorError α} {write : α → Json} {e : HostError}
    (hc : h.consultFor s v ask write = (h', .error e)) : FailsAtOnce h h' e := by
  rcases hask : h.consult s v ask with ⟨h₁, r⟩
  rw [consultFor, hask] at hc
  cases r with
  | ok a => cases hc
  | error e₁ =>
    cases hc
    exact consult_error hask

theorem assertSimilar_error {s : Settings} {h h' : Host} {expect actual : String}
    {threshold : Binary64} {e : HostError}
    (hc : h.assertSimilar s expect actual threshold = (h', .error e)) :
    FailsAtOnce h h' e := by
  unfold assertSimilar at hc
  split at hc
  · rename_i h₁ e₁ hask
    cases hc
    exact consult_error hask
  · cases hc

/-- Among the calls that answer at once only those that ask the language tools can fail. -/
theorem answerNow_error {s : Settings} {h h' : Host} {c : Call} {e : HostError}
    (hc : h.answerNow s c = (h', .error e)) : FailsAtOnce h h' e := by
  cases c with
  | assertNlp expect actual threshold => exact assertSimilar_error hc
  | nlpKeywords text k => exact consultFor_error hc
  | nlpTags text => exact consultFor_error hc
  | nlpTagFilter text tags => exact consultFor_error hc
  | nlpSimilarity a b => exact consultFor_error hc
  | getEnv key => simp only [answerNow] at hc; split at hc <;> cases hc
  | getShared key => simp only [answerNow] at hc; split at hc <;> cases hc
  | _ => cases hc

theorem fetch_error {s : Settings} {h h' : Host} {r : Request} {e : HostError}
    (hc : h.fetch s r = (h', .answered (.error e))) : FailsAtOnce h h' e := by
  unfold fetch at hc
  dsimp only at hc
  split at hc <;> cases hc
  · exact ⟨.inr ⟨_, rfl⟩, by simp⟩
  · exact ⟨.inr ⟨_, rfl⟩, by simp⟩

/-- Every call that is read either waits, or is refused for its length, or is carried out at
once. -/
theorem invoke_cases (s : Settings) (h : Host) (c : Call) :
    (∃ ms, c = .sleep ms ∧ h.invoke s c =
      if s.config.maxSleepMs < ms then
        (h, .answered (.error (.invalidArgument "sleep"
          (toString ms ++ " ms exceeds the " ++ toString s.config.maxSleepMs ++ " ms limit"))))
      else (h, .suspended (.sleep ms))) ∨
      (∃ r, c = .httpFetch r ∧ h.invoke s c = h.fetch s r) ∨
      (∃ key, c = .waitShared key ∧ h.invoke s c = h.waitShared s key) ∨
      h.invoke s c = ((h.answerNow s c).1, .answered (h.answerNow s c).2) := by
  cases c with
  | sleep ms => exact .inl ⟨ms, rfl, rfl⟩
  | httpFetch r => exact .inr (.inl ⟨r, rfl, rfl⟩)
  | waitShared key => exact .inr (.inr (.inl ⟨key, rfl, rfl⟩))
  | _ => exact .inr (.inr (.inr rfl))

theorem invoke_error {s : Settings} {h h' : Host} {c : Call} {e : HostError}
    (hc : h.invoke s c = (h', .answered (.error e))) : FailsAtOnce h h' e := by
  obtain ⟨ms, rfl, heq⟩ | ⟨r, rfl, heq⟩ | ⟨key, rfl, heq⟩ | heq := invoke_cases s h c
  · rw [heq] at hc
    split at hc <;> cases hc
    exact ⟨.inl rfl, by simp⟩
  · exact fetch_error (heq ▸ hc)
  · rw [heq, waitShared] at hc
    split at hc <;> cases hc
  · rw [heq] at hc
    obtain ⟨rfl, herr⟩ := Prod.mk.inj hc
    exact answerNow_error (Prod.ext rfl (Progress.answered.inj herr))

/-! ## The first step of a call -/

variable {s : Settings} {cancelled : Bool} {h h' : Host} {name argsText : String}

theorem exists_of_mapError {ε ε' α : Type} {x : Except ε α} {f : ε → ε'} {e : ε'}
    (hx : x.mapError f = .error e) : ∃ e₁, x = .error e₁ ∧ e = f e₁ := by
  cases x with
  | error e₁ => exact ⟨e₁, rfl, (Except.error.inj hx).symm⟩
  | ok a => cases hx

theorem readCall_error {e : HostError} (hread : readCall name argsText = .error e) :
    ∀ key, e ≠ .timeout key := by
  rintro key rfl
  unfold readCall at hread
  cases hargs : readArguments name argsText with
  | error e₁ =>
    rw [hargs] at hread
    obtain ⟨f, -, rfl⟩ := exists_of_mapError hargs
    cases hread
  | ok args =>
    rw [hargs] at hread
    have hparse : Call.parse name args = .error (.timeout key) := hread
    unfold Call.parse at hparse
    split at hparse
    · cases hparse
    · obtain ⟨fault, -, hfault⟩ := exists_of_mapError hparse
      cases hfault

theorem call_unread {e : HostError} (hread : readCall name argsText = .error e) :
    h.call s cancelled name argsText = (h, .answered (.error e)) := by
  rw [call, hread]

/-- An error at once leaves all as it was, but for one visit to a collaborator. -/
theorem call_error {e : HostError}
    (hc : h.call s cancelled name argsText = (h', .answered (.error e))) :
    FailsAtOnce h h' e := by
  unfold call at hc
  split at hc
  · rename_i e' hread
    cases hc
    exact ⟨.inl rfl, readCall_error hread⟩
  · split at hc
    · cases hc
      exact ⟨.inl rfl, by simp⟩
    · exact invoke_error hc

theorem call_suspended {on : Suspension}
    (hc : h.call s cancelled name argsText = (h', .suspended on)) :
    (∃ ms, on = .sleep ms ∧ h' = h) ∨ (∃ r, on = .network ∧ h' = h.visit (.http r)) ∨
      ∃ key, on = .wait key h.world.store.nextWait ∧ readCall name argsText =
        .ok (.waitShared key) ∧
        h' = h.withStore (h.world.store.begin key) := by
  unfold call at hc
  split at hc
  · cases hc
  · rename_i c hread
    split at hc
    · cases hc
    · -- only a sleep, a request and a wait for a shared value can suspend
      obtain ⟨ms, rfl, heq⟩ | ⟨r, rfl, heq⟩ | ⟨key, rfl, heq⟩ | heq := invoke_cases s h c
      · rw [heq] at hc
        split at hc <;> cases hc
        exact .inl ⟨ms, rfl, rfl⟩
      · rw [heq, fetch] at hc
        split at hc <;> cases hc
        exact .inr (.inl ⟨r, rfl, rfl⟩)
      · rw [heq, waitShared] at hc
        split at hc <;> cases hc
        exact .inr (.inr ⟨key, rfl, hread, rfl⟩)
      · rw [heq] at hc
        cases hc

/-! ## The last step of a call that waited -/

/-- The line a failed call leaves in the log: one if the time of a shared value is over, and else
none. -/
def failureLines (s : Settings) (scope : String) : HostError → List LogEntry
  | .timeout key => [⟨.error, s.now, scope, sharedMissing key⟩]
  | _ => []

/-- What the end of a call does to the store: a wait for a shared value is taken back, after it may
have gone on once more. -/
def TakesBack (on : Suspension) (store store' : Store) : Prop :=
  match on with
  | .wait _ id => store' = store.abandon id ∨ store' = (store.resume id).abandon id
  | _ => store' = store

/-- How a call that waited ends in an error. -/
structure EndsInError (s : Settings) (h : Host) (on : Suspension) (h' : Host) (e : HostError) :
    Prop where
  inst : h'.inst = { h.inst with logs := h.inst.logs ++ failureLines s h.inst.scope e }
  visits : h'.world.visits = h.world.visits
  timeout : ∀ key, e = .timeout key → ∃ id, on = .wait key id
  store : TakesBack on h.world.store h'.world.store

theorem conclude_error {on : Suspension} {e : HostError} (hc : h.conclude s on = (h', .error e)) :
    EndsInError s h on h' e := by
  cases on with
  | sleep ms => cases hc
  | network =>
    cases hc
    exact ⟨by simp [failureLines], rfl, by simp, rfl⟩
  | wait key id =>
    unfold conclude at hc
    dsimp only at hc
    split at hc <;> cases hc
    exact ⟨rfl, rfl, fun key' hkey => ⟨id, by cases hkey; rfl⟩, .inr rfl⟩

theorem interrupt_error {on : Suspension} {e : HostError} (hc : h.interrupt on = (h', .error e)) :
    EndsInError s h on h' e := by
  cases on with
  | wait key id =>
    cases hc
    exact ⟨by simp [failureLines, withStore], rfl, by simp, .inl rfl⟩
  | _ =>
    cases hc
    exact ⟨by simp [failureLines], rfl, by simp, rfl⟩

theorem TakesBack.value {on : Suspension} {store store' : Store} (ht : TakesBack on store store')
    (key : String) : (store'.slot key).value = (store.slot key).value := by
  cases on with
  | wait k id =>
    obtain rfl | rfl := ht
    · exact Store.value_abandon store id key
    · rw [Store.value_abandon, Store.value_resume]
  | _ => rw [show store' = store from ht]

theorem TakesBack.not_live {store store' : Store} {k : String} {id : Nat} (hs : store.Sound)
    (ht : TakesBack (.wait k id) store store') (key : String) : id ∉ store'.live key := by
  obtain rfl | rfl := ht
  · exact Store.not_live_abandon hs id key
  · exact Store.not_live_abandon (Store.sound_step hs (.resume id)) id key

/-! ## Whole calls -/

/-- How a call may be answered. After its first step the host is `h₁`; it is answered at once, or
others move the world to `w` while it waits, and its last step leads from there to `h'`. -/
inductive Answers (s : Settings) (cancelled : Bool) (h : Host) (name argsText : String) :
    Host → World → Host → Answer → Prop where
  | atOnce {h₁ : Host} {a : Answer} (hcall : h.call s cancelled name argsText = (h₁, .answered a)) :
    Answers s cancelled h name argsText h₁ h₁.world h₁ a
  | concluded {h₁ h' : Host} {on : Suspension} {w : World} {a : Answer} (others : List Store.Step)
    (hcall : h.call s cancelled name argsText = (h₁, .suspended on))
    (hothers : w.store = h₁.world.store.run others)
    (hend : (⟨h₁.inst, w⟩ : Host).conclude s on = (h', a)) :
    Answers s cancelled h name argsText h₁ w h' a
  | interrupted {h₁ h' : Host} {on : Suspension} {w : World} {a : Answer} (others : List Store.Step)
    (hcall : h.call s cancelled name argsText = (h₁, .suspended on))
    (hothers : w.store = h₁.world.store.run others)
    (hend : (⟨h₁.inst, w⟩ : Host).interrupt on = (h', a)) :
    Answers s cancelled h name argsText h₁ w h' a

/-- A call by hand is answered in one of these ways, whatever happens while it waits. -/
theorem answers_answerWhile (s : Settings) (cancelled : Bool) (h : Host) (name argsText : String)
    (meanwhile : Suspension → Meanwhile) :
    ∃ h₁ w, Answers s cancelled h name argsText h₁ w
      (h.answerWhile s cancelled name argsText meanwhile).1
      (h.answerWhile s cancelled name argsText meanwhile).2.2 := by
  rcases hcall : h.call s cancelled name argsText with ⟨h₁, a | on⟩
  · exact ⟨h₁, h₁.world, by simpa [answerWhile, hcall] using .atOnce hcall⟩
  · simp only [answerWhile, hcall]
    cases meanwhile on with
    | nothing => exact ⟨h₁, h₁.world, .concluded [] hcall rfl rfl⟩
    | share key value =>
      exact ⟨h₁, (h₁.withStore (h₁.world.store.set key value)).world,
        .concluded [.set key value] hcall rfl rfl⟩
    | cancel => exact ⟨h₁, h₁.world, .interrupted [] hcall rfl rfl⟩

/-- What a failed call leaves behind. The names are those of `Answers`. -/
structure LeavesNothing (s : Settings) (h : Host) (name argsText : String) (h₁ : Host) (w : World)
    (h' : Host) (e : HostError) : Prop where
  /-- The instance waits as it was. -/
  first : h₁.inst = h.inst
  /-- In the end it is as it was, but for the line that tells of a shared value not found in
  time. -/
  inst : h'.inst = { h.inst with logs := h.inst.logs ++ failureLines s h.inst.scope e }
  timeout : ∀ key, e = .timeout key → readCall name argsText = .ok (.waitShared key)
  /-- Neither step changes a shared value. -/
  values : ∀ key, (h₁.world.store.slot key).value = (h.world.store.slot key).value ∧
    (h'.world.store.slot key).value = (w.store.slot key).value
  /-- The call has begun no wait, or its wait is registered nowhere any more. -/
  waits : (h₁.world.store = h.world.store ∧ h'.world.store = w.store) ∨
    ∀ key, h.world.store.nextWait ∉ h'.world.store.live key
  /-- A text that is no call does nothing at all. -/
  unread : ∀ e', readCall name argsText = .error e' → h₁ = h ∧ w = h.world ∧ h' = h
  /-- A sleep asks no collaborator. -/
  sleep : ∀ ms, readCall name argsText = .ok (.sleep ms) →
    h₁.world.visits = h.world.visits ∧ h'.world.visits = w.visits

theorem FailsAtOnce.inst {e : HostError} (hf : FailsAtOnce h h' e) : h'.inst = h.inst := by
  obtain rfl | ⟨v, rfl⟩ := hf.visits <;> rfl

theorem FailsAtOnce.store {e : HostError} (hf : FailsAtOnce h h' e) :
    h'.world.store = h.world.store := by
  obtain rfl | ⟨v, rfl⟩ := hf.visits <;> rfl

theorem failureLines_eq_nil {e : HostError} (he : ∀ key, e ≠ .timeout key) (scope : String) :
    failureLines s scope e = [] := by
  cases e with
  | timeout key => exact absurd rfl (he key)
  | _ => rfl

theorem call_sleep {ms : Nat} {answer : Progress} (hread : readCall name argsText = .ok (.sleep ms))
    (hcall : h.call s cancelled name argsText = (h', answer)) : h' = h := by
  rw [call, hread] at hcall
  dsimp only at hcall
  split at hcall
  · cases hcall
    rfl
  · rw [invoke] at hcall
    split at hcall <;> cases hcall <;> rfl

theorem leavesNothing_atOnce {h₁ : Host} {e : HostError}
    (hcall : h.call s cancelled name argsText = (h₁, .answered (.error e))) :
    LeavesNothing s h name argsText h₁ h₁.world h₁ e := by
  have hfails := call_error hcall
  refine ⟨hfails.inst, ?_, fun key hkey => absurd hkey (hfails.untimed key), fun key => ?_,
    .inl ⟨hfails.store, rfl⟩, fun e' hread => ?_, fun ms hread => ?_⟩
  · rw [failureLines_eq_nil hfails.untimed, List.append_nil, hfails.inst]
  · rw [hfails.store]
    exact ⟨rfl, rfl⟩
  · rw [call_unread hread] at hcall
    cases hcall
    exact ⟨rfl, rfl, rfl⟩
  · rw [call_sleep hread hcall]
    exact ⟨rfl, rfl⟩

theorem leavesNothing_ended {h₁ : Host} {on : Suspension} {w : World} {e : HostError}
    (hs : h.world.store.Sound) (others : List Store.Step)
    (hcall : h.call s cancelled name argsText = (h₁, .suspended on))
    (hothers : w.store = h₁.world.store.run others) (hend : EndsInError s ⟨h₁.inst, w⟩ on h' e) :
    LeavesNothing s h name argsText h₁ w h' e := by
  have hfirst : h₁.inst = h.inst := by
    obtain ⟨_, -, rfl⟩ | ⟨_, -, rfl⟩ | ⟨_, -, -, rfl⟩ := call_suspended hcall <;> rfl
  refine ⟨hfirst, hfirst ▸ hend.inst, fun key hkey => ?_, fun key => ⟨?_, hend.store.value key⟩, ?_,
    fun e' hread => ?_, fun ms hread => ⟨?_, hend.visits⟩⟩
  · obtain ⟨id, rfl⟩ := hend.timeout key hkey
    obtain ⟨_, hon, -⟩ | ⟨_, hon, -⟩ | ⟨key', hon, hread, -⟩ := call_suspended hcall
    · cases hon
    · cases hon
    · cases hon
      exact hread
  · obtain ⟨_, -, rfl⟩ | ⟨_, -, rfl⟩ | ⟨key', -, -, rfl⟩ := call_suspended hcall
    · rfl
    · rfl
    · exact Store.value_begin _ key' key
  · obtain ⟨_, rfl, rfl⟩ | ⟨_, rfl, rfl⟩ | ⟨key', rfl, -, rfl⟩ := call_suspended hcall
    · exact .inl ⟨rfl, hend.store⟩
    · exact .inl ⟨rfl, hend.store⟩
    · -- whatever the others did, the store is still sound when the wait is taken back
      have hw : w.store.Sound :=
        hothers ▸ Store.sound_run (Store.sound_step hs (.begin key')) others
      exact .inr (hend.store.not_live hw)
  · rw [call_unread hread] at hcall
    cases hcall
  · rw [call_sleep hread hcall]

end Host

open Host in
/-- Whenever a call is answered by an error, it has left its instance, the shared values and the
waits as they were; only a shared value that did not come in time is told in the log. -/
theorem failed_call_changes_nothing (s : Settings) (cancelled : Bool) (h : Host)
    (name argsText : String) (before : List Store.Step)
    (hstore : h.world.store = Store.empty.run before) (h₁ : Host) (w : World) (h' : Host)
    (e : HostError) (hanswer : Answers s cancelled h name argsText h₁ w h' (.error e)) :
    LeavesNothing s h name argsText h₁ w h' e := by
  have hs : h.world.store.Sound := hstore ▸ Store.sound_reached before
  cases hanswer with
  | atOnce hcall => exact leavesNothing_atOnce hcall
  | concluded others hcall hothers hend =>
    exact leavesNothing_ended hs others hcall hothers (conclude_error hend)
  | interrupted others hcall hothers hend =>
    exact leavesNothing_ended hs others hcall hothers (interrupt_error hend)

open Host in
/-- The call that does leave something: a shared value that nobody sets in time. -/
theorem failed_call_changes_nothing_timeout :
    let s : Settings := default
    let h : Host := ⟨.ofSetup .nil 0 ⟨"case", .null, [], none⟩, .empty⟩
    let h₁ := h.withStore (h.world.store.begin "k")
    let h' := (h₁.conclude s (.wait "k" 0)).1
    (h.world.store = Store.empty.run [] ∧
        Answers s false h "wait_shared" "[\"k\"]" h₁ h₁.world h' (.error (.timeout "k"))) ∧
      LeavesNothing s h "wait_shared" "[\"k\"]" h₁ h₁.world h' (.timeout "k") := by
  intro s h h₁ h'
  have hanswer : Answers s false h "wait_shared" "[\"k\"]" h₁ h₁.world h' (.error (.timeout "k")) :=
    .concluded [] rfl rfl rfl
  exact ⟨⟨rfl, hanswer⟩,
    failed_call_changes_nothing s false h "wait_shared" "[\"k\"]" [] rfl h₁ h₁.world h' _ hanswer⟩

end ScriptBench
