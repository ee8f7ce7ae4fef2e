import ScriptBench.Proofs.Host.Solo
import ScriptBench.Proofs.Shared.Wakeup

/-!
A caller and its lone instance.

Whatever a caller does in a world it shares, a lone instance can do after it: it is told the same
deeds and what the reads of shared values have found, tells the same history, and stands where the
caller stands (`Tracks.act`). Under keys that nobody else sets it finds what is in its own store; a
wait for such a key is never woken by others (`Store.Idle`). What others do meanwhile does not move
it (`Tracks.others`).
-/
namespace ScriptBench

namespace Store

variable {s : Store} {key : String} {id : Nat} {steps : List Step}

theorem get?_run (s : Store) (steps : List Step) (key : String) :
    (s.run steps).get? key = ((lastSet? key steps).map fun v => decode v.text).or (s.get? key) := by
  rw [get?, value_run, get?]
  cases lastSet? key steps <;> rfl

theorem get?_run_of_unset (h : ∀ st ∈ steps, st.sets? key = none) :
    (s.run steps).get? key = s.get? key := by
  rw [get?_run, lastSet?_eq_none h]
  rfl

theorem result_begin (s : Store) (key : String) :
    (s.begin key).result? s.nextWait = s.get? key := by
  have hlast (phase : WaitPhase) : (s.waits ++ [⟨key, phase, 1⟩])[s.nextWait]? =
      some ⟨key, phase, 1⟩ := by
    simp [nextWait]
  cases hv : (s.slot key).value with
  | some text => simp [begin_of_value hv, result?, phase, hlast, get?, hv]
  | none => simp [begin_of_none hv, result?, phase, hlast, get?, hv]

/-- A wait for a key without a value, asleep or given up. -/
structure Idle (s : Store) (key : String) (id : Nat) : Prop where
  unset : s.get? key = none
  wait : ∃ w, s.waits[id]? = some w ∧ w.key = key ∧ (w.phase = .parked ∨ w.phase = .abandoned)

theorem idle_begin (h : s.get? key = none) : (s.begin key).Idle key s.nextWait := by
  have hv : (s.slot key).value = none := Option.map_eq_none_iff.mp h
  refine ⟨?_, ⟨key, .parked, 1⟩, ?_, rfl, .inl rfl⟩
  · rw [get?, value_begin, hv]
    rfl
  · simp [begin_of_none hv, nextWait]

theorem Idle.run (hi : s.Idle key id) (hs : s.Sound) (h : ∀ st ∈ steps, st.sets? key = none) :
    (s.run steps).Idle key id := by
  induction steps generalizing s with
  | nil => exact hi
  | cons st rest ih =>
    have hst := h st List.mem_cons_self
    refine ih ?_ (sound_step hs st) fun st' hst' => h st' (List.mem_cons_of_mem _ hst')
    obtain ⟨w, hw, hkey, hphase⟩ := hi.wait
    refine ⟨?_, _, wait_step hs hw st, hkey, WaitPhase.idle_after hphase (hkey ▸ hst)⟩
    have hkept : (s.run [st]).get? key = s.get? key := get?_run_of_unset (by simpa using hst)
    exact hkept.trans hi.unset

theorem Idle.result_resume (hi : s.Idle key id) (hs : s.Sound) :
    (s.resume id).result? id = none := by
  obtain ⟨w, hw, -, hphase⟩ := hi.wait
  have hresume : s.resume id = s := by
    rw [hs.resume_eq, phase_eq hw]
    rcases hphase with hphase | hphase <;> rw [hphase]
  rw [hresume, result?, phase_eq hw]
  rcases hphase with hphase | hphase <;> rw [hphase]

end Store

namespace Host

variable {s : Settings} {cancelled : Bool} {h : Host} {name argsText key : String}

/-! ## Reads of shared values -/

theorem call_getShared (hread : readCall name argsText = .ok (.getShared key)) :
    h.call s cancelled name argsText =
      let r := Solo.readShared s h false (.getShared key) (h.world.store.get? key)
      (r.1, .answered r.2) := by
  rw [call, hread]
  simp only [Call.operation, Operation.isSuspending, Operation.kind, invoke, answerNow]
  cases h.world.store.get? key <;> rfl

theorem call_waitShared (hread : readCall name argsText = .ok (.waitShared key)) :
    h.call s cancelled name argsText =
      if cancelled then (h, .answered (.error .cancelled))
      else
        match h.world.store.get? key with
        | some v =>
          let r := Solo.readShared s (h.withStore (h.world.store.begin key)) false
            (.waitShared key) (some v)
          (r.1, .answered r.2)
        | none => (h.withStore (h.world.store.begin key),
            .suspended (.wait key h.world.store.nextWait)) := by
  rw [call, hread]
  simp only [Call.operation, Operation.isSuspending, Operation.kind, invoke, waitShared,
    Store.result_begin]
  cases cancelled
  · cases h.world.store.get? key <;> rfl
  · rfl

/-- The end of a wait is the end of a read that has found what the wait brought. -/
theorem conclude_wait (s : Settings) (h : Host) (key : String) (id : Nat) :
    ∃ steps, (∀ st ∈ steps, ∀ k, Store.Step.sets? k st = none) ∧
      h.conclude s (.wait key id) =
        Solo.readShared s (h.withStore (h.world.store.run steps)) false (.waitShared key)
          ((h.world.store.resume id).result? id) := by
  cases hresult : (h.world.store.resume id).result? id with
  | some v =>
    refine ⟨[.resume id], by simp [Store.Step.sets?], ?_⟩
    rw [conclude]
    simp only [hresult]
    rfl
  | none =>
    refine ⟨[.resume id, .abandon id], by simp [Store.Step.sets?], ?_⟩
    rw [conclude]
    simp only [hresult]
    rfl

theorem interrupt_wait (s : Settings) (h : Host) (key : String) (id : Nat) :
    h.interrupt (.wait key id) =
      Solo.readShared s (h.withStore (h.world.store.run [.abandon id])) true
        (.waitShared key) none := rfl

theorem together_readShared {h h' : Host} (ha : Alike h h') (cut : Bool) (c : Call)
    (found : Option Json) :
    Together [] h h' (Solo.readShared s h cut c found) (Solo.readShared s h' cut c found) := by
  unfold Solo.readShared
  split
  · exact together_log ha _ _ _
  · exact together_log ha _ _ _
  · exact together_log ha _ _ _
  · split
    · exact together_same ha _
    · exact together_log ha _ _ _
  · exact together_same ha _

end Host

/-! ## One caller and its lone instance -/

/-- A call that waits reads a shared value if and only if it waits for one. -/
def PendingCall.Sorted (p : PendingCall) : Prop :=
  match p.on with
  | .wait key _ => Host.readCall p.name p.argsText = .ok (.waitShared key)
  | _ => Host.callReads? p.name p.argsText = none

namespace Solo

/-- A lone instance that stands where a caller stands. Under some of the keys it has the values that
the caller's world has. -/
structure Tracks (own : String → Prop) (σ : Solo) (c : Caller) (w : World) : Prop where
  host : Host.Alike σ.host ⟨c.inst, w⟩
  logs : c.inst.logs = σ.host.inst.logs
  cancelled : c.cancelled = σ.cancelled
  due : σ.due = c.pending.map fun p => .ofSuspension p.on
  sorted : ∀ p, c.pending = some p → p.Sorted
  values : ∀ key, own key → σ.host.world.store.get? key = w.store.get? key
  /-- A wait for one of these keys would be answered already, had the key a value. -/
  idle : ∀ p key id, c.pending = some p → p.on = .wait key id → own key → w.store.Idle key id

variable {own : String → Prop} {s : Settings} {σ : Solo} {c : Caller} {w : World}

/-- When both do the same, perhaps after steps of the store that set none of the keys, the one still
stands where the other stands. -/
theorem Tracks.together (ht : Tracks own σ c w) {α : Type} {steps : List Store.Step}
    (others : List Store.Step) (hothers : ∀ key, own key → ∀ st ∈ others, st.sets? key = none)
    {r r' : Host × α}
    (htog : Host.Together steps σ.host ⟨c.inst, { w with store := w.store.run others }⟩ r r')
    {p : Option PendingCall} (hsorted : ∀ q, p = some q → q.Sorted)
    (hidle : ∀ q key id, p = some q → q.on = .wait key id → own key → r'.1.world.store.Idle key id)
    (history : List Happening) :
    Tracks own ⟨r.1, σ.cancelled, p.map fun q => .ofSuspension q.on⟩
      { c with inst := r'.1.inst, pending := p, history } r'.1.world := by
  have hhost : Host.Alike σ.host ⟨c.inst, { w with store := w.store.run others }⟩ :=
    ⟨ht.host.inst, ht.host.visits⟩
  obtain ⟨lines, visits, hm, hm'⟩ := htog.moved
  refine ⟨htog.alike hhost, ?_, ht.cancelled, rfl, hsorted, fun key hkey => ?_, hidle⟩
  · show r'.1.inst.logs = r.1.inst.logs
    rw [hm.logs, hm'.logs, ht.logs]
  · show r.1.world.store.get? key = r'.1.world.store.get? key
    rw [hm.store, hm'.store, Store.get?_run, Store.get?_run,
      Store.get?_run_of_unset (hothers key hkey), ht.values key hkey]

/-- What happened to the world by others leaves the caller where it stands. -/
theorem Tracks.others (ht : Tracks own σ c w) (hs : w.store.Sound) {w' : World}
    (steps : List Store.Step) (hstore : w'.store = w.store.run steps)
    (hsteps : ∀ key, own key → ∀ st ∈ steps, st.sets? key = none)
    (hvisits : Visits.own c.inst.number w'.visits = Visits.own c.inst.number w.visits) :
    Tracks own σ c w' where
  host := ⟨ht.host.inst, hvisits.trans ht.host.visits⟩
  logs := ht.logs
  cancelled := ht.cancelled
  due := ht.due
  sorted := ht.sorted
  values key hkey := by
    rw [hstore, Store.get?_run_of_unset (hsteps key hkey)]
    exact ht.values key hkey
  idle p key id hp hon hkey := by
    rw [hstore]
    exact (ht.idle p key id hp hon hkey).run hs (hsteps key hkey)

/-- What a caller has told by an act, and where its lone instance stands then. -/
def Follows (own : String → Prop) (σ : Solo) (c c' : Caller) (w' : World) : Prop :=
  ∃ xs τ, c'.history = c.history ++ xs ∧ Lives own c.settings σ xs τ ∧ Tracks own τ c' w'

theorem Tracks.stays (ht : Tracks own σ c w) : Follows own σ c c w :=
  ⟨[], σ, (List.append_nil _).symm, rfl, ht⟩

theorem foresee_of_reads_none {d : Deed} (h : d.reads? = none) (σ : Solo) : σ.foresee d = none := by
  unfold foresee
  split
  · rw [h]
    rfl
  · rfl

/-- A call that depends on a shared value finds the one of the lone host. -/
theorem foresee_shared (hdue : σ.due = some .shared) {name argsText key : String}
    (hreads : Host.callReads? name argsText = some key) (cut : Bool) :
    σ.foresee (.answered name argsText cut) = σ.host.world.store.get? key := by
  rw [foresee, hdue]
  simp only [Deed.reads?, hreads, Option.bind_some]

theorem answer_shared (s : Settings) (hdue : σ.due = some .shared) {name argsText : String}
    {call : Call} (hread : Host.readCall name argsText = .ok call) (cut : Bool)
    (found : Option Json) :
    σ.answer s name argsText cut found = readShared s σ.host cut call found := by
  rw [Solo.answer, hdue]
  dsimp only
  rw [hread]

theorem lives_one {x : Happening} (hreads : x.deed.reads? = none) (hfound : x.found? = none)
    {τ : Solo} (hstep : σ.step s none x.deed = (τ, x)) : Lives own s σ [x] τ := by
  refine ⟨fun _ => ?_, τ, ?_, rfl⟩
  · rw [hfound, foresee_of_reads_none hreads]
  · rw [hfound]
    exact hstep

theorem found_of_reads_none {name argsText : String} (hreads : Host.callReads? name argsText = none)
    (store : Store) (a : Answer) : Caller.found store name argsText a = none := by
  unfold Caller.found
  split
  · rename_i hread
    cases hreads.symm.trans (Host.callReads_eq hread)
  · rename_i hread
    cases hreads.symm.trans (Host.callReads_eq hread)
  · rfl

variable {name argsText : String} {steps : List Store.Step}

theorem found_of_wait {key : String} (hread : Host.readCall name argsText = .ok (.waitShared key))
    (store : Store) (a : Answer) : Caller.found store name argsText a = a.toOption := by
  rw [Caller.found, hread]

theorem toOption_readShared (s : Settings) (h : Host) (cut : Bool) (key : String)
    (found : Option Json) :
    (readShared s h cut (.waitShared key) found).2.toOption = found := by
  cases found with
  | some v => rfl
  | none => cases cut <;> rfl

theorem Tracks.answered (ht : Tracks own σ c w) (hfree : c.pending = none) {r r' : Host × Answer}
    (others : List Store.Step) (hothers : ∀ key, own key → ∀ st ∈ others, st.sets? key = none)
    (htog : Host.Together steps σ.host ⟨c.inst, { w with store := w.store.run others }⟩ r r')
    (hcall : Host.call c.settings c.cancelled ⟨c.inst, w⟩ name argsText = (r'.1, .answered r'.2))
    (hcancelled : (σ.call c.settings name argsText).cancelled = σ.cancelled)
    (hsolo : (σ.call c.settings name argsText).answer c.settings name argsText false
      (Caller.found w.store name argsText r'.2) = r)
    (hforesee : (∀ key, Host.callReads? name argsText = some key → own key) →
      Caller.found w.store name argsText r'.2 =
        (σ.call c.settings name argsText).foresee (.answered name argsText false)) :
    Follows own σ c (c.call w name argsText).1 (c.call w name argsText).2 := by
  obtain ⟨settings, setup, inst, cancelled, pending, history⟩ := c
  obtain rfl : pending = none := hfree
  dsimp only at hcall htog hsolo
  have htracks := ht.together others hothers htog (p := none) (by simp) (by simp)
    (history ++ [.called name argsText,
      .answered name argsText r'.2 false (Caller.found w.store name argsText r'.2)])
  refine ⟨[.called name argsText,
      .answered name argsText r'.2 false (Caller.found w.store name argsText r'.2)],
    ⟨r.1, σ.cancelled, none⟩, ?_, ⟨fun _ => ?_, _, rfl, hforesee, _, ?_, rfl⟩, ?_⟩
  · simp only [Caller.call, hcall, Caller.note]
  · rw [foresee_of_reads_none rfl]
    rfl
  · simp only [step, Happening.deed, Happening.found?, hsolo, hcancelled]
    rw [htog.result]
  · simp only [Caller.call, hcall, Caller.note]
    exact htracks

theorem Tracks.suspended (ht : Tracks own σ c w) (hfree : c.pending = none) {h h' : Host}
    (on : Suspension)
    (others : List Store.Step) (hothers : ∀ key, own key → ∀ st ∈ others, st.sets? key = none)
    (htog : Host.Together steps σ.host ⟨c.inst, { w with store := w.store.run others }⟩
      (h, ()) (h', ()))
    (hcall : Host.call c.settings c.cancelled ⟨c.inst, w⟩ name argsText = (h', .suspended on))
    (hsolo : σ.call c.settings name argsText = ⟨h, σ.cancelled, some (.ofSuspension on)⟩)
    (hsorted : PendingCall.Sorted ⟨name, argsText, on⟩)
    (hidle : ∀ key id, on = .wait key id → own key → h'.world.store.Idle key id) :
    Follows own σ c (c.call w name argsText).1 (c.call w name argsText).2 := by
  obtain ⟨settings, setup, inst, cancelled, pending, history⟩ := c
  obtain rfl : pending = none := hfree
  dsimp only at hcall htog hsolo
  have htracks := ht.together others hothers htog (p := some ⟨name, argsText, on⟩)
    (fun q hq => Option.some.inj hq ▸ hsorted)
    (fun q key id hq hon => by cases hq; exact hidle key id hon)
      (history ++ [.called name argsText])
  refine ⟨[.called name argsText], ⟨h, σ.cancelled, some (.ofSuspension on)⟩, ?_,
    lives_one rfl rfl ?_, ?_⟩
  · simp only [Caller.call, hcall, Caller.note]
  · simp only [step, Happening.deed, hsolo]
  · simp only [Caller.call, hcall, Caller.note]
    exact htracks

theorem Tracks.finished (ht : Tracks own σ c w) {p : PendingCall} (cut : Bool)
    {r r' : Host × Answer} (others : List Store.Step)
    (hothers : ∀ key, own key → ∀ st ∈ others, st.sets? key = none)
    (htog : Host.Together steps σ.host ⟨c.inst, { w with store := w.store.run others }⟩ r r')
    (hsolo : σ.answer c.settings p.name p.argsText cut
      (Caller.found r'.1.world.store p.name p.argsText r'.2) = r)
    (hforesee : (∀ key, Host.callReads? p.name p.argsText = some key → own key) →
      Caller.found r'.1.world.store p.name p.argsText r'.2 =
      σ.foresee (.answered p.name p.argsText cut)) :
    Follows own σ c (c.finish p cut r').1 (c.finish p cut r').2 := by
  have htracks := ht.together others hothers htog (p := none) (by simp) (by simp)
    (c.history ++ [.answered p.name p.argsText r'.2 cut
      (Caller.found r'.1.world.store p.name p.argsText r'.2)])
  refine ⟨[.answered p.name p.argsText r'.2 cut
    (Caller.found r'.1.world.store p.name p.argsText r'.2)],
    _, rfl, ⟨hforesee, _, ?_, rfl⟩, htracks⟩
  simp only [step, Happening.deed, Happening.found?, hsolo]
  rw [htog.result]
  rfl

theorem Tracks.callAlone (ht : Tracks own σ c w)
    (halone : c.settings.collaborators.AnswersEachAlone) (hfree : c.pending = none)
    (hreads : Host.callReads? name argsText = none) :
    Follows own σ c (c.call w name argsText).1 (c.call w name argsText).2 := by
  have hboth : Host.Together _ σ.host ⟨c.inst, w⟩ (σ.host.call c.settings c.cancelled name argsText)
      (Host.call c.settings c.cancelled ⟨c.inst, w⟩ name argsText) :=
    Host.call_together (ht.host.sameReplies halone) ht.host hreads
  have hσ := call_of_reads_none (s := c.settings) (σ := σ) hreads
  rw [Solo.callAlone, ← ht.cancelled] at hσ
  revert hboth hσ
  rcases σ.host.call c.settings c.cancelled name argsText with ⟨h, r⟩
  rcases hcall : Host.call c.settings c.cancelled ⟨c.inst, w⟩ name argsText with ⟨h', r'⟩
  intro hboth hσ
  obtain rfl : r' = r := hboth.result
  cases r' with
  | answered a =>
    have hfound := found_of_reads_none hreads w.store a
    have htog : Host.Together _ σ.host ⟨c.inst, w⟩ (h, a) (h', a) := ⟨rfl, hboth.inst, hboth.moved⟩
    refine ht.answered hfree [] (by simp) htog hcall ?_ ?_ ?_
    · rw [hσ, ht.cancelled]
    · rw [hσ]
      rfl
    · intro _
      rw [hfound,
        foresee_of_reads_none (show Deed.reads? (.answered name argsText false) = none from hreads)]
  | suspended on =>
    have hnot : ∀ key id, on ≠ .wait key id := by
      rintro key id rfl
      obtain ⟨_, hon, -⟩ | ⟨_, hon, -⟩ | ⟨key', -, hread, -⟩ := Host.call_suspended hcall
      · cases hon
      · cases hon
      · cases hreads.symm.trans (Host.callReads_eq hread)
    have htog : Host.Together _ σ.host ⟨c.inst, w⟩ (h, ()) (h', ()) :=
      ⟨rfl, hboth.inst, hboth.moved⟩
    refine ht.suspended hfree on [] (by simp) htog hcall ?_ ?_ fun key id hon =>
      absurd hon (hnot key id)
    · rw [hσ, ht.cancelled]
    · cases on with
      | sleep ms => exact hreads
      | network => exact hreads
      | wait key id => exact absurd rfl (hnot key id)

theorem Tracks.callGet (ht : Tracks own σ c w) (hfree : c.pending = none) {key : String}
    (hread : Host.readCall name argsText = .ok (.getShared key)) :
    Follows own σ c (c.call w name argsText).1 (c.call w name argsText).2 := by
  have hfound (a : Answer) : Caller.found w.store name argsText a = w.store.get? key := by
    rw [Caller.found, hread]
  have hcalled : σ.call c.settings name argsText = { σ with due := some .shared } := by
    rw [Solo.call, hread]
  have htog : Host.Together [] σ.host ⟨c.inst, w⟩
      (readShared c.settings σ.host false (.getShared key) (w.store.get? key))
      (readShared c.settings ⟨c.inst, w⟩ false (.getShared key) (w.store.get? key)) :=
    Host.together_readShared ht.host false (.getShared key) (w.store.get? key)
  refine ht.answered hfree [] (by simp) htog (Host.call_getShared hread) ?_ ?_ fun hkeys => ?_
  · rw [hcalled]
  · rw [hfound, hcalled, answer_shared c.settings rfl hread]
  · have hreads : Host.callReads? name argsText = some key := Host.callReads_eq hread
    rw [hfound, hcalled, foresee_shared rfl hreads]
    exact (ht.values key (hkeys key hreads)).symm

theorem Tracks.callWait (ht : Tracks own σ c w) (hfree : c.pending = none) {key : String}
    (hread : Host.readCall name argsText = .ok (.waitShared key)) :
    Follows own σ c (c.call w name argsText).1 (c.call w name argsText).2 := by
  have hcalled : σ.call c.settings name argsText =
      { σ with due := some (if σ.cancelled then .answer (.error .cancelled) else .shared) } := by
    rw [Solo.call, hread]
  have hfound := found_of_wait hread w.store
  have hcall : Host.call c.settings c.cancelled ⟨c.inst, w⟩ name argsText = _ :=
    Host.call_waitShared hread
  have hbegin : ∀ k, own k → ∀ st ∈ [Store.Step.begin key], st.sets? k = none := by
    simp [Store.Step.sets?]
  -- the caller once the wait has begun
  let begun : Host := ⟨c.inst, { w with store := w.store.run [.begin key] }⟩
  have hbegun : Host.Alike σ.host begun := ⟨ht.host.inst, ht.host.visits⟩
  cases hcancelled : c.cancelled with
  | true =>
    rw [hcancelled] at hcall
    have hσ : σ.cancelled = true := ht.cancelled ▸ hcancelled
    refine ht.answered hfree [] (by simp) (Host.together_same ht.host (.error .cancelled))
      (by rw [hcancelled]; exact hcall) ?_ ?_ fun _ => ?_
    · rw [hcalled]
    · rw [hcalled, hσ]
      rfl
    · rw [hfound, hcalled, hσ]
      rfl
  | false =>
    rw [hcancelled] at hcall
    have hσ : σ.cancelled = false := ht.cancelled ▸ hcancelled
    cases hvalue : w.store.get? key with
    | some v =>
      simp only [hvalue] at hcall
      have htog : Host.Together [] σ.host begun
          (readShared c.settings σ.host false (.waitShared key) (some v))
          (readShared c.settings begun false (.waitShared key) (some v)) :=
        Host.together_readShared hbegun false (.waitShared key) (some v)
      refine ht.answered hfree [.begin key] hbegin htog (by rw [hcancelled]; exact hcall) ?_ ?_
        fun hkeys => ?_
      · rw [hcalled]
      · rw [hfound, hcalled, hσ, answer_shared c.settings rfl hread]
        rfl
      · have hreads : Host.callReads? name argsText = some key := Host.callReads_eq hread
        rw [hfound, hcalled, hσ, foresee_shared rfl hreads, ht.values key (hkeys key hreads)]
        exact hvalue.symm
    | none =>
      simp only [hvalue] at hcall
      refine ht.suspended hfree (.wait key w.store.nextWait) [.begin key] hbegin
        (Host.together_same hbegun ())
        (by rw [hcancelled]; exact hcall) ?_ hread ?_
      · rw [hcalled, hσ]
        rfl
      · intro key' id hon _
        cases hon
        exact Store.idle_begin hvalue

theorem Tracks.call (ht : Tracks own σ c w) (halone : c.settings.collaborators.AnswersEachAlone)
    (name argsText : String) :
    Follows own σ c (c.call w name argsText).1 (c.call w name argsText).2 := by
  cases hpending : c.pending with
  | some p =>
    have hbusy : c.call w name argsText = (c, w) := by rw [Caller.call, hpending]
    rw [hbusy]
    exact ht.stays
  | none =>
    cases hreads : Host.callReads? name argsText with
    | none => exact ht.callAlone halone hpending hreads
    | some key =>
      obtain hread | hread := Host.of_callReads hreads
      · exact ht.callGet hpending hread
      · exact ht.callWait hpending hread

theorem Tracks.goOn (ht : Tracks own σ c w) (hs : w.store.Sound) :
    Follows own σ c (c.goOn w).1 (c.goOn w).2 := by
  rw [Caller.goOn]
  cases hpending : c.pending with
  | none => exact ht.stays
  | some p =>
    have hsorted := ht.sorted p hpending
    have hdue : σ.due = some (.ofSuspension p.on) := by rw [ht.due, hpending]; rfl
    obtain ⟨name, argsText, on⟩ := p
    cases on with
    | network => exact ht.stays
    | sleep ms =>
      have hreads : Host.callReads? name argsText = none := hsorted
      have htog : Host.Together [] σ.host ⟨c.inst, w⟩ (σ.host, (.ok .null : Answer))
          (⟨c.inst, w⟩, .ok .null) :=
        Host.together_same ht.host _
      refine ht.finished false [] (by simp) htog ?_ fun _ => ?_
      · rw [Solo.answer, hdue]
        rfl
      · rw [found_of_reads_none hreads, foresee, hdue]
        rfl
    | wait key id =>
      have hread : Host.readCall name argsText = .ok (.waitShared key) := hsorted
      obtain ⟨steps, hsteps, hconclude⟩ := Host.conclude_wait c.settings ⟨c.inst, w⟩ key id
      let ended : Host := ⟨c.inst, { w with store := w.store.run steps }⟩
      let found := (w.store.resume id).result? id
      have hended : Host.Alike σ.host ended := ⟨ht.host.inst, ht.host.visits⟩
      have htog : Host.Together [] σ.host ended
          (readShared c.settings σ.host false (.waitShared key) found)
          (readShared c.settings ended false (.waitShared key) found) :=
        Host.together_readShared hended false (.waitShared key) found
      show Follows own σ c
        (c.finish ⟨name, argsText, .wait key id⟩ false
          (Host.conclude c.settings ⟨c.inst, w⟩ (.wait key id))).1
        (c.finish ⟨name, argsText, .wait key id⟩ false
          (Host.conclude c.settings ⟨c.inst, w⟩ (.wait key id))).2
      rw [hconclude]
      refine ht.finished false steps (fun k _ st hst => hsteps st hst k) htog ?_ fun hkeys => ?_
      · rw [found_of_wait hread, toOption_readShared, answer_shared c.settings hdue hread]
      · have hreads : Host.callReads? name argsText = some key := Host.callReads_eq hread
        have hidle := ht.idle _ key id hpending rfl (hkeys key hreads)
        have hnothing : found = none := hidle.result_resume hs
        rw [found_of_wait hread, toOption_readShared, foresee_shared hdue hreads,
          ht.values key (hkeys key hreads), hidle.unset]
        exact hnothing

theorem Tracks.cutOff (ht : Tracks own σ c w) : Follows own σ c (c.cutOff w).1 (c.cutOff w).2 := by
  rw [Caller.cutOff]
  cases hpending : c.pending with
  | none => exact ht.stays
  | some p =>
    have hsorted := ht.sorted p hpending
    have hdue : σ.due = some (.ofSuspension p.on) := by rw [ht.due, hpending]; rfl
    obtain ⟨name, argsText, on⟩ := p
    dsimp only
    split
    · cases on with
      | wait key id =>
        have hread : Host.readCall name argsText = .ok (.waitShared key) := hsorted
        let ended : Host := ⟨c.inst, { w with store := w.store.run [.abandon id] }⟩
        have hended : Host.Alike σ.host ended := ⟨ht.host.inst, ht.host.visits⟩
        have htog : Host.Together [] σ.host ended
          (readShared c.settings σ.host true (.waitShared key) none)
            (readShared c.settings ended true (.waitShared key) none) :=
          Host.together_readShared hended true (.waitShared key) none
        rw [Host.interrupt_wait c.settings]
        refine ht.finished true [.abandon id] (by simp [Store.Step.sets?]) htog ?_ fun hkeys => ?_
        · rw [found_of_wait hread, toOption_readShared, answer_shared c.settings hdue hread]
        · have hreads : Host.callReads? name argsText = some key := Host.callReads_eq hread
          have hidle := ht.idle _ key id hpending rfl (hkeys key hreads)
          rw [found_of_wait hread, toOption_readShared, foresee_shared hdue hreads,
            ht.values key (hkeys key hreads), hidle.unset]
      | _ =>
        have hreads : Host.callReads? name argsText = none := hsorted
        have htog : Host.Together [] σ.host ⟨c.inst, w⟩ (σ.host, (.error .cancelled : Answer))
            (⟨c.inst, w⟩, .error .cancelled) := Host.together_same ht.host _
        refine ht.finished true [] (by simp) htog ?_ fun _ => ?_
        · rw [Solo.answer, hdue]
          rfl
        · rw [found_of_reads_none hreads, foresee, hdue]
          rfl
    · exact ht.stays

/-- Whatever a caller does, its lone instance tells the same and stands where the caller stands. -/
theorem Tracks.act (ht : Tracks own σ c w) (halone : c.settings.collaborators.AnswersEachAlone)
    (hs : w.store.Sound) (a : Caller.Act) : Follows own σ c (c.act w a).1 (c.act w a).2 := by
  cases a with
  | call name argsText => exact ht.call halone name argsText
  | goOn => exact ht.goOn hs
  | cutOff => exact ht.cutOff
  | enterScope scope =>
    refine ⟨[.entered scope], { σ with host := σ.host.enterScope scope }, rfl,
      lives_one rfl rfl rfl, ?_⟩
    exact ⟨ht.host.enterScope scope, ht.logs, ht.cancelled, ht.due, ht.sorted, ht.values, ht.idle⟩
  | cancel =>
    refine ⟨[.cancelled], { σ with cancelled := true }, rfl, lives_one rfl rfl rfl, ?_⟩
    exact ⟨ht.host, ht.logs, rfl, ht.due, ht.sorted, ht.values, ht.idle⟩
  | log level message =>
    have htog : Host.Together [] σ.host ⟨c.inst, w⟩ (σ.host.log c.settings level message, ())
        (Host.log c.settings ⟨c.inst, w⟩ level message, ()) :=
          Host.together_log ht.host level message ()
    have htracks := ht.together [] (by simp) htog (p := c.pending) ht.sorted ht.idle
      (c.history ++ [.wrote level message])
    rw [← ht.due] at htracks
    exact ⟨[.wrote level message], _, rfl, lives_one rfl rfl rfl, htracks⟩
  | report status =>
    have hreport : σ.host.inst.report c.settings.now status =
        c.inst.report c.settings.now status := by
      have hinst : c.inst = { σ.host.inst with number := c.inst.number, logs := c.inst.logs } :=
        ht.host.inst
      rw [hinst, ht.logs]
      rfl
    refine ⟨[.reported status (c.inst.report c.settings.now status)], σ, rfl,
      lives_one rfl rfl ?_, ?_⟩
    · simp only [step, Happening.deed, hreport]
    · exact ⟨ht.host, ht.logs, ht.cancelled, ht.due, ht.sorted, ht.values, ht.idle⟩

end Solo

end ScriptBench
