import ScriptBench.Proofs.Host.Replay
import ScriptBench.Proofs.Host.Tracking

/-!
Instances meet in the shared store and nowhere else.

1. An act of a caller moves the world by steps of the store that set only keys its history tells of,
   and by visits in its own name (`acted_act`).
2. So in every party a caller is followed by a lone instance, which finds in its own store what is
   under keys that no other caller sets (`watched_run`).
3. Two callers, in whatever parties, who do the same and whose reads find the same have the same
   history and the same reports (`shared_store_is_only_channel`). That the reads are answered the
   same is enough for everything but the log, and not enough for the log
   (`read_answers_leave_log_open`).

That a call is cut off by a cancel is one of the deeds; that its time is over, or that it has been
woken, is not.
-/
namespace ScriptBench

/-- The key a call has set. -/
def Happening.sets? : Happening → Option String
  | .answered name argsText (.ok _) _ _ =>
    match Host.readCall name argsText with
    | .ok (.setShared key _) => some key
    | _ => none
  | _ => none

namespace Caller

/-- A call of the caller has set a key. -/
def Sets (c : Caller) (key : String) : Prop := ∃ x ∈ c.history, x.sets? = some key

/-- A call of the caller has read a key. -/
def Reads (c : Caller) (key : String) : Prop := ∃ x ∈ c.history, x.deed.reads? = some key

end Caller

namespace Host

/-! ## What a call does to the world -/

/-- The world after an instance has acted on it: steps of the store that set some of these keys, and
visits of its own. -/
structure Reaches (sets : String → Prop) (h h₁ : Host) : Prop where
  number : h₁.inst.number = h.inst.number
  store : ∃ steps, h₁.world.store = h.world.store.run steps ∧
    ∀ st ∈ steps, ∀ key, Store.Step.sets? key st ≠ none → sets key
  visits : ∃ visits : List Visit, h₁.world.visits = h.world.visits ++ visits.map (h.inst.number, ·)

variable {s : Settings} {cancelled : Bool} {h h₁ : Host} {name argsText : String}
  {sets : String → Prop}

theorem reaches_readShared (s : Settings) (h : Host) (steps : List Store.Step)
    (hsteps : ∀ st ∈ steps, ∀ key, Store.Step.sets? key st = none) (cut : Bool) (c : Call)
    (found : Option Json) :
    Reaches sets h (Solo.readShared s (h.withStore (h.world.store.run steps)) cut c found).1 := by
  obtain ⟨lines, visits, hm, -⟩ :=
    (together_readShared (s := s) (alike_refl (h.withStore (h.world.store.run steps)))
      cut c found).moved
  exact ⟨hm.number, ⟨steps, hm.store, fun st hst key hset => absurd (hsteps st hst key) hset⟩,
    visits, hm.visits⟩

theorem call_setShared {key : String} {v : Json}
    (hread : readCall name argsText = .ok (.setShared key v)) :
    (h.call s cancelled name argsText).2 = .answered (.ok .null) := by
  rw [call, hread]
  rfl

theorem sets_of_mem_callSteps {st : Store.Step} (hst : st ∈ callSteps name argsText) {key : String}
    (hset : st.sets? key ≠ none) : ∃ v, readCall name argsText = .ok (.setShared key v) := by
  unfold callSteps at hst
  split at hst
  · rename_i c hread
    cases c with
    | setShared k v =>
      rw [Call.storeSteps, List.mem_singleton] at hst
      subst hst
      by_cases hk : k = key
      · exact ⟨v, hk ▸ hread⟩
      · simp [Store.Step.sets?, hk] at hset
    | _ => cases hst
  · cases hst

theorem reaches_steps (h : Host) (steps : List Store.Step)
    (hsteps : ∀ st ∈ steps, ∀ key, Store.Step.sets? key st = none) :
    Reaches sets h (h.withStore (h.world.store.run steps)) :=
  ⟨rfl, ⟨steps, rfl, fun st hst key hset => absurd (hsteps st hst key) hset⟩, [],
    (List.append_nil _).symm⟩

theorem reaches_call (s : Settings) (cancelled : Bool) (h : Host) (name argsText : String) :
    Reaches (fun key => ∃ v, readCall name argsText = .ok (.setShared key v)) h
      (h.call s cancelled name argsText).1 := by
  cases hreads : callReads? name argsText with
  | none =>
    have htog : Together _ h h (h.call s cancelled name argsText)
        (h.call s cancelled name argsText) :=
      call_together (fun _ => rfl) (alike_refl h) hreads
    obtain ⟨lines, visits, hm, -⟩ := htog.moved
    exact ⟨hm.number, ⟨_, hm.store, fun st hst key hset => sets_of_mem_callSteps hst hset⟩,
      visits, hm.visits⟩
  | some key =>
    obtain hread | hread := of_callReads hreads
    · rw [call_getShared hread]
      exact reaches_readShared s h [] (by simp) false _ _
    · rw [call_waitShared hread]
      split
      · exact reaches_steps h [] (by simp)
      · split
        · exact reaches_readShared s h [.begin key] (by simp [Store.Step.sets?]) false _ _
        · exact reaches_steps h [.begin key] (by simp [Store.Step.sets?])

theorem reaches_conclude (s : Settings) (h : Host) (on : Suspension) :
    Reaches sets h (h.conclude s on).1 := by
  cases on with
  | wait key id =>
    obtain ⟨steps, hsteps, hconclude⟩ := conclude_wait s h key id
    rw [hconclude]
    exact reaches_readShared s h steps hsteps false _ _
  | sleep ms => exact reaches_steps h [] (by simp)
  | network => exact reaches_steps h [] (by simp)

theorem reaches_interrupt (h : Host) (on : Suspension) : Reaches sets h (h.interrupt on).1 := by
  cases on with
  | wait key id => exact reaches_steps h [.abandon id] (by simp [Store.Step.sets?])
  | sleep ms => exact reaches_steps h [] (by simp)
  | network => exact reaches_steps h [] (by simp)

end Host

namespace Caller

variable {c c' : Caller} {w w' : World}

/-- A caller and the world after an act of the caller. -/
structure Acted (c c' : Caller) (w w' : World) : Prop where
  history : ∃ xs, c'.history = c.history ++ xs
  reaches : Host.Reaches (c'.Sets) ⟨c.inst, w⟩ ⟨c'.inst, w'⟩

theorem Acted.quiet {xs : List Happening} (hhistory : c'.history = c.history ++ xs)
    (hnumber : c'.inst.number = c.inst.number) (hstore : w'.store = w.store)
    (hvisits : w'.visits = w.visits) : Acted c c' w w' :=
  ⟨⟨xs, hhistory⟩, hnumber, ⟨[], hstore, by simp⟩, [],
    by rw [hvisits]; exact (List.append_nil _).symm⟩

theorem acted_same (c : Caller) (w : World) : Acted c c w w :=
  .quiet (List.append_nil _).symm rfl rfl rfl

theorem acted_call (c : Caller) (w : World) (name argsText : String) :
    Acted c (c.call w name argsText).1 w (c.call w name argsText).2 := by
  unfold call
  split
  · exact acted_same c w
  · have hreaches := Host.reaches_call c.settings c.cancelled ⟨c.inst, w⟩ name argsText
    have hset {key : String} {v : Json}
      (hread : Host.readCall name argsText = .ok (.setShared key v)) :
        (Host.call c.settings c.cancelled ⟨c.inst, w⟩ name argsText).2 = .answered (.ok .null) :=
      Host.call_setShared hread
    revert hreaches hset
    rcases Host.call c.settings c.cancelled ⟨c.inst, w⟩ name argsText with ⟨h, a | on⟩
    · rintro ⟨hnumber, ⟨steps, hstore, hsteps⟩, hvisits⟩ hset
      refine ⟨⟨_, rfl⟩, hnumber, ⟨steps, hstore, fun st hst key hkey => ?_⟩, hvisits⟩
      -- only an answer that is no error has set something
      obtain ⟨v, hread⟩ := hsteps st hst key hkey
      obtain rfl : a = .ok .null := Progress.answered.inj (hset hread)
      refine ⟨.answered name argsText (.ok .null) false (found w.store name argsText (.ok .null)),
        ?_, ?_⟩
      · simp [note]
      · simp [Happening.sets?, hread]
    · rintro ⟨hnumber, ⟨steps, hstore, hsteps⟩, hvisits⟩ hset
      refine ⟨⟨_, rfl⟩, hnumber, ⟨steps, hstore, fun st hst key hkey => ?_⟩, hvisits⟩
      obtain ⟨v, hread⟩ := hsteps st hst key hkey
      cases hset hread

theorem acted_finish (p : PendingCall) (cut : Bool) {r : Host × Answer}
    (hr : Host.Reaches (fun _ => False) ⟨c.inst, w⟩ r.1) :
    Acted c (c.finish p cut r).1 w (c.finish p cut r).2 := by
  obtain ⟨hnumber, ⟨steps, hstore, hsteps⟩, hvisits⟩ := hr
  exact ⟨⟨_, rfl⟩, hnumber, ⟨steps, hstore, fun st hst key hkey => (hsteps st hst key hkey).elim⟩,
    hvisits⟩

/-- An act adds to the history, sets keys only by calls the history tells of, and asks collaborators
only in the name of its own instance. -/
theorem acted_act (c : Caller) (w : World) (a : Act) : Acted c (c.act w a).1 w (c.act w a).2 := by
  cases a with
  | call name argsText => exact acted_call c w name argsText
  | goOn =>
    rw [act]
    obtain heq | ⟨p, -, heq⟩ := c.goOn_cases w
    · rw [heq]
      exact acted_same c w
    · rw [heq]
      exact acted_finish p false (Host.reaches_conclude c.settings ⟨c.inst, w⟩ p.on)
  | cutOff =>
    rw [act]
    obtain heq | ⟨p, -, heq⟩ := c.cutOff_cases w
    · rw [heq]
      exact acted_same c w
    · rw [heq]
      exact acted_finish p true (Host.reaches_interrupt ⟨c.inst, w⟩ p.on)
  | enterScope scope => exact .quiet rfl rfl rfl rfl
  | cancel => exact .quiet rfl rfl rfl rfl
  | log level message => exact .quiet rfl rfl rfl rfl
  | report status => exact .quiet rfl rfl rfl rfl

theorem noted_act (c : Caller) (w : World) (a : Act) :
    ∃ (calls : List (String × String)) (x? : Option Happening),
    (c.act w a).1.history = c.history ++ (calls.map (fun d => .called d.1 d.2) ++ x?.toList) := by
  have hnothing : c.history =
    c.history ++ (([] : List (String × String)).map (fun d => .called d.1 d.2) ++
      (none : Option Happening).toList) := (List.append_nil _).symm
  cases a with
  | call name argsText =>
    simp only [act, call]
    split
    · exact ⟨[], none, hnothing⟩
    · split
      · exact ⟨[(name, argsText)], some _, rfl⟩
      · exact ⟨[(name, argsText)], none, rfl⟩
  | goOn =>
    rw [act]
    obtain heq | ⟨p, -, heq⟩ := c.goOn_cases w
    · rw [heq]
      exact ⟨[], none, hnothing⟩
    · rw [heq]
      exact ⟨[], some _, rfl⟩
  | cutOff =>
    rw [act]
    obtain heq | ⟨p, -, heq⟩ := c.cutOff_cases w
    · rw [heq]
      exact ⟨[], none, hnothing⟩
    · rw [heq]
      exact ⟨[], some _, rfl⟩
  | enterScope scope => exact ⟨[], some _, rfl⟩
  | cancel => exact ⟨[], some _, rfl⟩
  | log level message => exact ⟨[], some _, rfl⟩
  | report status => exact ⟨[], some _, rfl⟩

theorem filterMap_noted {α : Type} {f : Happening → Option α}
    (hf : ∀ name argsText, f (.called name argsText) = none) (calls : List (String × String))
    (x? : Option Happening) :
    (calls.map (fun d => Happening.called d.1 d.2) ++ x?.toList).filterMap f =
      (x?.bind f).toList := by
  have hcalls : (calls.map fun d => Happening.called d.1 d.2).filterMap f = [] := by
    rw [List.filterMap_map]
    exact List.filterMap_eq_nil_iff.mpr fun d _ => hf d.1 d.2
  rw [List.filterMap_append, hcalls, List.nil_append]
  cases x? with
  | none => rfl
  | some x => cases hx : f x <;> simp [hx]

/-- Keys that a caller has not set keep their values. -/
theorem Acted.unset {own : String → Prop} (h : Acted c c' w w')
    (hkeys : ∀ key, own key → ¬ c'.Sets key) :
    ∃ steps, w'.store = w.store.run steps ∧ ∀ key, own key →
      ∀ st ∈ steps, Store.Step.sets? key st = none := by
  obtain ⟨steps, hstore, hsets⟩ := h.reaches.store
  refine ⟨steps, hstore, fun key hkey st hst => ?_⟩
  exact Classical.byContradiction fun hset => hkeys key hkey (hsets st hst key hset)

end Caller

/-! ## A caller among others -/

namespace Party

/-- Nobody but the caller `i` has set one of the keys. -/
def Spares (own : String → Prop) (i : Nat) (p : Party) : Prop :=
  ∀ (j : Nat) (c : Caller), j ≠ i → p.callers[j]? = some c → ∀ key, own key → ¬ c.Sets key

/-- Somebody who is no caller shares one of the keys. -/
def Move.SharesOf (own : String → Prop) : Move → Prop
  | .share key _ => own key
  | _ => False

variable {own : String → Prop} {i : Nat} {p : Party} {m : Move}

theorem spares_of_step (h : Spares own i (p.step m)) : Spares own i p := by
  intro j c hj hc key hkey hsets
  cases m with
  | join settings setup =>
    refine h j c hj ?_ key hkey hsets
    rw [step, List.getElem?_append_left (List.getElem?_eq_some_iff.mp hc).1]
    exact hc
  | share k v => exact h j c hj hc key hkey hsets
  | watch channel => exact h j c hj hc key hkey hsets
  | act k a =>
    cases hk : p.callers[k]? with
    | none =>
      refine h j c hj ?_ key hkey hsets
      rw [step, hk]
      exact hc
    | some d =>
      have hstep : (p.step (.act k a)).callers = p.callers.set k (d.act p.world a).1 := by
        rw [step, hk]
      by_cases hjk : k = j
      · subst hjk
        rw [hc] at hk
        cases hk
        -- what it has set before the act it has still set afterwards
        obtain ⟨xs, hxs⟩ := (c.acted_act p.world a).history
        obtain ⟨x, hx, hset⟩ := hsets
        have hlt := (List.getElem?_eq_some_iff.mp hc).1
        refine h k (c.act p.world a).1 hj ?_ key hkey ⟨x, ?_, hset⟩
        · rw [hstep, List.getElem?_set_self hlt]
        · rw [hxs]
          exact List.mem_append_left _ hx
      · refine h j c hj ?_ key hkey hsets
        rw [hstep, List.getElem?_set_ne hjk]
        exact hc

theorem spares_of_run {moves : List Move} (h : Spares own i (p.run moves)) : Spares own i p := by
  induction moves generalizing p with
  | nil => exact h
  | cons m rest ih => exact spares_of_step (ih h)

/-- What holds of the caller `i` among others, whether it is there already or not. At the start the
shared values of some keys are those of the store `first`. -/
structure Watched (own : String → Prop) (i : Nat) (first : Store) (p : Party) : Prop where
  sound : p.world.store.Sound
  numbers : ∀ (j : Nat) (c : Caller), p.callers[j]? = some c → c.inst.number = j
  visits : ∀ v ∈ p.world.visits, v.1 < p.callers.length
  absent : p.callers.length ≤ i → ∀ key, own key → first.get? key = p.world.store.get? key
  tracked : ∀ c, p.callers[i]? = some c → c.settings.collaborators.AnswersEachAlone →
    ∃ τ, Solo.Lives own c.settings (.start c.setup first) c.history τ ∧ τ.Tracks own c p.world

variable {first : Store}

theorem watched_start {before : List Store.Step} {channel : Option (Channel Event)}
    (hfirst : ∀ key, own key → first.get? key = (Store.empty.run before).get? key) :
    Watched own i first (.start before channel) where
  sound := Store.sound_reached before
  numbers := by simp [start]
  visits := by simp [start]
  absent _ := hfirst
  tracked := by simp [start]

theorem own_eq_nil {who : Nat} {visits : Visits} (h : ∀ v ∈ visits, v.1 < who) :
    Visits.own who visits = [] := by
  refine List.filterMap_eq_nil_iff.mpr fun v hv => ?_
  have hlt := h v hv
  rw [if_neg (by omega)]

theorem watched_join (hw : Watched own i first p) (settings : Settings) (setup : Setup) :
    Watched own i first (p.step (.join settings setup)) := by
  have hcases {j : Nat} {c : Caller} (hc : (p.step (.join settings setup)).callers[j]? = some c) :
      p.callers[j]? = some c ∨
          (j = p.callers.length ∧ c = .start settings p.callers.length setup) := by
    rw [step] at hc
    rcases Nat.lt_or_ge j p.callers.length with hj | hj
    · rw [List.getElem?_append_left hj] at hc
      exact .inl hc
    · rw [List.getElem?_append_right hj] at hc
      obtain ⟨hlt, rfl⟩ := List.getElem?_eq_some_iff.mp hc
      rw [List.length_singleton] at hlt
      exact .inr ⟨by omega, by simp⟩
  have hlength : (p.step (.join settings setup)).callers.length = p.callers.length + 1 := by
    simp [step]
  refine ⟨hw.sound, fun j c hc => ?_, fun v hv => ?_, fun hi => ?_, fun c hc halone => ?_⟩
  · rcases hcases hc with hc | ⟨rfl, rfl⟩
    · exact hw.numbers j c hc
    · rfl
  · rw [hlength]
    exact Nat.lt_succ_of_lt (hw.visits v hv)
  · rw [hlength] at hi
    exact hw.absent (by omega)
  · rcases hcases hc with hc | ⟨hi, rfl⟩
    · exact hw.tracked c hc halone
    · refine ⟨.start setup first, rfl, ⟨rfl, own_eq_nil hw.visits⟩, rfl, rfl, rfl,
        by simp [Caller.start], ?_, ?_⟩
      · exact hw.absent (by omega)
      · simp [Caller.start]

namespace Watched

variable {c d : Caller} {k : Nat}

theorem act_own (hw : Watched own i first p) (hc : p.callers[i]? = some c)
    (halone : c.settings.collaborators.AnswersEachAlone) (a : Caller.Act) :
    ∃ τ, Solo.Lives own c.settings (.start c.setup first) (c.act p.world a).1.history τ ∧
      τ.Tracks own (c.act p.world a).1 (c.act p.world a).2 := by
  obtain ⟨σ, hlives, htracks⟩ := hw.tracked c hc halone
  obtain ⟨xs, τ, hhistory, hmore, htracks⟩ := htracks.act halone hw.sound a
  rw [hhistory]
  exact ⟨τ, Solo.lives_append.mpr ⟨σ, hlives, hmore⟩, htracks⟩

theorem act_other (hw : Watched own i first p) (hd : p.callers[k]? = some d) (hki : k ≠ i)
    (a : Caller.Act) (hkeys : ∀ key, own key → ¬ (d.act p.world a).1.Sets key)
    (hc : p.callers[i]? = some c) (halone : c.settings.collaborators.AnswersEachAlone) :
    ∃ τ, Solo.Lives own c.settings (.start c.setup first) c.history τ ∧
      τ.Tracks own c (d.act p.world a).2 := by
  have hacted := d.acted_act p.world a
  obtain ⟨steps, hstore, hunset⟩ := hacted.unset hkeys
  obtain ⟨visits, hvisits⟩ := hacted.reaches.visits
  have hvisits : (d.act p.world a).2.visits = p.world.visits ++ visits.map (d.inst.number, ·) :=
    hvisits
  have hother : d.inst.number ≠ c.inst.number := by
    rw [hw.numbers k d hd, hw.numbers i c hc]
    exact hki
  obtain ⟨τ, hlives, htracks⟩ := hw.tracked c hc halone
  refine ⟨τ, hlives, htracks.others hw.sound steps hstore hunset ?_⟩
  rw [hvisits, Visits.own_append, if_neg hother, List.append_nil]

end Watched

theorem watched_act (hw : Watched own i first p) (k : Nat) (a : Caller.Act)
    (hspares : Spares own i (p.step (.act k a))) : Watched own i first (p.step (.act k a)) := by
  cases hk : p.callers[k]? with
  | none =>
    have hsame : p.step (.act k a) = p := by rw [step, hk]
    rw [hsame]
    exact hw
  | some d =>
    have hstep : p.step (.act k a) =
        ⟨p.callers.set k (d.act p.world a).1, (d.act p.world a).2⟩ := by
      rw [step, hk]
    rw [hstep] at hspares ⊢
    have hlt := (List.getElem?_eq_some_iff.mp hk).1
    have hacted := d.acted_act p.world a
    -- whoever is not the caller that is watched has set none of its keys
    have hkeys (hki : k ≠ i) : ∀ key, own key → ¬ (d.act p.world a).1.Sets key := fun key hkey =>
      hspares k (d.act p.world a).1 hki (List.getElem?_set_self hlt) key hkey
    refine ⟨?_, fun j c hc => ?_, fun v hv => ?_, fun hi key hkey => ?_, fun c hc halone => ?_⟩
    · obtain ⟨steps, hstore, -⟩ := hacted.reaches.store
      exact hstore ▸ Store.sound_run hw.sound steps
    · by_cases hkj : k = j
      · subst hkj
        rw [List.getElem?_set_self hlt] at hc
        cases hc
        exact hacted.reaches.number.trans (hw.numbers k d hk)
      · rw [List.getElem?_set_ne hkj] at hc
        exact hw.numbers j c hc
    · obtain ⟨visits, hvisits⟩ := hacted.reaches.visits
      rw [List.length_set]
      rw [show (Party.mk _ _).world.visits = _ from hvisits] at hv
      rcases List.mem_append.mp hv with hv | hv
      · exact hw.visits v hv
      · obtain ⟨x, -, rfl⟩ := List.mem_map.mp hv
        rw [hw.numbers k d hk]
        exact hlt
    · rw [List.length_set] at hi
      obtain ⟨steps, hstore, hunset⟩ := hacted.unset (hkeys (by omega))
      show first.get? key = (d.act p.world a).2.store.get? key
      rw [hstore, Store.get?_run_of_unset (hunset key hkey)]
      exact hw.absent hi key hkey
    · by_cases hki : k = i
      · subst hki
        rw [List.getElem?_set_self hlt] at hc
        cases hc
        obtain ⟨hsettings, hsetup⟩ := d.setup_act p.world a
        rw [hsettings] at halone
        rw [hsettings, hsetup]
        exact hw.act_own hk halone a
      · rw [List.getElem?_set_ne hki] at hc
        exact hw.act_other hk hki a (hkeys hki) hc halone

theorem watched_step (hw : Watched own i first p) (hspares : Spares own i (p.step m))
    (hm : ¬ m.SharesOf own) : Watched own i first (p.step m) := by
  cases m with
  | join settings setup => exact watched_join hw settings setup
  | act k a => exact watched_act hw k a hspares
  | share key value =>
    have hunset : ∀ k, own k → ∀ st ∈ [Store.Step.set key value], Store.Step.sets? k st = none := by
      intro k hk st hst
      rw [List.mem_singleton.mp hst, Store.Step.sets?, if_neg]
      rintro rfl
      exact hm hk
    refine ⟨Store.sound_run hw.sound [.set key value], hw.numbers, hw.visits, fun hi k hk => ?_,
      fun c hc halone => ?_⟩
    · rw [hw.absent hi k hk]
      exact (Store.get?_run_of_unset (hunset k hk)).symm
    · obtain ⟨τ, hlives, htracks⟩ := hw.tracked c hc halone
      exact ⟨τ, hlives, htracks.others hw.sound [.set key value] rfl hunset rfl⟩
  | watch channel =>
    refine ⟨hw.sound, hw.numbers, hw.visits, hw.absent, fun c hc halone => ?_⟩
    obtain ⟨τ, hlives, htracks⟩ := hw.tracked c hc halone
    exact ⟨τ, hlives, htracks.others hw.sound [] rfl (by simp) rfl⟩

theorem watched_run {moves : List Move} (hw : Watched own i first p)
    (hspares : Spares own i (p.run moves)) (hmoves : ∀ m ∈ moves, ¬ m.SharesOf own) :
    Watched own i first (p.run moves) := by
  induction moves generalizing p with
  | nil => exact hw
  | cons m rest ih =>
    have hstep := watched_step hw (spares_of_run hspares) (hmoves m List.mem_cons_self)
    exact ih hstep hspares fun m' hm' => hmoves m' (List.mem_cons_of_mem _ hm')

end Party

/-! ## Two parties -/

/-- The reports of two callers are the same. -/
def Caller.SameReports (c c' : Caller) : Prop :=
  ∀ now status, c.inst.report now status = c'.inst.report now status

theorem Solo.Tracks.report {own : String → Prop} {σ : Solo} {c : Caller} {w : World}
    (ht : σ.Tracks own c w) (now : Time) (status : Status) :
    c.inst.report now status = σ.host.inst.report now status := by
  have hinst : c.inst = { σ.host.inst with number := c.inst.number, logs := c.inst.logs } :=
    ht.host.inst
  rw [hinst, ht.logs]
  rfl

open Party in
/-- What one instance answers and reports is fixed by what is done with it and by what its own reads
of shared values find, whoever else shares its world and whatever they do. The answers to these
reads fix it but for the log, and if nobody else sets what it reads, what is done with it is
enough. -/
theorem shared_store_is_only_channel (before before' : List Store.Step)
    (channel channel' : Option (Channel Event)) (moves moves' : List Party.Move) (i i' : Nat)
    (c c' : Caller) (hc : ((Party.start before channel).run moves).callers[i]? = some c)
    (hc' : ((Party.start before' channel').run moves').callers[i']? = some c')
    (hsettings : c.settings = c'.settings) (hsetup : c.setup = c'.setup)
    (halone : c.settings.collaborators.AnswersEachAlone)
    (hdeeds : c.history.map (·.deed) = c'.history.map (·.deed)) :
    (c.history.filterMap (·.readAnswer?) = c'.history.filterMap (·.readAnswer?) →
      c.history.map (·.unlogged) = c'.history.map (·.unlogged) ∧
        ∀ now status, ({ c.inst.report now status with logs := [] } : InstanceReport) =
          { c'.inst.report now status with logs := [] }) ∧
    (c.history.map (·.found?) = c'.history.map (·.found?) → c.history = c'.history ∧
      c.SameReports c') ∧
    ((∀ key, c.Reads key → (Store.empty.run before).get? key = (Store.empty.run before').get? key) →
      Spares c.Reads i ((Party.start before channel).run moves) →
      Spares c.Reads i' ((Party.start before' channel').run moves') →
      (∀ m ∈ moves, ¬ m.SharesOf c.Reads) → (∀ m ∈ moves', ¬ m.SharesOf c.Reads) →
      c.history = c'.history ∧ c.SameReports c') := by
  have halone' : c'.settings.collaborators.AnswersEachAlone := hsettings ▸ halone
  -- both are told by lone instances that start alike
  have hlives (own : String → Prop) (first : Store)
      (hfirst : ∀ key, own key → first.get? key = (Store.empty.run before).get? key)
      (hspares : Spares own i ((Party.start before channel).run moves))
      (hmoves : ∀ m ∈ moves, ¬ m.SharesOf own) :=
    (watched_run (watched_start hfirst) hspares hmoves).tracked c hc halone
  have hlives' (own : String → Prop) (first : Store)
      (hfirst : ∀ key, own key → first.get? key = (Store.empty.run before').get? key)
      (hspares : Spares own i' ((Party.start before' channel').run moves'))
      (hmoves : ∀ m ∈ moves', ¬ m.SharesOf own) :=
    (watched_run (watched_start hfirst) hspares hmoves).tracked c' hc' halone'
  rw [← hsettings, ← hsetup] at hlives'
  have hnone (m : Party.Move) : ¬ m.SharesOf fun _ => False := by cases m <;> exact id
  obtain ⟨τ, hτ, htracks⟩ := hlives (fun _ => False) .empty (by simp) (fun _ _ _ _ _ h => h.elim)
    fun m _ => hnone m
  obtain ⟨τ', hτ', htracks'⟩ :=
    hlives' (fun _ => False) .empty (by simp) (fun _ _ _ _ _ h => h.elim) fun m _ => hnone m
  refine ⟨fun hanswers => ?_, fun hfound => ?_, fun hsame hspares hspares' hmoves hmoves' => ?_⟩
  · obtain ⟨hunlogged, halike⟩ :=
      Solo.lives_unlogged halone ⟨Host.alike_refl _, rfl, rfl⟩ hτ hτ' hdeeds hanswers
    refine ⟨hunlogged, fun now status => ?_⟩
    rw [htracks.report, htracks'.report]
    exact Solo.report_alike halike.host now status
  · obtain ⟨hhistory, rfl⟩ := Solo.lives_unique hτ hτ' hdeeds hfound
    exact ⟨hhistory, fun now status => by rw [htracks.report, htracks'.report]⟩
  · obtain ⟨σ, hσ, htracks⟩ :=
      hlives c.Reads (Store.empty.run before) (fun _ _ => rfl) hspares hmoves
    obtain ⟨σ', hσ', htracks'⟩ := hlives' c.Reads (Store.empty.run before) hsame hspares' hmoves'
    obtain ⟨hhistory, rfl⟩ := Solo.lives_foreseen hσ hσ' hdeeds fun x hx key hkey =>
      ⟨⟨x, hx, hkey⟩, x, hx, hkey⟩
    exact ⟨hhistory, fun now status => by rw [htracks.report, htracks'.report]⟩

/-- An instance alone and beside another one that reads the same key. -/
theorem shared_store_is_only_channel_beside :
    let moves : List Party.Move :=
      [.join default ⟨"case", .null, [], none⟩, .act 0 (.call "get_shared" "[\"k\"]")]
    let moves' : List Party.Move :=
      [.join default ⟨"other", .null, [], none⟩, .join default ⟨"case", .null, [], none⟩,
       .act 0 (.call "get_shared" "[\"k\"]"), .act 0 .cancel, .act 1 (.call "get_shared" "[\"k\"]")]
    ∃ c c', ((Party.start [] none).run moves).callers[0]? = some c ∧
      ((Party.start [] none).run moves').callers[1]? = some c' ∧
      c.history = c'.history ∧ c.SameReports c' := by
  intro moves moves'
  obtain ⟨c, hc⟩ : ∃ c, ((Party.start [] none).run moves).callers[0]? = some c := ⟨_, rfl⟩
  obtain ⟨c', hc'⟩ : ∃ c', ((Party.start [] none).run moves').callers[1]? = some c' := ⟨_, rfl⟩
  have halone : (default : Settings).collaborators.AnswersEachAlone :=
    ⟨fun _ _ => .failed (.unavailable "network"), fun _ _ _ => rfl⟩
  refine ⟨c, c', hc, hc', ?_⟩
  refine (shared_store_is_only_channel [] [] none none moves moves' 0 1 c c' hc hc'
    ?_ ?_ ?_ ?_).2.1 ?_
  all_goals cases hc; cases hc'
  · rfl
  · rfl
  · exact halone
  · rfl
  · rfl

/-- The answers to the reads do not fix the log: whether a null that was read is a value or none,
only the log tells. -/
theorem read_answers_leave_log_open :
    ¬ ∀ (before before' : List Store.Step) (moves moves' : List Party.Move) (i i' : Nat)
      (c c' : Caller),
      ((Party.start before none).run moves).callers[i]? = some c →
      ((Party.start before' none).run moves').callers[i']? = some c' →
      c.settings = c'.settings → c.setup = c'.setup → c.settings.collaborators.AnswersEachAlone →
      c.history.map (·.deed) = c'.history.map (·.deed) →
      c.history.filterMap (·.readAnswer?) = c'.history.filterMap (·.readAnswer?) →
        ∀ now status, (c.inst.report now status).logs = (c'.inst.report now status).logs := by
  intro h
  let moves : List Party.Move :=
    [.join default ⟨"case", .null, [], none⟩, .act 0 (.call "get_shared" "[\"k\"]")]
  have halone : (default : Settings).collaborators.AnswersEachAlone :=
    ⟨fun _ _ => .failed (.unavailable "network"), fun _ _ _ => rfl⟩
  have hlogs :=
    h [] [.set "k" .null] moves moves 0 0 _ _ rfl rfl rfl rfl halone rfl rfl .epoch .success
  cases congrArg (·.map (·.level)) hlogs

end ScriptBench
