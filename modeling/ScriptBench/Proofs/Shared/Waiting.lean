import ScriptBench.Shared.Store

/-!
What one step of a client does to the shared store.

1. `Sound` is what holds of every store that clients can reach (`sound_run`): a key with a value has
   nobody registered, whoever is registered waits for that key, whoever sleeps is registered under
   its key once, and every wait has looked exactly once.
2. In a sound store a step moves each wait by `WaitPhase.after` alone (`wait_step`), so a wait does
   not depend on what other waits do.
3. A step changes the value of no key but the one it sets (`value_step`), sound or not.
-/
namespace ScriptBench

/-- Where a step leaves the wait `id` for `key`. -/
def WaitPhase.after (key : String) (id : Nat) : WaitPhase → Store.Step → WaitPhase
  | .parked, .set k v => if k = key then .delivered v.text else .parked
  | .delivered text, .resume i => if i = id then .returned text else .delivered text
  | .parked, .abandon i => if i = id then .abandoned else .parked
  | .delivered text, .abandon i => if i = id then .abandoned else .delivered text
  | phase, _ => phase

namespace Store

/-- The value a step sets under a key. -/
def Step.sets? (key : String) : Step → Option Json
  | .set k v => if k = key then some v else none
  | _ => none

end Store

namespace WaitPhase

variable (key : String) (id : Nat) (text : String)

@[simp] theorem parked_set (k : String) (v : Json) :
    parked.after key id (.set k v) = if k = key then delivered v.text else parked := rfl

@[simp] theorem parked_resume (i : Nat) : parked.after key id (.resume i) = parked := rfl

@[simp] theorem parked_abandon (i : Nat) :
    parked.after key id (.abandon i) = if i = id then abandoned else parked := rfl

@[simp] theorem delivered_set (k : String) (v : Json) :
    (delivered text).after key id (.set k v) = delivered text := rfl

@[simp] theorem delivered_resume (i : Nat) :
    (delivered text).after key id (.resume i) = if i = id then returned text else delivered text :=
  rfl

@[simp] theorem delivered_abandon (i : Nat) :
    (delivered text).after key id (.abandon i) = if i = id then abandoned else delivered text := rfl

@[simp] theorem after_begin (p : WaitPhase) (k : String) : p.after key id (.begin k) = p := by
  cases p <;> rfl

@[simp] theorem returned_after (st : Store.Step) :
    (returned text).after key id st = returned text := rfl

@[simp] theorem abandoned_after (st : Store.Step) : abandoned.after key id st = abandoned := rfl

variable {key id}

theorem after_eq_parked {p : WaitPhase} {st : Store.Step} (h : p.after key id st = parked) :
    p = parked ∧ st.sets? key = none := by
  cases p <;> cases st <;> simp_all [Store.Step.sets?]
  all_goals split at h <;> cases h

/-- A wait that sleeps or is abandoned stays so until its key is set. -/
theorem idle_after {p : WaitPhase} {st : Store.Step} (hp : p = parked ∨ p = abandoned)
    (hst : st.sets? key = none) : p.after key id st = parked ∨ p.after key id st = abandoned := by
  rcases hp with rfl | rfl
  · cases st with
    | set k v =>
      have hk : k ≠ key := fun h => by simp [Store.Step.sets?, h] at hst
      simp [hk]
    | begin k => simp
    | resume i => simp
    | abandon i => by_cases hi : i = id <;> simp [hi]
  · simp

end WaitPhase

namespace Store

/-! ## Slots -/

theorem slot_insert (slots : KeyMap Slot) (waits : List Wait) (key k : String) (x : Slot) :
    (⟨slots.insert key x, waits⟩ : Store).slot k = if key =
      k then x else (⟨slots, waits⟩ : Store).slot k := by
  unfold slot
  simp only [KeyMap.get?_insert]
  split <;> rfl

@[simp] theorem slot_waits (s : Store) (waits : List Wait) (key : String) :
    ({ s with waits } : Store).slot key = s.slot key := rfl

@[simp] theorem slot_empty (key : String) : empty.slot key = ⟨none, []⟩ := rfl

/-! ## Operations, one at a time -/

theorem phase_eq {s : Store} {id : Nat} {w : Wait} (h : s.waits[id]? = some w) :
    s.phase id = w.phase := by
  simp [phase, h]

theorem phase_append {s : Store} {id : Nat} (h : id < s.waits.length) (ws : List Wait) :
    ({ s with waits := s.waits ++ ws } : Store).phase id = s.phase id := by
  simp [phase, List.getElem?_append_left h]

/-- Delivering to a list of waits reaches those of them that sleep, each once. -/
theorem deliver_all (text : String) (ids : List Nat) (waits : List Wait) (id : Nat) :
    (ids.foldl (deliver text) waits)[id]? = waits[id]?.map fun w =>
      if id ∈ ids ∧ w.phase = .parked then { w with phase := .delivered text } else w := by
  induction ids generalizing waits with
  | nil => simp
  | cons i rest ih =>
    rw [List.foldl_cons, ih, deliver, List.getElem?_modify]
    cases waits[id]? with
    | none => rfl
    | some w =>
      simp only [Option.map_eq_map, Option.map_some, Option.some.injEq, List.mem_cons]
      by_cases hi : i = id
      · subst hi
        by_cases hp : w.phase = .parked <;> simp [hp]
      · simp [hi, Ne.symm hi]

theorem wait_setText (s : Store) (key text : String) (id : Nat) :
    (s.setText key text).waits[id]? = s.waits[id]?.map fun w =>
      if id ∈ (s.slot key).waiters ∧
        w.phase = .parked then { w with phase := .delivered text } else w :=
  deliver_all text _ _ _

theorem wait_setPhase (waits : List Wait) (id i : Nat) (phase : WaitPhase) :
    (setPhase waits i phase)[id]? = waits[id]?.map fun w =>
      if i = id then { w with phase } else w := by
  rw [setPhase, List.getElem?_modify]
  cases waits[id]? with
  | none => rfl
  | some w => by_cases h : i = id <;> simp [h]

theorem begin_of_value {s : Store} {key text : String} (h : (s.slot key).value = some text) :
    s.begin key = { s with waits := s.waits ++ [⟨key, .returned text, 1⟩] } := by
  simp [begin, look, nextWait, h]

/-- The waits of a key that have not been abandoned. -/
def live (s : Store) (key : String) : List Nat := (s.slot key).waiters.filter fun i => !s.isClosed i

/-- A wait for a key without a value registers behind those that have not been abandoned. -/
theorem begin_of_none {s : Store} {key : String} (h : (s.slot key).value = none) :
    s.begin key =
      { slots := s.slots.insert key
          ⟨none,
            ({ s with waits := s.waits ++ [⟨key, .parked, 0⟩] } : Store).live key ++ [s.nextWait]⟩
        waits := s.waits ++ [⟨key, .parked, 1⟩] } := by
  simp [begin, look, nextWait, live, h]

/-! ## Values -/

theorem value_look (s : Store) (id : Nat) (key : String) :
    ((s.look id).slot key).value = (s.slot key).value := by
  unfold look
  split
  · rfl
  · rename_i w _
    dsimp only
    split
    · rfl
    · rename_i hv
      rw [slot_insert]
      split
      · rename_i hk
        subst hk
        exact hv.symm
      · rfl

theorem value_begin (s : Store) (k key : String) :
    ((s.begin k).slot key).value = (s.slot key).value := by
  rw [begin, value_look, slot_waits]

theorem value_resume (s : Store) (id : Nat) (key : String) :
    ((s.resume id).slot key).value = (s.slot key).value := by
  unfold resume
  repeat' split
  all_goals first | rfl | exact value_look s id key

theorem value_abandon (s : Store) (id : Nat) (key : String) :
    ((s.abandon id).slot key).value = (s.slot key).value := by
  unfold abandon
  split <;> rfl

theorem value_step (s : Store) (st : Step) (key : String) :
    ((s.step st).slot key).value = ((st.sets? key).map Json.text).or (s.slot key).value := by
  cases st with
  | set k v =>
    simp only [step, set, setText, slot_insert, Step.sets?]
    split <;> rfl
  | begin k => exact value_begin s k key
  | resume id => exact value_resume s id key
  | abandon id => exact value_abandon s id key

/-! ## Sound stores -/

/-- What holds of every store that clients can reach. -/
structure Sound (s : Store) : Prop where
  /-- Nobody is registered under a key with a value. -/
  valued : ∀ key text, (s.slot key).value = some text → (s.slot key).waiters = []
  /-- Whoever is registered waits for that key, asleep or abandoned. -/
  registered : ∀ key, ∀ id ∈ (s.slot key).waiters,
    ∃ w, s.waits[id]? = some w ∧ w.key = key ∧ (w.phase = .parked ∨ w.phase = .abandoned)
  /-- Whoever sleeps is registered under its key. -/
  parked : ∀ (id : Nat) (w : Wait), s.waits[id]? = some w → w.phase = .parked →
    id ∈ (s.slot w.key).waiters
  nodup : ∀ key, (s.slot key).waiters.Nodup
  /-- Every wait has looked for a value exactly once. -/
  looked : ∀ (id : Nat) (w : Wait), s.waits[id]? = some w → w.looks = 1

theorem sound_empty : Sound empty where
  valued := by simp
  registered := by simp
  parked := by simp [empty]
  nodup := by simp
  looked := by simp [empty]

namespace Sound

variable {s : Store} {key : String} {id : Nat} {w : Wait}

theorem lt_nextWait (hs : Sound s) (h : id ∈ (s.slot key).waiters) : id < s.nextWait := by
  obtain ⟨w, hw, -⟩ := hs.registered key id h
  exact (List.getElem?_eq_some_iff.mp hw).1

/-- A wait that sleeps is registered under its key and no other. -/
theorem mem_iff (hs : Sound s) (hw : s.waits[id]? = some w) (hp : w.phase = .parked) :
    id ∈ (s.slot key).waiters ↔ key = w.key := by
  constructor
  · intro h
    obtain ⟨w', hw', hk, -⟩ := hs.registered key id h
    rw [hw] at hw'
    cases hw'
    exact hk.symm
  · rintro rfl
    exact hs.parked id w hw hp

/-- A wait that sleeps is registered, so going on changes nothing: it never looks a second time. -/
theorem resume_parked (hs : Sound s) (hw : s.waits[id]? = some w) (hp : w.phase = .parked) :
    s.resume id = s := by
  simp [resume, hw, hp, hs.parked id w hw hp]

theorem resume_eq (hs : Sound s) (id : Nat) :
    s.resume id = match s.phase id with
      | .delivered text => { s with waits := setPhase s.waits id (.returned text) }
      | _ => s := by
  cases hw : s.waits[id]? with
  | none => simp [resume, phase, hw]
  | some w =>
    rw [phase_eq hw]
    cases hp : w.phase with
    | parked => exact hs.resume_parked hw hp
    | delivered text => simp [resume, hw, hp]
    | returned text => simp [resume, hw, hp]
    | abandoned => simp [resume, hw, hp]

theorem slot_resume (hs : Sound s) (id : Nat) (key : String) :
    (s.resume id).slot key = s.slot key := by
  rw [hs.resume_eq]
  split <;> rfl

end Sound

theorem slot_abandon (s : Store) (id : Nat) (key : String) :
    (s.abandon id).slot key = s.slot key := by
  unfold abandon
  split <;> rfl

/-! ## One step of one wait -/

/-- The wait a step starts, if it starts one. -/
def Step.starts? (s : Store) : Step → Option Wait
  | .begin key =>
    some ⟨key, match (s.slot key).value with
      | some text => .returned text
      | none => .parked, 1⟩
  | _ => none

theorem waits_begin (s : Store) (key : String) :
    (s.begin key).waits = s.waits ++ ((Step.begin key).starts? s).toList := by
  cases hv : (s.slot key).value with
  | some text => simp [begin_of_value hv, Step.starts?, hv]
  | none => simp [begin_of_none hv, Step.starts?, hv]

/-- A step moves a wait by `WaitPhase.after`, whatever the other waits are. -/
theorem wait_step {s : Store} (hs : Sound s) {id : Nat} {w : Wait} (hw : s.waits[id]? = some w)
    (st : Step) : (s.step st).waits[id]? = some { w with phase := w.phase.after w.key id st } := by
  obtain ⟨key, phase, looks⟩ := w
  cases st with
  | set k v =>
    rw [step, set, wait_setText, hw, Option.map_some]
    cases phase with
    | parked => simp only [WaitPhase.parked_set, hs.mem_iff hw rfl, and_true]; split <;> rfl
    | delivered text => simp
    | returned text => simp
    | abandoned => simp
  | begin k =>
    have hlt : id < s.waits.length := (List.getElem?_eq_some_iff.mp hw).1
    rw [step, waits_begin, List.getElem?_append_left hlt, hw]
    cases phase <;> rfl
  | resume i =>
    rw [step, hs.resume_eq]
    by_cases hi : i = id
    · subst hi
      rw [phase_eq hw]
      cases phase <;> simp [wait_setPhase, hw]
    · cases s.phase i <;> cases phase <;> simp [wait_setPhase, hw, hi]
  | abandon i =>
    rw [step, abandon]
    by_cases hi : i = id
    · subst hi
      rw [phase_eq hw]
      cases phase <;> simp [wait_setPhase, hw]
    · cases s.phase i <;> cases phase <;> simp [wait_setPhase, hw, hi]

/-- The waits after a step are those there were, moved, and the one the step starts. -/
theorem waits_step {s : Store} (hs : Sound s) (st : Step) (id : Nat) :
    (s.step st).waits[id]? =
      (s.waits[id]?.map fun w => { w with phase := w.phase.after w.key id st }).or
        (if id = s.nextWait then st.starts? s else none) := by
  cases hw : s.waits[id]? with
  | some w => exact wait_step hs hw st
  | none =>
    have hle : s.waits.length ≤ id := List.getElem?_eq_none_iff.mp hw
    simp only [Option.map_none, Option.none_or]
    cases st with
    | set k v => simp [step, set, wait_setText, hw, Step.starts?]
    | begin k =>
      rw [step, waits_begin, List.getElem?_append_right hle, Step.starts?, nextWait]
      by_cases hi : id = s.waits.length
      · simp [hi]
      · rw [if_neg hi]
        exact List.getElem?_eq_none (by simp; omega)
    | resume i =>
      rw [step, hs.resume_eq]
      split <;> simp [wait_setPhase, hw, Step.starts?]
    | abandon i =>
      rw [step, abandon]
      split <;> simp [wait_setPhase, hw, Step.starts?]

/-! ## One step of the registrations -/

/-- Setting a key leaves nobody registered under it, a wait that starts without a value registers
behind the live ones, and nothing else moves a registration. -/
theorem waiters_step {s : Store} (hs : Sound s) (st : Step) (key : String) :
    ((s.step st).slot key).waiters =
      match st with
      | .set k _ => if k = key then [] else (s.slot key).waiters
      | .begin k =>
        if k = key ∧ (s.slot key).value = none then s.live key ++ [s.nextWait]
          else (s.slot key).waiters
      | _ => (s.slot key).waiters := by
  cases st with
  | set k v =>
    simp only [step, set, setText, slot_insert]
    split <;> rfl
  | begin k =>
    simp only [step]
    cases hv : (s.slot k).value with
    | some text =>
      rw [begin_of_value hv, slot_waits, if_neg]
      rintro ⟨rfl, hn⟩
      rw [hv] at hn
      cases hn
    | none =>
      rw [begin_of_none hv, slot_insert]
      by_cases hk : k = key
      · subst hk
        -- the wait that starts is not yet on a list, so those alive are the ones from before
        have hlive : ({ s with waits := s.waits ++ [⟨k, .parked, 0⟩] } : Store).live k =
            s.live k := by
          refine List.filter_congr fun i hi => ?_
          rw [isClosed, phase_append (hs.lt_nextWait hi), isClosed]
        simp [hv, hlive]
      · simp only [hk, if_false, false_and]
        rfl
  | resume i => rw [step, hs.slot_resume]
  | abandon i => rw [step, slot_abandon]

theorem registered_step {s : Store} (hs : Sound s) {st : Step} {key : String} {id : Nat}
    (h : id ∈ ((s.step st).slot key).waiters) :
    (id ∈ (s.slot key).waiters ∧ st.sets? key = none) ∨
      (st = .begin key ∧ (s.slot key).value = none ∧ id = s.nextWait) := by
  rw [waiters_step hs] at h
  cases st with
  | set k v =>
    by_cases hk : k = key
    · simp [hk] at h
    · exact .inl (by simpa [hk, Step.sets?] using h)
  | begin k =>
    dsimp only at h
    split at h
    · rename_i hk
      obtain ⟨rfl, hv⟩ := hk
      rcases List.mem_append.mp h with h | h
      · exact .inl ⟨(List.mem_filter.mp h).1, rfl⟩
      · exact .inr ⟨rfl, hv, List.mem_singleton.mp h⟩
    · exact .inl ⟨h, rfl⟩
  | resume i => exact .inl ⟨h, rfl⟩
  | abandon i => exact .inl ⟨h, rfl⟩

/-- Only setting its key takes a live wait off the list. -/
theorem stays_registered {s : Store} (hs : Sound s) {st : Step} {key : String} {id : Nat}
    (h : id ∈ (s.slot key).waiters) (hlive : s.isClosed id = false) (hst : st.sets? key = none) :
    id ∈ ((s.step st).slot key).waiters := by
  rw [waiters_step hs]
  cases st with
  | set k v =>
    have hk : k ≠ key := fun hk => by simp [Step.sets?, hk] at hst
    simpa [hk] using h
  | begin k =>
    dsimp only
    split
    · exact List.mem_append_left _ (List.mem_filter.mpr ⟨h, by simp [hlive]⟩)
    · exact h
  | resume i => exact h
  | abandon i => exact h

/-! ## Soundness is kept -/

/-- What a step leaves of a wait: it was there before and has moved, or the step has started it. -/
theorem wait_of_step {s : Store} (hs : Sound s) {st : Step} {id : Nat} {w : Wait}
    (hw : (s.step st).waits[id]? = some w) :
    (∃ w', s.waits[id]? = some w' ∧ w = { w' with phase := w'.phase.after w'.key id st }) ∨
      (id = s.nextWait ∧ st.starts? s = some w) := by
  rw [waits_step hs] at hw
  rcases Option.or_eq_some_iff.mp hw with h | ⟨-, h⟩
  · obtain ⟨w', hw', rfl⟩ := Option.map_eq_some_iff.mp h
    exact .inl ⟨w', hw', rfl⟩
  · split at h
    · rename_i hi
      exact .inr ⟨hi, h⟩
    · cases h

theorem sound_step {s : Store} (hs : Sound s) (st : Step) : Sound (s.step st) where
  valued key text hv := by
    rw [value_step] at hv
    rw [waiters_step hs]
    cases st with
    | set k v =>
      by_cases hk : k = key
      · simp [hk]
      · simp only [Step.sets?, hk, if_false, Option.map_none, Option.none_or] at hv ⊢
        exact hs.valued key text hv
    | begin k =>
      simp only [Step.sets?, Option.map_none, Option.none_or] at hv
      simp only [hv, and_false, if_false, reduceCtorEq]
      exact hs.valued key text hv
    | resume i => exact hs.valued key text hv
    | abandon i => exact hs.valued key text hv
  registered key id hid := by
    rcases registered_step hs hid with ⟨h, hst⟩ | ⟨rfl, hv, rfl⟩
    · obtain ⟨w, hw, rfl, hp⟩ := hs.registered key id h
      exact ⟨_, wait_step hs hw st, rfl, WaitPhase.idle_after hp hst⟩
    · refine ⟨⟨key, .parked, 1⟩, ?_, rfl, .inl rfl⟩
      rw [waits_step hs, if_pos rfl, Step.starts?, hv, nextWait,
        List.getElem?_eq_none (Nat.le_refl _)]
      rfl
  parked id w hw hp := by
    rcases wait_of_step hs hw with ⟨w', hw', rfl⟩ | ⟨rfl, hst⟩
    · obtain ⟨hp', hst⟩ := WaitPhase.after_eq_parked hp
      exact stays_registered hs (hs.parked id w' hw' hp')
        (by simp [isClosed, phase_eq hw', hp']) hst
    · cases st with
      | begin k =>
        rw [waiters_step hs]
        cases hv : (s.slot k).value <;> simp only [Step.starts?, hv, Option.some.injEq] at hst
        · subst hst
          simp [hv]
        · subst hst
          cases hp
      | set k v => cases hst
      | resume i => cases hst
      | abandon i => cases hst
  nodup key := by
    rw [waiters_step hs]
    cases st with
    | set k v =>
      dsimp only
      split
      · exact List.nodup_nil
      · exact hs.nodup key
    | begin k =>
      dsimp only
      split
      · -- whoever starts has a number that nobody on the list has
        refine List.nodup_append.mpr ⟨(hs.nodup key).filter _, by simp, ?_⟩
        intro a ha b hb hab
        have hlt := hs.lt_nextWait (List.mem_filter.mp ha).1
        rw [hab, List.mem_singleton.mp hb] at hlt
        exact Nat.lt_irrefl _ hlt
      · exact hs.nodup key
    | resume i => exact hs.nodup key
    | abandon i => exact hs.nodup key
  looked id w hw := by
    rcases wait_of_step hs hw with ⟨w', hw', rfl⟩ | ⟨-, hst⟩
    · exact hs.looked id w' hw'
    · cases st with
      | begin k => cases hst; rfl
      | set k v => cases hst
      | resume i => cases hst
      | abandon i => cases hst

theorem sound_run {s : Store} (hs : Sound s) (steps : List Step) : Sound (s.run steps) := by
  induction steps generalizing s with
  | nil => exact hs
  | cons st rest ih => exact ih (sound_step hs st)

end Store

end ScriptBench
