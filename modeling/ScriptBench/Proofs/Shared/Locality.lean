import Mathlib.Logic.Equiv.Basic
import ScriptBench.Proofs.Shared.Sifting
import ScriptBench.Proofs.Shared.Snapshot

/-!
The keys of a store do not touch each other.

1. What a run addresses to one key is a run by itself, in which the waits for that key are numbered
   anew. It gives the same for the key as the whole run does (`sifted_addressed`).
2. A step that is addressed to another key changes nothing of a key (`slot_elsewhere`,
   `wait_elsewhere`).
3. So two steps that are addressed to two keys can change places. If both start a wait, each wait
   then has the number of the other, in all that follows (`sifted_exchange`).
4. A key gives the last value set, as its stored text is read back. That is the value itself, unless
   it has a double: that one may come back as a neighbour (`last_set_comes_back_changed`).
-/
namespace ScriptBench

namespace Store

open KeyMap (Ordered)

/-- The key that a step is addressed to; a step of a wait goes to the key of the wait. -/
def Step.key? (s : Store) : Step → Option String
  | .set key _ => some key
  | .begin key => some key
  | .resume id => s.waits[id]?.map (·.key)
  | .abandon id => s.waits[id]?.map (·.key)

variable {s : Store} {st a b : Step} {key key' : String}

/-! ## Steps that are addressed to another key -/

/-- A step moves no wait for another key. -/
theorem after_elsewhere (hst : st.key? s = some key') (hne : key' ≠ key) {id : Nat}
    (hid : ∀ w, s.waits[id]? = some w → w.key = key) (p : WaitPhase) : p.after key id st = p := by
  have hother : ∀ i, s.waits[i]?.map (·.key) = some key' → i ≠ id := by
    rintro i hi rfl
    obtain ⟨w, hw, rfl⟩ := Option.map_eq_some_iff.mp hi
    exact hne (hid w hw)
  cases st with
  | set k x =>
    obtain rfl := Option.some.inj hst
    cases p <;> simp [hne]
  | begin k => exact WaitPhase.after_begin key id p k
  | resume i => cases p <;> simp [hother i hst]
  | abandon i => cases p <;> simp [hother i hst]

theorem sets?_elsewhere (hst : st.key? s = some key') (hne : key' ≠ key) : st.sets? key = none := by
  cases st with
  | set k x =>
    obtain rfl := Option.some.inj hst
    exact if_neg hne
  | _ => rfl

theorem slot_elsewhere (hs : Sound s) (hst : st.key? s = some key') (hne : key' ≠ key) :
    (s.step st).slot key = s.slot key := by
  have hvalue := value_step s st key
  rw [sets?_elsewhere hst hne, Option.map_none, Option.none_or] at hvalue
  have hwaiters : ((s.step st).slot key).waiters = (s.slot key).waiters := by
    rw [waiters_step hs]
    cases st with
    | set k x =>
      obtain rfl := Option.some.inj hst
      exact if_neg hne
    | begin k =>
      obtain rfl := Option.some.inj hst
      exact if_neg fun h => hne h.1
    | _ => rfl
  calc (s.step st).slot key
      = ⟨((s.step st).slot key).value, ((s.step st).slot key).waiters⟩ := rfl
    _ = ⟨(s.slot key).value, (s.slot key).waiters⟩ := by rw [hvalue, hwaiters]
    _ = s.slot key := rfl

theorem wait_elsewhere (hs : Sound s) (hst : st.key? s = some key') {id : Nat} {w : Wait}
    (hw : s.waits[id]? = some w) (hne : key' ≠ w.key) : (s.step st).waits[id]? = some w := by
  have hid : ∀ w', s.waits[id]? = some w' → w'.key = w.key := by
    intro w' hw'
    rw [Option.some.inj (hw'.symm.trans hw)]
  rw [wait_step hs hw, after_elsewhere hst hne hid]

theorem waiterCount_elsewhere (hs : Sound s) (hst : st.key? s = some key') (hne : key' ≠ key) :
    (s.step st).waiterCount key = s.waiterCount key := by
  rw [waiterCount, waiterCount, slot_elsewhere hs hst hne]
  refine List.countP_congr fun id hid => ?_
  obtain ⟨w, hw, rfl, -⟩ := hs.registered key id hid
  rw [isClosed, isClosed, phase_eq hw, phase_eq (wait_elsewhere hs hst hw hne)]

/-! ## What is addressed to one key -/

theorem count_take_lt {starts : List String} {key : String} {i j : Nat} (hi : starts[i]? = some key)
    (hij : i < j) :
    (starts.take i).count key < (starts.take j).count key := by
  have hsub := (List.take_prefix_take_left (l := starts) (Nat.succ_le_of_lt hij)).sublist
  have hle := hsub.count_le key
  rw [List.take_add_one, hi, List.count_append] at hle
  simp at hle
  omega

/-- No two waits for a key have as many waits for it before them. -/
theorem eq_of_count_take {starts : List String} {key : String} {i j : Nat}
    (hi : starts[i]? = some key) (hj : starts[j]? = some key)
    (h : (starts.take i).count key = (starts.take j).count key) : i = j := by
  rcases Nat.lt_trichotomy i j with hlt | heq | hgt
  · have hcount := count_take_lt hi hlt
    omega
  · exact heq
  · have hcount := count_take_lt hj hgt
    omega

/-- The sets of one key and the waits for it stay; the waits are numbered among themselves. -/
def Sieve.only (key : String) (starts : List String) : Sieve where
  keys k := k = key
  waits id := starts[id]? = some key
  place id := (starts.take id).count key
  apart _ _ hi hj h := eq_of_count_take (of_decide_eq_true hi) (of_decide_eq_true hj) h

/-- What a run addresses to one key, as a run of its own. -/
def addressed (key : String) (steps : List Step) : List Step :=
  (Sieve.only key (begun steps)).sift 0 steps

theorem sifted_addressed (key : String) (steps : List Step) :
    Sifted (.only key (begun steps)) (empty.run steps) (empty.run (addressed key steps)) := by
  refine sifted_run sound_empty sound_empty (sifted_empty rfl fun n => ?_) steps fun n k hk hn => ?_
  · show ((begun steps).take (n + 1)).count key =
      ((begun steps).take n).count key + (decide ((begun steps)[n]? = some key)).toNat
    rw [List.take_add_one, List.count_append]
    cases hk : (begun steps)[n]? with
    | none => rfl
    | some k => by_cases h : k = key <;> simp [h]
  · have hn : (begun steps)[0 + n]? = some key := of_decide_eq_true hn
    rw [Nat.zero_add, hk] at hn
    exact decide_eq_true (Option.some.inj hn)

/-- The numbers of the waits of a run are those of its starts. -/
theorem begun_of_wait {steps : List Step} {id : Nat} {w : Wait}
    (hw : (empty.run steps).waits[id]? = some w) :
    (begun steps)[id]? = some w.key := by
  have hkeys : (empty.run steps).waits.map (·.key) = begun steps := keys_run sound_empty steps
  rw [← hkeys, List.getElem?_map, hw]
  rfl

theorem get?_addressed (key : String) (steps : List Step) :
    (empty.run (addressed key steps)).get? key = (empty.run steps).get? key := by
  rw [get?, get?, (sifted_addressed key steps).values key (decide_eq_true rfl)]

theorem waiterCount_addressed (key : String) (steps : List Step) :
    (empty.run (addressed key steps)).waiterCount key = (empty.run steps).waiterCount key := by
  refine (sifted_addressed key steps).waiterCount (sound_reached _) (sound_reached _)
    fun id w hw hkey _ => ?_
  rw [← hkey]
  exact decide_eq_true (begun_of_wait hw)

/-- A list whose entries are found by counting those that a test passes is the list of these. -/
theorem eq_filter {α : Type} {p : α → Bool} {xs ys : List α} (hlength : ys.length = xs.countP p)
    (h : ∀ i x, xs[i]? = some x → p x = true → ys[(xs.take i).countP p]? = some x) :
    ys = xs.filter p := by
  induction xs generalizing ys with
  | nil => exact List.eq_nil_of_length_eq_zero hlength
  | cons x rest ih =>
    cases hx : p x with
    | false =>
      rw [List.filter_cons_of_neg (by simp [hx])]
      refine ih (by simpa [hx] using hlength) fun i y hy hp => ?_
      simpa [hx] using h (i + 1) y hy hp
    | true =>
      rw [List.filter_cons_of_pos hx]
      cases ys with
      | nil => simp [hx] at hlength
      | cons y others =>
        obtain rfl : y = x := by simpa using h 0 x rfl hx
        refine congrArg (y :: ·) (ih (by simpa [hx] using hlength) fun i z hz hp => ?_)
        simpa [hx] using h (i + 1) z hz hp

theorem waits_addressed (key : String) (steps : List Step) :
    (empty.run (addressed key steps)).waits = (empty.run steps).waits.filter (·.key = key) := by
  have h := sifted_addressed key steps
  have hkeys : (empty.run steps).waits.map (·.key) = begun steps := keys_run sound_empty steps
  have hplace : ∀ n, (Sieve.only key (begun steps)).place n =
      ((empty.run steps).waits.take n).countP (·.key = key) := by
    intro n
    show ((begun steps).take n).count key = _
    rw [← hkeys, ← List.map_take, List.count, List.countP_map]
    rfl
  refine eq_filter ?_ fun id w hw hkey => ?_
  · have hnext := h.next
    rw [hplace, nextWait, nextWait, List.take_length] at hnext
    exact hnext
  · have hid : (Sieve.only key (begun steps)).waits id = true := by
      rw [← of_decide_eq_true hkey]
      exact decide_eq_true (begun_of_wait hw)
    rw [← hplace, h.waits id hid, hw]

/-! ## Steps that change places -/

/-- The new numbers of waits when two steps change places after `n` waits have started: if both
steps start a wait, each of the two gets the number of the other. -/
def exchange (n : Nat) (a b : Step) : Equiv.Perm Nat :=
  if a.begins?.isSome && b.begins?.isSome then Equiv.swap n (n + 1) else Equiv.refl Nat

/-- Everything stays, with waits under other numbers. -/
def Sieve.all (place : Equiv.Perm Nat) : Sieve where
  keys _ := true
  waits _ := true
  place := place
  apart _ _ _ _ h := place.injective h

theorem sift_all (place : Equiv.Perm Nat) (next : Nat) (steps : List Step) :
    (Sieve.all place).sift next steps = steps.map (Step.rename place) := by
  induction steps generalizing next with
  | nil => rfl
  | cons st rest ih =>
    have hkeeps : (Sieve.all place).keeps next st = true := by cases st <;> rfl
    rw [Sieve.sift, if_pos hkeeps, ih]
    rfl

theorem starts?_elsewhere (ha : a.key? s = some key) (hb : b.key? s = some key')
    (hne : key ≠ key') :
    b.starts? (s.step a) = b.starts? s := by
  cases b with
  | begin k =>
    obtain rfl := Option.some.inj hb
    rw [Step.starts?, Step.starts?, value_step, sets?_elsewhere ha hne, Option.map_none,
      Option.none_or]
  | _ => rfl

theorem waits_two (hs : Sound s) (ha : a.key? s = some key) (hb : b.key? s = some key')
    (hne : key ≠ key') :
    ((s.step a).step b).waits =
      s.waits.mapIdx
        (fun id w => { w with phase := (w.phase.after w.key id a).after w.key id b }) ++
        ((a.starts? s).toList ++ (b.starts? s).toList) := by
  -- a wait that the first step starts is for its own key, so the second step does not move it
  have hnew : (a.starts? s).toList.mapIdx (fun i w =>
      { w with phase := w.phase.after w.key (i + s.nextWait) b }) = (a.starts? s).toList := by
    cases a with
    | begin k =>
      obtain rfl := Option.some.inj ha
      have hnone : ∀ w, s.waits[s.nextWait]? = some w → w.key = k := by simp [nextWait]
      simp [Step.starts?, after_elsewhere hb (Ne.symm hne) hnone]
    | _ => rfl
  rw [waits_step_eq (sound_step hs a), waits_step_eq hs, starts?_elsewhere ha hb hne,
    List.mapIdx_append, List.mapIdx_mapIdx, List.length_mapIdx, List.append_assoc]
  exact congrArg (_ ++ ·) (congrArg (· ++ _) hnew)

theorem isSome_starts? (s : Store) (st : Step) : (st.starts? s).isSome = st.begins?.isSome := by
  cases st <;> rfl

theorem getElem?_exchange {α : Type} (ws : List α) (x y : α) (id : Nat) :
    (ws ++ [y, x])[Equiv.swap ws.length (ws.length + 1) id]? = (ws ++ [x, y])[id]? := by
  by_cases hfirst : id = ws.length
  · subst hfirst
    rw [Equiv.swap_apply_left]
    simp
  · by_cases hsecond : id = ws.length + 1
    · subst hsecond
      rw [Equiv.swap_apply_right]
      simp
    · rw [Equiv.swap_apply_of_ne_of_ne hfirst hsecond, List.getElem?_append, List.getElem?_append]
      split
      · rfl
      · rw [List.getElem?_eq_none (by simp; omega), List.getElem?_eq_none (by simp; omega)]

/-- Two steps that are addressed to two keys lead to the same store in both orders, but for the
numbers of the waits that they start. -/
theorem sifted_exchange (hs : Sound s) (ha : a.key? s = some key) (hb : b.key? s = some key')
    (hne : key ≠ key') :
    Sifted (.all (exchange s.nextWait a b)) ((s.step a).step b) ((s.step b).step a) := by
  let ws := s.waits.mapIdx fun id w =>
    { w with phase := (w.phase.after w.key id a).after w.key id b }
  have hwaits : ((s.step a).step b).waits = ws ++ ((a.starts? s).toList ++ (b.starts? s).toList) :=
    waits_two hs ha hb hne
  have hwaits' : ((s.step b).step a).waits =
      ws ++ ((b.starts? s).toList ++ (a.starts? s).toList) := by
    rw [waits_two hs hb ha hne.symm]
    refine congrArg (· ++ _) (List.mapIdx_eq_mapIdx_iff.mpr fun id hid => ?_)
    -- at most one of the two moves this wait
    have hw : ∀ w, s.waits[id]? = some w → w.key = s.waits[id].key := by
      intro w hw
      rw [List.getElem?_eq_getElem hid] at hw
      rw [Option.some.inj hw]
    by_cases hkey : s.waits[id].key = key
    · have hstays := after_elsewhere hb (fun h => hne (hkey.symm.trans h.symm)) hw
      rw [hstays, hstays]
    · have hstays := after_elsewhere ha (Ne.symm hkey) hw
      rw [hstays, hstays]
  have hlength : ws.length = s.nextWait := List.length_mapIdx
  have hnumbers : ∀ id, ((s.step b).step a).waits[exchange s.nextWait a b id]? =
      ((s.step a).step b).waits[id]? := by
    intro id
    rw [hwaits, hwaits', exchange, ← hlength, ← isSome_starts? s a, ← isSome_starts? s b]
    cases a.starts? s with
    | none => simp
    | some x =>
      cases b.starts? s with
      | none => simp
      | some y => exact getElem?_exchange ws x y id
  have hnext : ((s.step b).step a).nextWait = ((s.step a).step b).nextWait := by
    rw [nextWait, nextWait, hwaits, hwaits']
    simp only [List.length_append]
    omega
  have hfixed : ∀ n, ((s.step a).step b).nextWait ≤ n → exchange s.nextWait a b n = n := by
    intro n hn
    rw [nextWait, hwaits, List.length_append, List.length_append, hlength] at hn
    rw [exchange, ← isSome_starts? s a, ← isSome_starts? s b]
    cases hstart : a.starts? s with
    | none => rfl
    | some x =>
      cases hstart' : b.starts? s with
      | none => rfl
      | some y =>
        rw [hstart, hstart'] at hn
        simp at hn
        exact Equiv.swap_apply_of_ne_of_ne (by omega) (by omega)
  refine ⟨⟨fun j hj => ?_, ?_, fun n hn => ?_⟩, fun id _ => hnumbers id, fun k _ =>
    ?_, fun _ _ _ _ => rfl⟩
  · refine ⟨(exchange s.nextWait a b).symm j, ?_, rfl, Equiv.apply_symm_apply _ j⟩
    by_contra hge
    have hback := hfixed _ (Nat.le_of_not_lt hge)
    rw [Equiv.apply_symm_apply] at hback
    omega
  · exact hnext.trans (hfixed _ (Nat.le_refl _)).symm
  · show exchange s.nextWait a b (n + 1) = exchange s.nextWait a b n + 1
    rw [hfixed n hn, hfixed (n + 1) (by omega)]
  · rw [value_step, value_step, value_step, value_step]
    by_cases hk : k = key
    · rw [sets?_elsewhere hb (fun h => hne (hk.symm.trans h.symm))]
      rfl
    · rw [sets?_elsewhere ha (Ne.symm hk)]
      rfl

/-! ## What a key gives -/

theorem get?_reached (steps : List Step) (key : String) :
    (empty.run steps).get? key = (lastSet? key steps).map fun x => decode x.text := by
  rw [get?, value_reached, Option.map_map]
  rfl

theorem snapshot_reached (steps : List Step) (key : String) :
    (empty.run steps).snapshot.get? key = (empty.run steps).get? key :=
  get?_snapshot_eq (ordered_run List.Pairwise.nil steps) key

end Store

open Store in
/-- In every run of a store, what a key gives depends on nothing but the steps that are addressed to
it: what is read and counted, what is in a snapshot, and what its waits have come to. It gives the
last value set as the text of that is read back, and nothing if none was set. A step that is
addressed to another key changes none of it. So two steps that are addressed to two keys can change
places, whatever follows. -/
theorem keys_are_independent (steps : List Store.Step) (key : String) :
    let s := empty.run steps
    let t := empty.run (addressed key steps)
    (t.get? key = s.get? key ∧ t.waiterCount key = s.waiterCount key ∧
        t.snapshot.get? key = s.snapshot.get? key ∧ t.waits = s.waits.filter (·.key = key)) ∧
      (s.get? key = (lastSet? key steps).map (fun x => decode x.text) ∧
        s.snapshot.get? key = s.get? key ∧
        ∀ x, lastSet? key steps = some x → x.Plain → x.InKeyOrder →
          s.get? key = some (if x.depth ≤ 127 then x else .null)) ∧
      (∀ (st : Store.Step) (key' : String), st.key? s = some key' → key' ≠ key →
        (s.step st).get? key = s.get? key ∧ (s.step st).waiterCount key = s.waiterCount key ∧
          (s.step st).snapshot.get? key = s.snapshot.get? key ∧
          ∀ (id : Nat) (w : Wait), s.waits[id]? = some w → w.key = key →
            (s.step st).waits[id]? = some w) ∧
      ∀ (a b : Store.Step) (late : List Store.Step) (key' : String),
        a.key? s = some key → b.key? s = some key' → key ≠ key' →
          let place := exchange s.nextWait a b
          let ab := empty.run (steps ++ a :: b :: late)
          let ba := empty.run (steps ++ b :: a :: late.map (Step.rename place))
          (∀ id, ba.waits[place id]? = ab.waits[id]?) ∧
            (∀ k, ba.get? k = ab.get? k ∧ ba.waiterCount k = ab.waiterCount k) ∧
            ba.snapshot = ab.snapshot := by
  intro s t
  have hs : Sound s := sound_reached steps
  have hordered : KeyMap.Ordered s.slots := ordered_run List.Pairwise.nil steps
  refine
    ⟨⟨get?_addressed key steps, waiterCount_addressed key steps, ?_, waits_addressed key steps⟩,
    ⟨get?_reached steps key, snapshot_reached steps key, fun x hx hplain hkeys => ?_⟩, ?_, ?_⟩
  · rw [snapshot_reached, snapshot_reached, get?_addressed]
  · rw [get?_reached, hx, Option.map_some, decode_text hplain hkeys]
  · intro st key' hst hne
    have hget : (s.step st).get? key = s.get? key := by rw [get?, get?, slot_elsewhere hs hst hne]
    refine ⟨hget, waiterCount_elsewhere hs hst hne, ?_, ?_⟩
    · rw [get?_snapshot_eq (ordered_step hordered st), get?_snapshot_eq hordered, hget]
    · rintro id w hw rfl
      exact wait_elsewhere hs hst hw hne
  · intro a b late key' ha hb hne place ab ba
    have hab : ab = ((s.step a).step b).run late := run_append empty steps (a :: b :: late)
    have hba : ba = ((s.step b).step a).run (late.map (Step.rename place)) :=
      run_append empty steps (b :: a :: _)
    have hrun := sifted_run (sound_step (sound_step hs a) b) (sound_step (sound_step hs b) a)
      (sifted_exchange hs ha hb hne) late fun _ _ _ _ => rfl
    rw [sift_all, ← hab, ← hba] at hrun
    have hget : ∀ k, ba.get? k = ab.get? k := by
      intro k
      rw [get?, get?, hrun.values k rfl]
    refine ⟨fun id => hrun.waits id rfl, fun k => ⟨hget k, ?_⟩, ?_⟩
    · exact hrun.waiterCount (sound_reached _) (sound_reached _) fun _ _ _ _ _ => rfl
    · exact snapshot_congr (ordered_run List.Pairwise.nil _) (ordered_run List.Pairwise.nil _) hget

open Store in
/-- Two waits for two keys that start in the other order; the first of them has its value in the
end. -/
theorem keys_are_independent_two_waits :
    let late : List Store.Step := [.set "a" (.int 1), .resume 0]
    let place := exchange 0 (.begin "a") (.begin "b")
    let t := empty.run (.begin "a" :: .begin "b" :: late)
    let u := empty.run (.begin "b" :: .begin "a" :: late.map (Step.rename place))
    (t.result? 0).isSome ∧ ∀ id, u.waits[place id]? = t.waits[id]? := by
  intro late place t u
  obtain ⟨-, -, -, hswap⟩ := keys_are_independent [] "a"
  have hne : "a" ≠ "b" := by decide
  exact ⟨rfl, (hswap (.begin "a") (.begin "b") late "b" rfl rfl hne).1⟩

/-- The double that `1e-28` is read as is not what its key gives: that is a neighbour of it. -/
theorem last_set_comes_back_changed :
    ¬ ∀ (steps : List Store.Step) (key : String),
      (Store.empty.run steps).get? key = Store.lastSet? key steps := by
  intro h
  let double : Json := .float ((Binary64.ofNat 1).div (.tenPow 28))
  have hback : some (Store.decode double.text) = some double := h [.set "k" double] "k"
  have hchanged : (Store.decode double.text).text ≠ double.text := by decide +kernel
  exact hchanged (congrArg Json.text (Option.some.inj hback))

end ScriptBench
