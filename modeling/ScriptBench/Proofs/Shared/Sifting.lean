import Mathlib.Data.List.Nodup
import ScriptBench.Proofs.Shared.Wakeup

/-!
Runs of a store with some of their steps left out, and with waits under other numbers.

A sieve says the sets of which keys stay in a run, which waits stay, and the number of each wait
that stays.

1. A wait that stays is moved by what stays as it was by the whole run (`Sieve.after_kept`,
   `Sieve.after_dropped`), and it keeps its place among those that stay (`Sieve.Numbers.begin`). So
   a run and what is left of it end in stores that agree on all that stays (`sifted_run`).
2. Whoever sleeps on a key is among its live waits, and nobody else (`mem_live`). So stores that
   agree on all who sleep on a key count them alike (`Sifted.waiterCount`), and the count is exact
   (`waiterCount_eq`).
-/
namespace ScriptBench

namespace Store

/-- The key of the wait that a step starts. -/
def Step.begins? : Step → Option String
  | .begin key => some key
  | _ => none

/-- The keys of the waits that a run starts, in the order of their numbers. -/
def begun (steps : List Step) : List String := steps.filterMap Step.begins?

theorem begun_cons (st : Step) (rest : List Step) :
    begun (st :: rest) = st.begins?.toList ++ begun rest := by
  rw [begun, List.filterMap_cons]
  cases st.begins? <;> rfl

/-- The same step with waits under other numbers. -/
def Step.rename (place : Nat → Nat) : Step → Step
  | .resume id => .resume (place id)
  | .abandon id => .abandon (place id)
  | st => st

/-- What is to stay of a run: the sets of some keys, and some waits, each under a number of its
own. -/
structure Sieve where
  keys : String → Bool
  waits : Nat → Bool
  place : Nat → Nat
  apart : ∀ i j, waits i = true → waits j = true → place i = place j → i = j

namespace Sieve

/-- Whether a step stays; `next` is the number that the next wait has. -/
def keeps (v : Sieve) (next : Nat) : Step → Bool
  | .set key _ => v.keys key
  | .begin _ => v.waits next
  | .resume id => v.waits id
  | .abandon id => v.waits id

/-- What stays of a run. -/
def sift (v : Sieve) : Nat → List Step → List Step
  | _, [] => []
  | next, st :: rest =>
    let later := v.sift (next + st.begins?.toList.length) rest
    if v.keeps next st then st.rename v.place :: later else later

theorem sift_append (v : Sieve) (next : Nat) (xs ys : List Step) :
    v.sift next (xs ++ ys) = v.sift next xs ++ v.sift (next + (begun xs).length) ys := by
  induction xs generalizing next with
  | nil => rfl
  | cons st rest ih =>
    have hlength : (begun (st :: rest)).length = st.begins?.toList.length +
        (begun rest).length := by
      rw [begun_cons, List.length_append]
    rw [List.cons_append, sift, sift, ih, hlength, ← Nat.add_assoc]
    split <;> rfl

variable {v : Sieve} {id next : Nat} {key : String} {st : Step}

/-- A step that stays moves a wait that stays as before. -/
theorem after_kept (hid : v.waits id = true) (hst : v.keeps next st = true) (p : WaitPhase) :
    p.after key (v.place id) (st.rename v.place) = p.after key id st := by
  have hsame : ∀ i, v.waits i = true → (v.place i = v.place id ↔ i = id) := by
    intro i hi
    constructor
    · intro h
      exact v.apart i id hi hid h
    · rintro rfl
      rfl
  cases st with
  | set k x => cases p <;> rfl
  | begin k => simp [Step.rename]
  | resume i => cases p <;> simp [Step.rename, hsame i hst]
  | abandon i => cases p <;> simp [Step.rename, hsame i hst]

/-- A step that is left out would not have moved a wait that stays. -/
theorem after_dropped (hid : v.waits id = true) (hkey : v.keys key = true)
    (hst : v.keeps next st = false) (p : WaitPhase) : p.after key id st = p := by
  have hother : ∀ i, v.waits i = false → i ≠ id := by
    rintro i hi rfl
    rw [hid] at hi
    cases hi
  cases st with
  | set k x =>
    have hk : k ≠ key := by
      rintro rfl
      rw [keeps, hkey] at hst
      cases hst
    cases p <;> simp [hk]
  | begin k => simp
  | resume i => cases p <;> simp [hother i hst]
  | abandon i => cases p <;> simp [hother i hst]

end Sieve

/-! ## Stores that agree on what stays -/

/-- How the waits that stay are numbered: `m` of the first `n` waits stay, and they have the numbers
below `m`. -/
structure Sieve.Numbers (v : Sieve) (n m : Nat) : Prop where
  onto : ∀ j, j < m → ∃ id, id < n ∧ v.waits id = true ∧ v.place id = j
  next : m = v.place n
  /-- Waits still to come are numbered in their order. -/
  onward : ∀ k, n ≤ k → v.place (k + 1) = v.place k + (v.waits k).toNat

/-- One more wait starts, which stays or not. -/
theorem Sieve.Numbers.begin {v : Sieve} {n m : Nat} (h : v.Numbers n m) :
    v.Numbers (n + 1) (m + (v.waits n).toNat) where
  onto := by
    intro j hj
    rcases Nat.lt_or_ge j m with hlt | hge
    · obtain ⟨id, hid, hkept, hplace⟩ := h.onto j hlt
      exact ⟨id, Nat.lt_succ_of_lt hid, hkept, hplace⟩
    · cases hkept : v.waits n with
      | false =>
        rw [hkept, Bool.toNat_false] at hj
        omega
      | true =>
        rw [hkept, Bool.toNat_true] at hj
        exact ⟨n, Nat.lt_succ_self n, hkept, by rw [← h.next]; omega⟩
  next := by rw [h.onward n (Nat.le_refl n), h.next]
  onward k hk := h.onward k (Nat.le_of_succ_le hk)

/-- Two stores that agree on all that stays. -/
structure Sifted (v : Sieve) (s t : Store) : Prop extends v.Numbers s.nextWait t.nextWait where
  waits : ∀ id, v.waits id = true → t.waits[v.place id]? = s.waits[id]?
  values : ∀ key, v.keys key = true → (t.slot key).value = (s.slot key).value
  /-- The key of a wait that stays does so too. -/
  fits : ∀ (id : Nat) (w : Wait), s.waits[id]? = some w → v.waits id = true → v.keys w.key = true

variable {v : Sieve} {s t : Store}

/-- The waits after a step are those from before, each moved, and the one that the step starts. -/
theorem waits_step_eq (hs : Sound s) (st : Step) : (s.step st).waits =
    s.waits.mapIdx (fun id w => { w with phase := w.phase.after w.key id st }) ++
      (st.starts? s).toList := by
  refine List.ext_getElem? fun id => ?_
  rw [waits_step hs, nextWait, List.getElem?_append, List.getElem?_mapIdx, List.length_mapIdx]
  rcases Nat.lt_trichotomy id s.waits.length with hlt | rfl | hgt
  · rw [if_neg (Nat.ne_of_lt hlt), Option.or_none, if_pos hlt]
  · rw [if_pos rfl, if_neg (Nat.lt_irrefl _), List.getElem?_eq_none (Nat.le_refl _), Nat.sub_self]
    cases st.starts? s <;> rfl
  · have hpos : id - s.waits.length ≠ 0 := Nat.sub_ne_zero_of_lt hgt
    rw [if_neg (Nat.ne_of_gt hgt), if_neg (Nat.lt_asymm hgt),
      List.getElem?_eq_none (Nat.le_of_lt hgt)]
    cases st.starts? s with
    | none => rfl
    | some w => simp [hpos]

/-- A step starts at most one wait, and no wait changes its key. -/
theorem keys_step (hs : Sound s) (st : Step) :
    (s.step st).waits.map (·.key) = s.waits.map (·.key) ++ st.begins?.toList := by
  have hmoved :
      (s.waits.mapIdx fun id w => { w with phase := w.phase.after w.key id st }).map (·.key) =
        s.waits.map (·.key) := by
    refine List.ext_getElem? fun id => ?_
    rw [List.getElem?_map, List.getElem?_map, List.getElem?_mapIdx, Option.map_map]
    rfl
  rw [waits_step_eq hs, List.map_append, hmoved]
  cases st <;> rfl

theorem keys_run (hs : Sound s) (steps : List Step) :
    (s.run steps).waits.map (·.key) = s.waits.map (·.key) ++ begun steps := by
  induction steps generalizing s with
  | nil => exact (List.append_nil _).symm
  | cons st rest ih =>
    have hrest := ih (sound_step hs st)
    rw [keys_step hs, List.append_assoc, ← begun_cons] at hrest
    exact hrest

theorem nextWait_step (hs : Sound s) (st : Step) :
    (s.step st).nextWait = s.nextWait + st.begins?.toList.length := by
  have hlength := congrArg List.length (keys_step hs st)
  rw [List.length_append, List.length_map, List.length_map] at hlength
  exact hlength

theorem sifted_empty (hzero : v.place 0 = 0)
    (honward : ∀ n, v.place (n + 1) = v.place n + (v.waits n).toNat) :
    Sifted v empty empty where
  onto := by simp [empty, nextWait]
  next := hzero.symm
  onward n _ := honward n
  waits := by simp [empty]
  values := by simp
  fits := by simp [empty]

theorem sets?_rename (place : Nat → Nat) (st : Step) (key : String) :
    (st.rename place).sets? key = st.sets? key := by
  cases st <;> rfl

theorem begins?_rename (place : Nat → Nat) (st : Step) :
    (st.rename place).begins? = st.begins? := by
  cases st <;> rfl

theorem Sifted.kept (h : Sifted v s t) (hs : Sound s) (ht : Sound t) {st : Step}
    (hst : v.keeps s.nextWait st = true)
    (hfit : ∀ key, st.begins? = some key → v.waits s.nextWait = true → v.keys key = true) :
    Sifted v (s.step st) (t.step (st.rename v.place)) := by
  have hnumbers : v.Numbers (s.step st).nextWait (t.step (st.rename v.place)).nextWait := by
    rw [nextWait_step hs, nextWait_step ht, begins?_rename]
    cases st with
    | begin k =>
      have hone := h.toNumbers.begin
      rw [show v.waits s.nextWait = true from hst] at hone
      exact hone
    | _ => exact h.toNumbers
  refine ⟨hnumbers, ?_, ?_, ?_⟩
  · intro id hid
    rw [waits_step hs, waits_step ht, h.waits id hid]
    congr 1
    · -- a wait that is there
      refine Option.map_congr fun w _ => ?_
      rw [Sieve.after_kept hid hst]
    · -- a wait that starts
      cases st with
      | begin k =>
        have hsame : v.place id = t.nextWait ↔ id = s.nextWait := by
          rw [h.next]
          constructor
          · intro heq
            exact v.apart id s.nextWait hid hst heq
          · rintro rfl
            rfl
        have hvalue := h.values k (hfit k rfl hst)
        simp only [hsame, Step.rename, Step.starts?, hvalue]
      | _ => simp [Step.rename, Step.starts?]
  · intro key hkey
    rw [value_step, value_step, sets?_rename, h.values key hkey]
  · intro id w hw hid
    obtain ⟨w', hw', rfl⟩ | ⟨rfl, hstart⟩ := wait_of_step hs hw
    · exact h.fits id w' hw' hid
    · cases st with
      | begin k =>
        obtain rfl := Option.some.inj hstart
        exact hfit k rfl hid
      | _ => cases hstart

theorem Sifted.dropped (h : Sifted v s t) (hs : Sound s) {st : Step}
    (hst : v.keeps s.nextWait st = false) :
    Sifted v (s.step st) t := by
  have hnumbers : v.Numbers (s.step st).nextWait t.nextWait := by
    rw [nextWait_step hs]
    cases st with
    | begin k =>
      have hone := h.toNumbers.begin
      rw [show v.waits s.nextWait = false from hst] at hone
      exact hone
    | _ => exact h.toNumbers
  have hstarts : ∀ id, v.waits id = true →
      (if id = s.nextWait then st.starts? s else none) = none := by
    intro id hid
    cases st with
    | begin k =>
      have hne : id ≠ s.nextWait := by
        rintro rfl
        rw [Sieve.keeps, hid] at hst
        cases hst
      exact if_neg hne
    | _ => exact ite_self _
  refine ⟨hnumbers, ?_, ?_, ?_⟩
  · intro id hid
    rw [waits_step hs, hstarts id hid, Option.or_none, h.waits id hid]
    refine (Option.map_id' (x := s.waits[id]?)).symm.trans (Option.map_congr fun w hw => ?_)
    rw [Sieve.after_dropped hid (h.fits id w hw hid) hst]
  · intro key hkey
    have hset : st.sets? key = none := by
      cases st with
      | set k x =>
        have hk : k ≠ key := by
          rintro rfl
          rw [Sieve.keeps, hkey] at hst
          cases hst
        simp [Step.sets?, hk]
      | _ => rfl
    rw [value_step, hset, Option.map_none, Option.none_or, h.values key hkey]
  · intro id w hw hid
    obtain ⟨w', hw', rfl⟩ | ⟨rfl, hstart⟩ := wait_of_step hs hw
    · exact h.fits id w' hw' hid
    · have hnone := hstarts s.nextWait hid
      rw [if_pos rfl, hstart] at hnone
      cases hnone

/-- A run and what stays of it end in stores that agree on all that stays. -/
theorem sifted_run (hs : Sound s) (ht : Sound t) (h : Sifted v s t) (steps : List Step)
    (hfit : ∀ n key, (begun steps)[n]? = some key → v.waits (s.nextWait + n) = true →
      v.keys key = true) :
    Sifted v (s.run steps) (t.run (v.sift s.nextWait steps)) := by
  induction steps generalizing s t with
  | nil => exact h
  | cons st rest ih =>
    have hs' : Sound (s.step st) := sound_step hs st
    have hfit' : ∀ n key, (begun rest)[n]? = some key → v.waits ((s.step st).nextWait + n) = true →
        v.keys key = true := by
      intro n key hkey hn
      rw [nextWait_step hs] at hn
      refine hfit (st.begins?.toList.length + n) key ?_ (by rwa [← Nat.add_assoc])
      rw [begun_cons, List.getElem?_append_right (Nat.le_add_right _ _), Nat.add_sub_cancel_left,
        hkey]
    have hnext := nextWait_step hs st
    rw [Sieve.sift, ← hnext]
    cases hst : v.keeps s.nextWait st with
    | true =>
      rw [if_pos rfl]
      refine ih hs' (sound_step ht _) (h.kept hs ht hst ?_) hfit'
      intro key hkey hn
      refine hfit 0 key ?_ hn
      rw [begun, List.filterMap_cons, hkey]
      rfl
    | false =>
      rw [if_neg Bool.false_ne_true]
      exact ih hs' ht (h.dropped hs hst) hfit'

/-! ## Counting who sleeps -/

theorem mem_live (hs : Sound s) (key : String) (id : Nat) :
    id ∈ s.live key ↔ ∃ w, s.waits[id]? = some w ∧ w.key = key ∧ w.phase = .parked := by
  rw [live, List.mem_filter]
  constructor
  · rintro ⟨hmem, hopen⟩
    obtain ⟨w, hw, hkey, hp⟩ := hs.registered key id hmem
    refine ⟨w, hw, hkey, hp.resolve_right fun h => ?_⟩
    simp [isClosed, phase_eq hw, h] at hopen
  · rintro ⟨w, hw, rfl, hp⟩
    exact ⟨hs.parked id w hw hp, by simp [isClosed, phase_eq hw, hp]⟩

theorem nodup_live (hs : Sound s) (key : String) : (s.live key).Nodup := (hs.nodup key).filter _

theorem waiterCount_eq_length (s : Store) (key : String) :
    s.waiterCount key = (s.live key).length :=
  List.countP_eq_length_filter

/-- Stores that agree on all who sleep on a key count them alike. -/
theorem Sifted.waiterCount (h : Sifted v s t) (hs : Sound s) (ht : Sound t) {key : String}
    (hkept : ∀ (id : Nat) (w : Wait), s.waits[id]? = some w → w.key = key → w.phase = .parked →
      v.waits id = true) :
    t.waiterCount key = s.waiterCount key := by
  have hlive : ∀ id ∈ s.live key, v.waits id = true := by
    intro id hid
    obtain ⟨w, hw, hkey, hp⟩ := (mem_live hs key id).mp hid
    exact hkept id w hw hkey hp
  have hnodup : ((s.live key).map v.place).Nodup := by
    refine List.Nodup.map_on (fun i hi j hj heq => ?_) (nodup_live hs key)
    exact v.apart i j (hlive i hi) (hlive j hj) heq
  have hperm : (t.live key).Perm ((s.live key).map v.place) := by
    refine (List.perm_ext_iff_of_nodup (nodup_live ht key) hnodup).mpr fun j => ?_
    rw [mem_live ht, List.mem_map]
    constructor
    · rintro ⟨w, hw, hkey, hp⟩
      have hj : j < t.nextWait := (List.getElem?_eq_some_iff.mp hw).1
      obtain ⟨id, -, hid, rfl⟩ := h.onto j hj
      rw [h.waits id hid] at hw
      exact ⟨id, (mem_live hs key id).mpr ⟨w, hw, hkey, hp⟩, rfl⟩
    · rintro ⟨id, hid, rfl⟩
      rw [h.waits id (hlive id hid)]
      exact (mem_live hs key id).mp hid
  rw [waiterCount_eq_length, waiterCount_eq_length, hperm.length_eq, List.length_map]

theorem countP_range {α : Type} (p : α → Bool) (xs : List α) :
    (List.range xs.length).countP (fun i => (xs[i]?).any p) = xs.countP p := by
  induction xs with
  | nil => rfl
  | cons x rest ih =>
    rw [List.length_cons, List.range_succ_eq_map, List.countP_cons, List.countP_map,
      List.countP_cons, ← ih]
    rfl

/-- The count of a key is the number of waits that sleep on it. -/
theorem waiterCount_eq (hs : Sound s) (key : String) :
    s.waiterCount key = s.waits.countP fun w => w.key = key ∧ w.phase = .parked := by
  let sleeps (w : Wait) : Bool := w.key = key ∧ w.phase = .parked
  have hperm : (s.live key).Perm ((List.range s.waits.length).filter fun id =>
      (s.waits[id]?).any sleeps) := by
    refine (List.perm_ext_iff_of_nodup (nodup_live hs key) (List.nodup_range.filter _)).mpr
      fun id => ?_
    rw [mem_live hs, List.mem_filter, List.mem_range, Option.any_eq_true]
    constructor
    · rintro ⟨w, hw, hkey, hp⟩
      exact ⟨(List.getElem?_eq_some_iff.mp hw).1, w, hw, by simp [sleeps, hkey, hp]⟩
    · rintro ⟨-, w, hw, hboth⟩
      exact ⟨w, hw, by simpa [sleeps] using hboth⟩
  rw [waiterCount_eq_length, hperm.length_eq, ← List.countP_eq_length_filter, countP_range]

end Store

end ScriptBench
