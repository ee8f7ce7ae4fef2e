import Mathlib.Data.List.Sort
import ScriptBench.Proofs.Json.Typed
import ScriptBench.Proofs.Shared.StoredForm

/-!
A snapshot of the shared values.

1. The keys of a store stand in order, each once, whatever clients do (`ordered_run`).
2. So a snapshot has exactly the keys that were ever set, each with the last value set, as its text
   is read back; keys that were only asked for, or waited for, are not in it (`mem_snapshot_run`).
-/
namespace ScriptBench

namespace KeyMap

variable {α β : Type}

/-- The keys stand in order, each once. -/
abbrev Ordered (m : KeyMap α) : Prop := m.Pairwise fun a b => a.1 < b.1

theorem ordered_insert {m : KeyMap α} (h : Ordered m) (key : String) (value : α) :
    Ordered (insert key value m) := by
  -- along the entries: the new one comes before the first that is larger, or in place of its own
  -- key
  induction m with
  | nil => exact List.pairwise_singleton _ _
  | cons d rest ih =>
    obtain ⟨k, v⟩ := d
    obtain ⟨hfirst, hrest⟩ := List.pairwise_cons.mp h
    rw [insert]
    split
    · rename_i hkey
      subst hkey
      exact List.pairwise_cons.mpr ⟨hfirst, hrest⟩
    · rename_i hne
      split
      · rename_i hlt
        refine List.pairwise_cons.mpr ⟨fun e he => ?_, h⟩
        rcases List.mem_cons.mp he with rfl | he
        · exact hlt
        · exact String.lt_trans hlt (hfirst e he)
      · rename_i hnot
        have hlt : k < key := Std.lt_of_le_of_ne (String.not_lt.mp hnot) (Ne.symm hne)
        refine List.pairwise_cons.mpr ⟨fun e he => ?_, ih hrest⟩
        rcases mem_insert he with rfl | he
        · exact hlt
        · exact hfirst e he

theorem mem_iff_get? {m : KeyMap α} (h : Ordered m) (key : String) (value : α) :
    (key, value) ∈ m ↔ get? key m = some value := by
  induction m with
  | nil => simp [get?]
  | cons d rest ih =>
    obtain ⟨k, v⟩ := d
    obtain ⟨hfirst, hrest⟩ := List.pairwise_cons.mp h
    by_cases hk : k = key
    · subst hk
      have hnot : (k, value) ∉ rest := fun he => String.lt_irrefl k (hfirst _ he)
      simp [get?, hnot, eq_comm]
    · simp [get?, hk, ih hrest, Ne.symm hk]

/-- Ordered maps are the same if the same is found in them. -/
theorem eq_of_get? {m n : KeyMap α} (hm : Ordered m) (hn : Ordered n)
    (h : ∀ key, get? key m = get? key n) :
    m = n := by
  have : Std.Antisymm fun a b : String × α => a.1 < b.1 :=
    ⟨fun a b hab hba => absurd (String.lt_trans hab hba) (String.lt_irrefl a.1)⟩
  have : Std.Irrefl fun a b : String × α => a.1 < b.1 := ⟨fun a => String.lt_irrefl a.1⟩
  refine List.Pairwise.eq_of_mem_iff hm hn fun e => ?_
  obtain ⟨key, value⟩ := e
  rw [mem_iff_get? hm, mem_iff_get? hn, h]

theorem ordered_filterMap {m : KeyMap α} (h : Ordered m) (f : α → Option β) :
    Ordered (m.filterMap fun e => (f e.2).map fun b => (e.1, b) : KeyMap β) := by
  refine List.Pairwise.filterMap _ (fun a b hab c hc d hd => ?_) h
  obtain ⟨_, -, rfl⟩ := Option.map_eq_some_iff.mp hc
  obtain ⟨_, -, rfl⟩ := Option.map_eq_some_iff.mp hd
  exact hab

end KeyMap

namespace Store

open KeyMap (Ordered ordered_insert)

theorem ordered_look {s : Store} (h : Ordered s.slots) (id : Nat) : Ordered (s.look id).slots := by
  unfold look
  split
  · exact h
  · dsimp only
    split
    · exact h
    · exact ordered_insert h _ _

theorem ordered_step {s : Store} (h : Ordered s.slots) (st : Step) : Ordered (s.step st).slots := by
  cases st with
  | set key v => exact ordered_insert h _ _
  | begin key =>
    exact ordered_look (s := { s with waits := s.waits ++ [⟨key, .parked, 0⟩] }) h s.nextWait
  | resume id =>
    simp only [step, resume]
    split
    · exact h
    · split
      · exact h
      · split
        · exact h
        · exact ordered_look h id
      · exact h
  | abandon id =>
    simp only [step, abandon]
    split <;> exact h

theorem ordered_run {s : Store} (h : Ordered s.slots) (steps : List Step) :
    Ordered (s.run steps).slots := by
  induction steps generalizing s with
  | nil => exact h
  | cons st rest ih => exact ih (ordered_step h st)

/-- A snapshot has a key if it has a value, with that value. -/
theorem mem_snapshot_iff {s : Store} (h : Ordered s.slots) (key : String) (v : Json) :
    (key, v) ∈ s.snapshot ↔ s.get? key = some v := by
  have hslot : s.get? key = some v ↔ ∃ slot, s.slots.get? key = some slot ∧
      slot.value.map decode = some v := by
    rw [get?, Store.slot]
    cases s.slots.get? key <;> simp
  rw [hslot, snapshot, List.mem_filterMap]
  constructor
  · rintro ⟨⟨k, slot⟩, hmem, hvalue⟩
    obtain ⟨text, htext, heq⟩ := Option.map_eq_some_iff.mp hvalue
    cases heq
    exact ⟨slot, (KeyMap.mem_iff_get? h _ _).mp hmem, by simp [htext]⟩
  · rintro ⟨slot, hget, hvalue⟩
    obtain ⟨text, htext, rfl⟩ := Option.map_eq_some_iff.mp hvalue
    exact ⟨(key, slot), (KeyMap.mem_iff_get? h _ _).mpr hget, by simp [htext]⟩

theorem ordered_snapshot {s : Store} (h : Ordered s.slots) : Ordered s.snapshot := by
  have hmap := KeyMap.ordered_filterMap h fun slot => slot.value.map decode
  have hsame : s.snapshot = s.slots.filterMap fun e =>
      (e.2.value.map decode).map fun v => (e.1, v) := by
    simp only [snapshot, Option.map_map]
    rfl
  exact hsame ▸ hmap

theorem get?_snapshot_eq {s : Store} (h : Ordered s.slots) (key : String) :
    s.snapshot.get? key = s.get? key := by
  refine Option.ext fun v => ?_
  rw [← KeyMap.mem_iff_get? (ordered_snapshot h), mem_snapshot_iff h]

/-- Stores in which every key gives the same have one snapshot. -/
theorem snapshot_congr {s t : Store} (hs : Ordered s.slots) (ht : Ordered t.slots)
    (h : ∀ key, t.get? key = s.get? key) : t.snapshot = s.snapshot := by
  refine KeyMap.eq_of_get? (ordered_snapshot ht) (ordered_snapshot hs) fun key => ?_
  rw [get?_snapshot_eq ht, get?_snapshot_eq hs, h]

/-- The snapshot of a store that clients have reached has the keys that were set, and the last value
of each. -/
theorem mem_snapshot_run (steps : List Step) (key : String) (v : Json) :
    (key, v) ∈ (empty.run steps).snapshot ↔ ∃ x, lastSet? key steps = some x ∧
      v = decode x.text := by
  have hordered : Ordered (empty.run steps).slots := ordered_run List.Pairwise.nil steps
  rw [mem_snapshot_iff hordered, get?, value_run]
  have hnone : (empty.slot key).value = none := rfl
  rw [hnone, Option.or_none, Option.map_map, Option.map_eq_some_iff]
  simp [eq_comm]

end Store

end ScriptBench
