import ScriptBench.Proofs.Json.ReadBack
import ScriptBench.Proofs.Shared.Wakeup

/-!
A shared value survives its stored form.

A value is kept as its text, and whoever asks for it gets what that text is read as: the value
itself if it is nested at most 127 deep, and null otherwise (`decode_text`). Asking for a key,
waiting for it, a snapshot, and a wait that the value woke all go through that text.
-/
namespace ScriptBench

namespace Store

/-- Whoever reads the text of a value gets the value, unless it is nested too deep. -/
theorem decode_text {v : Json} (hv : v.Plain) (hkeys : v.InKeyOrder) :
    decode v.text = if v.depth ≤ 127 then v else .null := by
  rw [decode, Json.parse?_text hv, Json.sorted_of_inKeyOrder v hkeys, maxNesting]
  split <;> rfl

theorem get?_snapshot {s : Store} {key text : String} (h : (s.slot key).value = some text) :
    s.snapshot.get? key = some (decode text) := by
  have hslots : ∀ slots : KeyMap Slot, (((slots.get? key).getD ⟨none, []⟩).value = some text) →
      KeyMap.get? key (slots.filterMap fun e => e.2.value.map fun text => (e.1, decode text)) =
        some (decode text) := by
    intro slots hget
    induction slots with
    | nil => simp [KeyMap.get?] at hget
    | cons e rest ih =>
      obtain ⟨k, slot⟩ := e
      by_cases hk : k = key
      · subst hk
        simp only [KeyMap.get?, if_true, Option.getD_some] at hget
        simp [hget, KeyMap.get?]
      · simp only [KeyMap.get?, hk, if_false] at hget
        cases hvalue : slot.value with
        | none => simpa [List.filterMap_cons, hvalue] using ih hget
        | some _ => simpa [List.filterMap_cons, hvalue, KeyMap.get?, hk] using ih hget
  exact hslots s.slots h

theorem value_set (s : Store) (key : String) (v : Json) :
    ((s.set key v).slot key).value = some v.text := by
  have h := value_step s (.set key v) key
  simpa [step, Step.sets?] using h

/-- A wait that sleeps is woken by the next `set` of its key, and has its value once it goes on. -/
theorem result_woken {s : Store} (hs : Sound s) {id : Nat} {w : Wait} (hw : s.waits[id]? = some w)
    (hp : w.phase = .parked) (v : Json) {later : List Step} (hab : .abandon id ∉ later)
    (hresume : .resume id ∈ later) :
    ((s.set w.key v).run later).result? id = some (decode v.text) := by
  have hw' := wait_step hs hw (.set w.key v)
  rw [hp, WaitPhase.parked_set, if_pos rfl] at hw'
  have hrun := wait_run (sound_step hs (.set w.key v)) hw' later
  rw [step] at hrun
  rw [result?, phase_eq hrun]
  dsimp only
  rw [(delivered_afterAll v.text hab).1 hresume]

end Store

open Store in
/-- Once a value is set in a store that clients have reached, whoever gets or awaits the key,
whoever takes a snapshot, and every wait the value woke has the value itself, unless it is nested
more than 127 deep; then it is null. -/
theorem stored_value_survives (before : List Store.Step) (key : String) (v : Json) (hv : v.Plain)
    (hkeys : v.InKeyOrder) :
    let s := empty.run before
    let result := if v.depth ≤ 127 then v else .null
    (s.set key v).get? key = some result ∧
      ((s.set key v).begin key).result? (s.set key v).nextWait = some result ∧
      (s.set key v).snapshot.get? key = some result ∧
      ∀ (id : Nat) (w : Wait), s.waits[id]? = some w → w.key = key → w.phase = .parked →
        ∀ later, .abandon id ∉ later → .resume id ∈ later →
          ((s.set key v).run later).result? id = some result := by
  intro s result
  have hs : s.Sound := sound_reached before
  have htext : decode v.text = result := decode_text hv hkeys
  have hvalue : ((s.set key v).slot key).value = some v.text := value_set s key v
  refine ⟨?_, ?_, ?_, ?_⟩
  · rw [get?, hvalue, Option.map_some, htext]
  · rw [← htext]
    exact (wait_of_value (sound_step hs (.set key v)) hvalue []).1
  · rw [get?_snapshot hvalue, htext]
  · rintro id w hw rfl hp later hab hresume
    rw [← htext]
    exact result_woken hs hw hp v hab hresume

/-- A nested value whose text has escapes, set while a wait sleeps on its key. -/
theorem stored_value_survives_escapes :
    let v : Json := .obj [("a\n", .arr [.int (-9223372036854775808), .str "\"\\"]), ("b", .null)]
    (v.Plain ∧ v.InKeyOrder) ∧
      ((Store.empty.run [.begin "k", .set "k" v, .resume 0]).result? 0 = some v) := by
  intro v
  have hv : v.Plain := by simp [v, Json.Plain, Json.PlainItems, Json.PlainMembers]
  have hkeys : v.InKeyOrder :=
    ⟨List.pairwise_pair.mpr (by decide), ⟨trivial, trivial, trivial⟩, trivial, trivial⟩
  obtain ⟨-, -, -, hwoken⟩ := stored_value_survives [.begin "k"] "k" v hv hkeys
  refine ⟨⟨hv, hkeys⟩, ?_⟩
  exact hwoken 0 ⟨"k", .parked, 1⟩ rfl rfl rfl [.resume 0] (by simp) (by simp)

end ScriptBench
