import ScriptBench.Host.Call
import ScriptBench.Proofs.Json.Doubles
import ScriptBench.Proofs.Number.Scaling
import ScriptBench.Proofs.Shared.StoredForm

/-!
Doubles as shared values.

1. The text of a double is read as a double again, never as null (`exists_reread`): its decimal is
   nearest to the double, and scaling it ends a few neighbours away at most, or at the double itself
   if the digits and the power of ten are doubles.
2. So that is what a shared double comes back as, for whoever asks for it, waits for it or takes a
   snapshot, and it passes a comparison with the double that was shared only if it is the same
   (`shared_double_comes_back`).
3. There are doubles that do not come back (`shared_double_changes`).
-/
namespace ScriptBench

open Binary64

/-- What is read from the text of a double. -/
structure Reread (units back : Nat) : Prop where
  double : IsDouble back
  /-- The decimal that is written is nearest to the double, so what is lost is lost in reading. -/
  written : (Decimal.written units).roundedUnits = units
  scaled : Numeral.scale? (Decimal.written units).digits (Decimal.written units).exponent =
    some (.finite false back)
  exact : Short (Decimal.written units).digits →
    (Decimal.written units).exponent.natAbs ≤ 22 → back = units
  near : |(back : ℚ) - units| < (roundings (Decimal.written units).exponent + 2) * gap units

theorem scale?_top : ∀ j < 6,
    let d := Decimal.written (maxUnits - j * gap maxUnits)
    ((Numeral.scale? d.digits d.exponent).filter Binary64.isFinite).isSome = true := by
  decide +kernel

theorem eq_top {units : Nat} (h : IsDouble units) (hlarge : maxUnits < units + 6 * gap units) :
    ∃ j < 6, units = maxUnits - j * gap maxUnits := by
  have hmax : maxUnits = (2 ^ 53 - 1) * gap maxUnits := by decide +kernel
  have hle : gap units ≤ gap maxUnits := gap_mono h.finite
  have hge : gap maxUnits ≤ gap units := gap_le_gap_of_le (by omega)
  have hgap := Nat.le_antisymm hle hge
  obtain ⟨k, hk, hunits⟩ := h.short.exists_bits
  rw [hgap] at hunits hlarge
  generalize gap maxUnits = g at *
  generalize maxUnits = top at *
  have hlower : 2 ^ 53 - 1 < k + 6 := by
    refine Nat.lt_of_mul_lt_mul_right (a := g) ?_
    rwa [Nat.add_mul, ← hunits, ← hmax]
  refine ⟨2 ^ 53 - 1 - k, by omega, ?_⟩
  rw [hmax, ← Nat.sub_mul, Nat.sub_sub_self (by omega), hunits]

theorem reread_zero : Reread 0 0 := by
  have hzero : Decimal.written 0 = ⟨0, -1⟩ := by decide
  refine ⟨⟨Nat.dvd_zero _, Nat.zero_le _⟩, ?_, ?_, fun _ _ => rfl, ?_⟩
  · rw [hzero]
    exact Decimal.roundedUnits_zero _
  · rw [hzero]
    decide +kernel
  · rw [hzero]
    norm_num [roundings, gap]

/-- Every double is read as a double from its text. -/
theorem exists_reread {units : Nat} (h : IsDouble units) : ∃ back, Reread units back := by
  obtain rfl | hpos := Nat.eq_zero_or_pos units
  · exact ⟨0, reread_zero⟩
  have hwrites := writes_written h hpos
  obtain ⟨back, hshort, hnear, hscale⟩ := exists_scaled hwrites h.short
  -- six gaps below the largest double there is room for the error; the doubles above are tried one
  -- by one
  have hfinite : back ≤ maxUnits := by
    by_cases hlarge : maxUnits < units + 6 * gap units
    · obtain ⟨j, hj, hunits⟩ := eq_top h hlarge
      have htop := scale?_top j hj
      rw [← hunits] at htop
      dsimp only at htop
      rw [hscale] at htop
      by_contra hbeyond
      rw [if_neg hbeyond] at htop
      exact absurd htop (by decide)
    · have hroundings : (roundings (Decimal.written units).exponent : ℚ) ≤ 4 := by
        exact_mod_cast roundings_le _
      have hgap : (0 : ℚ) ≤ gap units := Nat.cast_nonneg _
      have hroom : (units : ℚ) + 6 * gap units ≤ maxUnits := by
        exact_mod_cast Nat.le_of_not_lt hlarge
      have hscaled := mul_le_mul_of_nonneg_right hroundings hgap
      have hle : (back : ℚ) ≤ maxUnits := by linarith [(abs_lt.mp hnear).2]
      exact_mod_cast hle
  rw [if_pos hfinite, Option.filter_eq_some_iff] at hscale
  refine ⟨back, ⟨hshort, hfinite⟩, hwrites.reads, hscale.1, fun hdigits hexp => ?_, hnear⟩
  have hexact := scale?_exact hwrites h hdigits hexp
  rw [hscale.1] at hexact
  cases hexact
  rfl

namespace Store

theorem decode_double {units back : Nat} (h : IsDouble units) (hback : Reread units back)
    (negative : Bool) :
    decode (Json.float (.finite negative units)).text = .float (.finite negative back) := by
  rw [decode, Json.parse?_float negative h, hback.scaled]
  cases negative <;> rfl

end Store

theorem same_double (negative : Bool) (units back : Nat) :
    (Json.float (.finite negative units)).same (.float (.finite negative back)) =
      decide (back = units) := by
  rw [Json.same, Binary64.same]
  cases negative <;> simp [eq_comm, beq_eq_decide]

open Store in
/-- A shared double comes back as a double of the same sign, the one that its text is read as, for
whoever gets it, waits for it, takes a snapshot or was woken by it. An assertion that it is what was
shared passes exactly if it is. -/
theorem shared_double_comes_back (before : List Store.Step) (key : String) (negative : Bool)
    {units : Nat} (h : IsDouble units) :
    ∃ back, Reread units back ∧
      let v : Json := .float (.finite negative units)
      let result : Json := .float (.finite negative back)
      let s := empty.run before
      (s.set key v).get? key = some result ∧
        ((s.set key v).begin key).result? (s.set key v).nextWait = some result ∧
        (s.set key v).snapshot.get? key = some result ∧
        (∀ (id : Nat) (w : Wait), s.waits[id]? = some w → w.key = key → w.phase = .parked →
          ∀ later, .abandon id ∉ later → .resume id ∈ later →
            ((s.set key v).run later).result? id = some result) ∧
        ∀ (settings : Settings) (host : Host),
          let set := (host.answerNow settings (.setShared key v)).1
          let got := (set.answerNow settings (.getShared key)).1
          (set.answerNow settings (.getShared key)).2 = .ok result ∧
            (got.answerNow settings (.assert v result)).2 = .ok (.bool (back = units)) := by
  obtain ⟨back, hback⟩ := exists_reread h
  refine ⟨back, hback, ?_⟩
  intro v result s
  have hs : s.Sound := sound_reached before
  have htext : decode v.text = result := decode_double h hback negative
  have hvalue : ((s.set key v).slot key).value = some v.text := value_set s key v
  refine ⟨?_, ?_, ?_, ?_, ?_⟩
  · rw [get?, hvalue, Option.map_some, htext]
  · rw [← htext]
    exact (wait_of_value (sound_step hs (.set key v)) hvalue []).1
  · rw [get?_snapshot hvalue, htext]
  · rintro id w hw rfl hp later hab hresume
    rw [← htext]
    exact result_woken hs hw hp v hab hresume
  · intro settings host set got
    have hget : set.world.store.get? key = some result := by
      have hstore : set.world.store = host.world.store.set key v := rfl
      rw [hstore, get?, value_set, Option.map_some, htext]
    refine ⟨?_, ?_⟩
    · rw [Host.answerNow, hget]
    · show Except.ok (Json.bool (v.same result)) = _
      rw [same_double]

/-- A tenth below zero is shared and comes back as it is. -/
theorem shared_double_comes_back_tenth :
    let tenth := Decimal.roundedUnits ⟨1, -1⟩
    let v : Json := .float (.finite true tenth)
    IsDouble tenth ∧ (Store.empty.set "k" v).get? "k" = some v := by
  intro tenth v
  have htenth : IsDouble tenth := ⟨Decimal.short_roundedUnits _, by decide +kernel⟩
  have hwritten : Decimal.written tenth = ⟨1, -1⟩ := by decide +kernel
  obtain ⟨back, hback, hget, -⟩ := shared_double_comes_back [] "k" true htenth
  have hsame : back = tenth := by
    refine hback.exact ?_ ?_
    · rw [hwritten]
      exact one_dvd 1
    · rw [hwritten]
      decide
  rw [hsame] at hget
  exact ⟨htenth, hget⟩

/-- The double that `1e-28` is read as is shared and comes back as another, for whoever asks for it
and whoever waits for it; a comparison with what was shared fails. -/
theorem shared_double_changes :
    let units := Decimal.roundedUnits ⟨10000000000000001, -44⟩
    let v : Json := .float (.finite false units)
    let result := Store.decode v.text
    IsDouble units ∧ v.text = "1.0000000000000001e-28" ∧ result.text = "9.999999999999999e-29" ∧
      v.same result = false ∧
      (Store.empty.set "k" v).get? "k" = some result ∧
      ((Store.empty.set "k" v).begin "k").result? 0 = some result := by
  intro units v result
  have hunits : IsDouble units := ⟨Decimal.short_roundedUnits _, by decide +kernel⟩
  have hvalue := Store.value_set Store.empty "k" v
  refine ⟨hunits, by decide +kernel, by decide +kernel, by decide +kernel, ?_, ?_⟩
  · rw [Store.get?, hvalue, Option.map_some]
  · exact (Store.wait_of_value (Store.sound_step Store.sound_empty (.set "k" v)) hvalue []).1

end ScriptBench
