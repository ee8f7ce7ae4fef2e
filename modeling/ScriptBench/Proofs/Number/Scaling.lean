import Mathlib.Tactic.IntervalCases
import ScriptBench.Json.Numeral
import ScriptBench.Proofs.Number.ShortestDecimal

/-!
What is lost when a significand is scaled by a power of ten.

1. Two numbers are within `m` roundings of each other if a product of `m` factors of a single
   rounding takes one beyond the other. Roundings add up in products and quotients (`Within.mul`,
   `Within.div`).
2. A significand, a power of ten and their product or quotient are rounded once each. Below the
   range of powers of ten there are two quotients, and the first may be too small for all its bits
   (`exists_scale`).
3. So the decimal that a double is written as gives, when it is scaled, a double that is few
   neighbours away from the one written, or one beyond the largest (`exists_scaled`).
4. If the significand and the power of ten are doubles themselves, only the last rounding is left,
   and it gives the double that was written (`scale?_exact`).
-/
namespace ScriptBench

open Binary64

/-! ## Numbers that are some roundings apart -/

/-- The largest factor between a number and what it is rounded to. -/
def slack : ℚ := 2 ^ 53 / (2 ^ 53 - 1)

/-- Positive numbers that are at most `m` roundings apart. -/
structure Within (m : Nat) (a b : ℚ) : Prop where
  left : 0 < a
  right : 0 < b
  upper : a ≤ slack ^ m * b
  lower : b ≤ slack ^ m * a

namespace Within

variable {m n : Nat} {a b c a' b' : ℚ}

theorem one_le_slack : 1 ≤ slack := by
  norm_num [slack]

theorem slack_pos (m : Nat) : 0 < slack ^ m := pow_pos (zero_lt_one.trans_le one_le_slack) m

theorem slack_le (hm : m ≤ 4) : slack ^ m ≤ 1 + (m + 1 / 8) / 2 ^ 53 := by
  interval_cases m <;> norm_num [slack]

theorem slack_le_two (hm : m ≤ 4) : slack ^ m ≤ 2 := by
  interval_cases m <;> norm_num [slack]

theorem refl (h : 0 < a) : Within 0 a a := ⟨h, h, by simp, by simp⟩

theorem symm (h : Within m a b) : Within m b a := ⟨h.right, h.left, h.lower, h.upper⟩

theorem mono (h : Within m a b) (hmn : m ≤ n) : Within n a b := by
  have hpow : slack ^ m ≤ slack ^ n := pow_le_pow_right₀ one_le_slack hmn
  exact ⟨h.left, h.right, h.upper.trans (mul_le_mul_of_nonneg_right hpow h.right.le),
    h.lower.trans (mul_le_mul_of_nonneg_right hpow h.left.le)⟩

theorem le_trans_slack (h : a ≤ slack ^ m * b) (h' : b ≤ slack ^ n * c) :
    a ≤ slack ^ (m + n) * c := by
  calc a ≤ slack ^ m * b := h
    _ ≤ slack ^ m * (slack ^ n * c) := mul_le_mul_of_nonneg_left h' (slack_pos m).le
    _ = slack ^ (m + n) * c := by rw [pow_add, mul_assoc]

theorem trans (h : Within m a b) (h' : Within n b c) : Within (m + n) a c :=
  ⟨h.left, h'.right, le_trans_slack h.upper h'.upper,
    by rw [Nat.add_comm]; exact le_trans_slack h'.lower h.lower⟩

theorem mul (h : Within m a b) (h' : Within n a' b') : Within (m + n) (a * a') (b * b') := by
  have hmul : ∀ {x y x' y' : ℚ}, 0 < x' → 0 < y → x ≤ slack ^ m * y → x' ≤ slack ^ n * y' →
      x * x' ≤ slack ^ (m + n) * (y * y') := by
    intro x y x' y' hx' hy hxy hxy'
    calc x * x' ≤ (slack ^ m * y) * (slack ^ n * y') :=
          mul_le_mul hxy hxy' hx'.le (mul_nonneg (slack_pos m).le hy.le)
      _ = slack ^ (m + n) * (y * y') := by rw [pow_add]; ring
  exact ⟨mul_pos h.left h'.left, mul_pos h.right h'.right, hmul h'.left h.right h.upper h'.upper,
    hmul h'.right h.left h.lower h'.lower⟩

theorem inv (h : Within m a b) : Within m a⁻¹ b⁻¹ := by
  have hinv : ∀ {x y : ℚ}, 0 < x → 0 < y → y ≤ slack ^ m * x → x⁻¹ ≤ slack ^ m * y⁻¹ := by
    intro x y hx hy hyx
    rw [inv_le_iff_one_le_mul₀ hx, mul_assoc, mul_comm y⁻¹ x, ← mul_assoc, ← div_eq_mul_inv,
      one_le_div hy]
    exact hyx
  exact ⟨inv_pos.mpr h.left, inv_pos.mpr h.right, hinv h.left h.right h.lower,
    hinv h.right h.left h.upper⟩

theorem div (h : Within m a b) (h' : Within n a' b') : Within (m + n) (a / a') (b / b') := by
  rw [div_eq_mul_inv, div_eq_mul_inv]
  exact h.mul h'.inv

theorem error (h : Within m a b) (hm : m ≤ 4) : |a - b| * 2 ^ 53 ≤ (m + 1 / 8) * b := by
  have hpow := slack_le hm
  have hpos := h.right
  have hupper : a ≤ (1 + (m + 1 / 8) / 2 ^ 53) * b :=
    h.upper.trans (mul_le_mul_of_nonneg_right hpow hpos.le)
  have hlower : b ≤ (1 + (m + 1 / 8) / 2 ^ 53) * a :=
    h.lower.trans (mul_le_mul_of_nonneg_right hpow h.left.le)
  rw [← le_div_iff₀ (by norm_num), abs_sub_le_iff]
  generalize hδ : ((m : ℚ) + 1 / 8) / 2 ^ 53 = δ at *
  have hδpos : 0 ≤ δ := by rw [← hδ]; positivity
  rw [mul_div_right_comm, hδ]
  refine ⟨by linarith, ?_⟩
  by_cases hle : a ≤ b
  · have := mul_le_mul_of_nonneg_left hle hδpos
    linarith
  · have := mul_nonneg hδpos hpos.le
    linarith [not_le.mp hle]

end Within

/-! ## One rounding -/

section

variable {num den : Nat}

/-- A quotient that has all its bits is one rounding away from what it is rounded to. -/
theorem within_roundUnits (hden : 0 < den) (h : (2 : ℚ) ^ 52 ≤ num / den) :
    Within 1 (roundUnits num den) ((num : ℚ) / den) := by
  have herror := error_le_max num hden
  generalize (num : ℚ) / den = q at *
  generalize (roundUnits num den : ℚ) = r at *
  rw [max_eq_right (by linarith), abs_le] at herror
  refine ⟨by linarith, by linarith, ?_, ?_⟩
  · rw [pow_one, slack, div_mul_eq_mul_div, le_div_iff₀ (by norm_num)]
    linarith
  · rw [pow_one, slack, div_mul_eq_mul_div, le_div_iff₀ (by norm_num)]
    linarith

/-- A quotient that is too small for all its bits is rounded to the nearest whole number of
units. -/
theorem exists_within_roundUnits (hden : 0 < den) (hnum : 0 < num) :
    ∃ a : ℚ, Within 1 a ((num : ℚ) / den) ∧ |(roundUnits num den : ℚ) - a| ≤ 1 / 2 := by
  by_cases h : (2 : ℚ) ^ 52 ≤ num / den
  · exact ⟨_, within_roundUnits hden h, by norm_num⟩
  · have hpos : (0 : ℚ) < num / den := div_pos (by exact_mod_cast hnum) (by exact_mod_cast hden)
    refine ⟨_, (Within.refl hpos).mono (Nat.zero_le 1), (error_le_max num hden).trans ?_⟩
    rw [max_le_iff]
    exact ⟨le_refl _, by linarith [not_le.mp h]⟩

end

theorem units_pos : (0 : ℚ) < unitsPerOne := by exact_mod_cast Decimal.unitsPerOne_pos

theorem finite_of_within {n s : Nat} (h : Within 1 (s : ℚ) (n * unitsPerOne)) (hn : n ≤ 10 ^ 308) :
    s ≤ maxUnits := by
  have hupper := h.upper
  rw [pow_one, slack, div_mul_eq_mul_div, le_div_iff₀ (by norm_num)] at hupper
  have hroom : 2 ^ 53 * (10 ^ 308 * unitsPerOne) + maxUnits ≤ maxUnits * 2 ^ 53 := by decide +kernel
  have hscaled : 2 ^ 53 * (n * unitsPerOne) + maxUnits ≤ maxUnits * 2 ^ 53 :=
    Nat.le_trans (Nat.add_le_add_right (Nat.mul_le_mul_left _ (Nat.mul_le_mul_right _ hn)) _) hroom
  have hscaled' : (2 : ℚ) ^ 53 * (n * unitsPerOne) + maxUnits ≤ maxUnits * 2 ^ 53 := by
    exact_mod_cast hscaled
  have hle : (s : ℚ) ≤ maxUnits := by
    refine le_of_mul_le_mul_right ?_ (show (0 : ℚ) < 2 ^ 53 - 1 by norm_num)
    linarith
  exact_mod_cast hle

/-- A number up to the largest power of ten is one rounding away from its double. -/
theorem exists_ofNat {n : Nat} (hpos : 0 < n) (hn : n ≤ 10 ^ 308) :
    ∃ s, Binary64.ofNat n = .finite false s ∧ Within 1 (s : ℚ) (n * unitsPerOne) := by
  have hquotient : ((n * unitsPerOne : Nat) : ℚ) / (1 : Nat) = n * unitsPerOne := by
    push_cast
    rw [div_one]
  have hwithin : Within 1 (roundUnits (n * unitsPerOne) 1 : ℚ) (n * unitsPerOne) := by
    rw [← hquotient]
    refine within_roundUnits Nat.one_pos ?_
    rw [hquotient]
    have hunits : 2 ^ 52 ≤ n * unitsPerOne :=
      Nat.le_trans (show 2 ^ 52 ≤ unitsPerOne by decide +kernel) (Nat.le_mul_of_pos_left _ hpos)
    exact_mod_cast hunits
  have hfinite : roundUnits (n * unitsPerOne) 1 ≤ maxUnits := finite_of_within hwithin hn
  refine ⟨_, ?_, hwithin⟩
  rw [Binary64.ofNat, ofRatio, ofUnits, if_pos hfinite]

theorem exists_tenPow {k : Nat} (hk : k ≤ 308) :
    ∃ t, tenPow k = .finite false t ∧ 0 < t ∧ Within 1 (t : ℚ) (10 ^ k * unitsPerOne) := by
  have hle : 10 ^ k ≤ 10 ^ 308 := pow_le_pow_right₀ (by decide) hk
  obtain ⟨t, ht, hwithin⟩ := exists_ofNat (Nat.pow_pos (by decide)) hle
  push_cast at hwithin
  exact ⟨t, ht, by exact_mod_cast hwithin.left, hwithin⟩

theorem mul_finite (s t : Nat) :
    (Binary64.finite false s).mul (.finite false t) = ofUnits false (s * t) unitsPerOne := rfl

theorem div_finite (s : Nat) {t : Nat} (ht : 0 < t) :
    (Binary64.finite false s).div (.finite false t) = ofUnits false (s * unitsPerOne) t := by
  rw [Binary64.div, if_neg ht.ne']
  rfl

/-! ## Quotients that stand for decimals -/

/-- A quotient that is at most `m` roundings and a tenth away from a number. -/
structure Approximates (m num den : Nat) (v : ℚ) : Prop where
  den_pos : 0 < den
  near : ∃ a, Within m a v ∧ |(num : ℚ) / den - a| ≤ 1 / 10

theorem Approximates.of_within {m num den : Nat} {v : ℚ} (hden : 0 < den)
    (h : Within m ((num : ℚ) / den) v) :
    Approximates m num den v := ⟨hden, _, h, by norm_num⟩

/-- How often a number is rounded before the last product or quotient is. -/
def roundings (exponent : Int) : Nat := if exponent < -308 then 4 else 2

theorem roundings_le (e : Int) : roundings e ≤ 4 := by
  unfold roundings
  split <;> decide

/-- The double that is nearest to a quotient, unless that is beyond the largest. -/
def nearest? (num den : Nat) : Option Binary64 :=
  (some (ofUnits false num den)).filter Binary64.isFinite

theorem nearest?_eq (num den : Nat) :
    nearest? num den = if roundUnits num den ≤
      maxUnits then some (.finite false (roundUnits num den)) else none := by
  unfold nearest? ofUnits
  dsimp only
  split <;> rfl

theorem value_up (S k : Nat) :
    (⟨S, k⟩ : Decimal).value * unitsPerOne =
      S * unitsPerOne * (10 ^ k * unitsPerOne) / unitsPerOne := by
  rw [Decimal.value, zpow_natCast, ← mul_assoc, mul_div_cancel_right₀ _ units_pos.ne']
  ring

theorem value_down (S k : Nat) :
    (⟨S, -k⟩ : Decimal).value * unitsPerOne =
      S * unitsPerOne * unitsPerOne / (10 ^ k * unitsPerOne) := by
  rw [Decimal.value, zpow_neg, zpow_natCast, mul_div_mul_right _ _ units_pos.ne']
  ring

theorem exists_scale_up {S k : Nat} (hpos : 0 < S) (hS : S ≤ 10 ^ 17) (hk : k ≤ 308) :
    ∃ num den, Approximates 2 num den ((⟨S, k⟩ : Decimal).value * unitsPerOne) ∧
      (Numeral.scale? S k).filter Binary64.isFinite = nearest? num den := by
  obtain ⟨s, hs, hs'⟩ := exists_ofNat hpos (hS.trans (pow_le_pow_right₀ (by decide) (by decide)))
  obtain ⟨t, ht, -, ht'⟩ := exists_tenPow hk
  refine ⟨s * t, unitsPerOne, .of_within Decimal.unitsPerOne_pos ?_, ?_⟩
  · rw [value_up]
    push_cast
    exact (hs'.mul ht').div (Within.refl units_pos)
  · have hscale : Numeral.scale? S k =
        if (ofUnits false (s * t) unitsPerOne).isFinite then
          some (ofUnits false (s * t) unitsPerOne)
        else none := by
      rw [Numeral.scale?, if_neg (by omega), if_neg (by omega), Int.toNat_natCast,
        hs, ht, mul_finite]
    rw [hscale, nearest?]
    split
    · rfl
    · rename_i h
      exact (if_neg h).symm

theorem scaleDown_of_le {count : Nat} (h : count ≤ 308) (f : Binary64) (steps : Nat) :
    Numeral.scaleDown f count steps = f.div (.tenPow count) := by
  cases steps with
  | zero => rfl
  | succ steps => rw [Numeral.scaleDown, if_pos h]

theorem scale?_down (S : Nat) {k : Nat} (hk : 0 < k) :
    Numeral.scale? S (-(k : Int)) = some (Numeral.scaleDown (.ofNat S) k (k / 308)) := by
  rw [Numeral.scale?, if_pos (by omega), Int.neg_neg, Int.toNat_natCast]

theorem exists_scale_down {S k : Nat} (hpos : 0 < S) (hS : S ≤ 10 ^ 17) (hk : 0 < k)
    (hk' : k ≤ 308) :
    ∃ num den, Approximates 2 num den ((⟨S, -k⟩ : Decimal).value * unitsPerOne) ∧
      (Numeral.scale? S (-(k : Int))).filter Binary64.isFinite = nearest? num den := by
  obtain ⟨s, hs, hs'⟩ := exists_ofNat hpos (hS.trans (pow_le_pow_right₀ (by decide) (by decide)))
  obtain ⟨t, ht, htpos, ht'⟩ := exists_tenPow hk'
  refine ⟨s * unitsPerOne, t, .of_within htpos ?_, ?_⟩
  · rw [value_down]
    push_cast
    exact (hs'.mul (Within.refl units_pos)).div ht'
  · rw [scale?_down S hk, scaleDown_of_le hk', hs, ht, div_finite s htpos, nearest?]

theorem value_far (S k n : Nat) :
    (⟨S, -(k + n : Nat)⟩ : Decimal).value * unitsPerOne =
      S * unitsPerOne * unitsPerOne / (10 ^ k * unitsPerOne) * unitsPerOne /
        (10 ^ n * unitsPerOne) := by
  rw [Decimal.value, zpow_neg, zpow_natCast, pow_add, mul_div_mul_right _ _ units_pos.ne',
    mul_div_mul_right _ _ units_pos.ne', div_div]
  ring

theorem first_quotient_finite {S r : Nat} {a : ℚ} (hS : S ≤ 10 ^ 17)
    (h : Within 3 a (S * unitsPerOne * unitsPerOne / (10 ^ 308 * unitsPerOne)))
    (hr : (r : ℚ) - a ≤ 1 / 2) :
    r ≤ maxUnits := by
  have hunits := units_pos
  have hsmall : (S : ℚ) * unitsPerOne * unitsPerOne / (10 ^ 308 * unitsPerOne) ≤ unitsPerOne := by
    have hS' : S ≤ 10 ^ 308 := hS.trans (pow_le_pow_right₀ (by decide) (by decide))
    have hS'' : (S : ℚ) ≤ 10 ^ 308 := by exact_mod_cast hS'
    rw [div_le_iff₀ (mul_pos (pow_pos (by norm_num) 308) hunits), mul_comm (unitsPerOne : ℚ)]
    exact mul_le_mul_of_nonneg_right (mul_le_mul_of_nonneg_right hS'' hunits.le) hunits.le
  have hupper : a ≤ 2 * unitsPerOne :=
    h.upper.trans (mul_le_mul (Within.slack_le_two (by decide)) hsmall h.right.le (by norm_num))
  have hone : (1 : ℚ) ≤ unitsPerOne := by exact_mod_cast Decimal.unitsPerOne_pos
  have hroom : 3 * unitsPerOne ≤ maxUnits := by decide +kernel
  have hroom' : (3 : ℚ) * unitsPerOne ≤ maxUnits := by exact_mod_cast hroom
  have hle : (r : ℚ) ≤ maxUnits := by linarith
  exact_mod_cast hle

/-- Half a unit of the first quotient is at most a tenth of one in the second. -/
theorem second_quotient_error {n r t : Nat} {a : ℚ} (hn : 0 < n)
    (ht : Within 1 (t : ℚ) (10 ^ n * unitsPerOne)) (hr : |(r : ℚ) - a| ≤ 1 / 2) :
    |((r * unitsPerOne : Nat) : ℚ) / t - a * unitsPerOne / t| ≤ 1 / 10 := by
  have hunits := units_pos
  have hpow : (10 : ℚ) ≤ 10 ^ n := le_self_pow₀ (by norm_num) hn.ne'
  have hlower : 10 * (unitsPerOne : ℚ) ≤ 2 * t := by
    calc 10 * (unitsPerOne : ℚ) ≤ 10 ^ n * unitsPerOne := mul_le_mul_of_nonneg_right hpow hunits.le
      _ ≤ slack ^ 1 * t := ht.lower
      _ ≤ 2 * t := mul_le_mul_of_nonneg_right (Within.slack_le_two (by decide)) ht.left.le
  have hsplit : ((r * unitsPerOne : Nat) : ℚ) / t - a * unitsPerOne / t =
      (r - a) * (unitsPerOne / t) := by
    push_cast
    ring
  have hfew : (unitsPerOne : ℚ) / t ≤ 1 / 5 := by
    rw [div_le_iff₀ ht.left]
    linarith
  have hpos : (0 : ℚ) ≤ unitsPerOne / t := (div_pos hunits ht.left).le
  rw [hsplit, abs_mul, abs_of_nonneg hpos]
  calc |(r : ℚ) - a| * (unitsPerOne / t) ≤ 1 / 2 * (1 / 5) := mul_le_mul hr hfew hpos (by norm_num)
    _ = 1 / 10 := by norm_num

/-- Below the range of powers of ten the first quotient is rounded too. -/
theorem exists_scale_far {S n : Nat} (hpos : 0 < S) (hS : S ≤ 10 ^ 17) (hn : 0 < n) (hn' : n ≤ 32) :
    ∃ num den, Approximates 4 num den ((⟨S, -(308 + n : Nat)⟩ : Decimal).value * unitsPerOne) ∧
      (Numeral.scale? S (-((308 + n : Nat) : Int))).filter Binary64.isFinite =
        nearest? num den := by
  obtain ⟨s, hs, hs'⟩ := exists_ofNat hpos (hS.trans (pow_le_pow_right₀ (by decide) (by decide)))
  obtain ⟨t, ht, htpos, ht'⟩ := exists_tenPow (Nat.le_refl 308)
  obtain ⟨u, hu, hupos, hu'⟩ := exists_tenPow (show n ≤ 308 by omega)
  have hspos : 0 < s := by exact_mod_cast hs'.left
  obtain ⟨a, ha, hnear⟩ :=
    exists_within_roundUnits htpos (Nat.mul_pos hspos Decimal.unitsPerOne_pos)
  generalize hr : roundUnits (s * unitsPerOne) t = r at hnear
  have hfirst : Within 3 a (S * unitsPerOne * unitsPerOne / (10 ^ 308 * unitsPerOne)) := by
    push_cast at ha
    exact ha.trans ((hs'.mul (Within.refl units_pos)).div ht')
  have hfinite : r ≤ maxUnits := first_quotient_finite hS hfirst (abs_le.mp hnear).2
  refine ⟨r * unitsPerOne, u,
    ⟨hupos, a * unitsPerOne / u, ?_, second_quotient_error hn hu' hnear⟩, ?_⟩
  · rw [value_far]
    exact (hfirst.mul (Within.refl units_pos)).div hu'
  · have hbeyond : ¬ 308 + n ≤ 308 := by omega
    rw [scale?_down S (by omega), show (308 + n) / 308 = 1 by omega, Numeral.scaleDown,
      if_neg hbeyond, hs, if_neg (by simp [Binary64.isZero, hspos.ne']), ht, div_finite s htpos,
      ofUnits, hr, if_pos hfinite, Nat.add_sub_cancel_left, scaleDown_of_le (by omega), hu,
      div_finite r hupos, nearest?]

theorem exists_scale {S : Nat} {e : Int} (hpos : 0 < S) (hS : S ≤ 10 ^ 17) (hlow : -340 ≤ e)
    (hhigh : e ≤ 308) :
    ∃ num den, Approximates (roundings e) num den ((⟨S, e⟩ : Decimal).value * unitsPerOne) ∧
      (Numeral.scale? S e).filter Binary64.isFinite = nearest? num den := by
  obtain hfar | hnear := lt_or_ge e (-308)
  · obtain ⟨n, rfl⟩ : ∃ n : Nat, e = -((308 + n : Nat) : Int) := ⟨(-e - 308).toNat, by omega⟩
    rw [roundings, if_pos hfar]
    exact exists_scale_far hpos hS (by omega) (by omega)
  · rw [roundings, if_neg (by omega)]
    obtain hdown | hup := lt_or_ge e 0
    · obtain ⟨k, rfl⟩ : ∃ k : Nat, e = -(k : Int) := ⟨(-e).toNat, by omega⟩
      exact exists_scale_down hpos hS (by omega) (by omega)
    · obtain ⟨k, rfl⟩ := Int.eq_ofNat_of_zero_le hup
      exact exists_scale_up hpos hS (by omega)

/-! ## How far off -/

theorem le_gap_of_short {x : Nat} (hx : Short x) : (x : ℚ) ≤ (2 ^ 53 - 1) * gap x := by
  obtain ⟨k, hk, hbits⟩ := hx.exists_bits
  have hk' : (k : ℚ) + 1 ≤ 2 ^ 53 := by exact_mod_cast hk
  have hbits' : (x : ℚ) = k * gap x := by exact_mod_cast hbits
  calc (x : ℚ) = k * gap x := hbits'
    _ ≤ (2 ^ 53 - 1) * gap x := mul_le_mul_of_nonneg_right (by linarith) (Nat.cast_nonneg _)

/-- A quotient that stands for a decimal of a double is rounded to one a few neighbours away. -/
theorem Approximates.error {m num den x : Nat} {v : ℚ} (h : Approximates m num den v) (hm : m ≤ 4)
    (hx : Short x) (hv : |(x : ℚ) - v| ≤ (gap x : ℚ) / 2) :
    |(roundUnits num den : ℚ) - x| < (m + 2) * gap x := by
  obtain ⟨hden, a, hwithin, hnear⟩ := h
  have hgap : (1 : ℚ) ≤ gap x := by exact_mod_cast gap_pos x
  have hm' : (m : ℚ) ≤ 4 := by exact_mod_cast hm
  have hlt := le_gap_of_short hx
  obtain ⟨hlow, hhigh⟩ := abs_le.mp hv
  have hv' : v ≤ 2 ^ 53 * gap x := by linarith
  have herror : |a - v| ≤ (m + 1 / 8) * gap x := by
    have hscaled := mul_le_mul_of_nonneg_left hv' (show (0 : ℚ) ≤ m + 1 / 8 by positivity)
    refine le_of_mul_le_mul_right ((hwithin.error hm).trans ?_) (show (0 : ℚ) < 2 ^ 53 by norm_num)
    linarith
  -- the quotient is off by what the roundings have lost, and stays below twice the power of two
  -- above
  have hquotient : |(num : ℚ) / den - x| ≤ (m + 3 / 4) * gap x := by
    have hsplit : (num : ℚ) / den - x = (num / den - a) + (a - v) - (x - v) := by ring
    rw [hsplit]
    have htriangle := (abs_sub ((num / den - a) + (a - v)) (x - v)).trans
      (add_le_add_left (abs_add_le (num / den - a) (a - v)) _)
    linarith
  have hbits : num < 2 ^ (53 + (x.log2 + 1 - 53 + 1)) * den := by
    have hden' : (0 : ℚ) < den := by exact_mod_cast hden
    have hpow : 2 ^ (53 + (x.log2 + 1 - 53 + 1)) = 2 ^ 54 * gap x := by
      rw [gap, ← Nat.pow_add]
      congr 1
      omega
    have hbelow : (num : ℚ) / den < 2 ^ 54 * gap x := by
      have := mul_le_mul_of_nonneg_right hm' (show (0 : ℚ) ≤ gap x by positivity)
      linarith [(abs_le.mp hquotient).2]
    rw [div_lt_iff₀ hden'] at hbelow
    rw [hpow]
    exact_mod_cast hbelow
  have hround : |(roundUnits num den : ℚ) - num / den| ≤ gap x := by
    refine (error_le_of_lt hden hbits).trans (le_of_eq ?_)
    rw [pow_succ, gap]
    push_cast
    ring
  have htriangle := abs_add_le ((roundUnits num den : ℚ) - num / den) (num / den - x)
  rw [sub_add_sub_cancel] at htriangle
  linarith

/-- A decimal that a double is written as is scaled to a double a few neighbours away, or to one
beyond the largest. -/
theorem exists_scaled {d : Decimal} {x : Nat} (hd : d.Writes x) (hx : Short x) :
    ∃ back, Short back ∧ |(back : ℚ) - x| < (roundings d.exponent + 2) * gap x ∧
      (Numeral.scale? d.digits d.exponent).filter Binary64.isFinite =
        if back ≤ maxUnits then some (.finite false back) else none := by
  obtain ⟨num, den, happrox, hscale⟩ := exists_scale hd.pos hd.digits hd.low hd.high
  have hvalue := d.error_le_gap
  rw [hd.reads] at hvalue
  exact ⟨roundUnits num den, short_roundUnits num den, happrox.error (roundings_le _) hx hvalue,
    hscale.trans (nearest?_eq num den)⟩

/-! ## Significands and powers that are exact -/

theorem exists_unitsPerOne_eq : ∃ k, unitsPerOne = 2 ^ k := by
  unfold unitsPerOne
  generalize 1074 = k
  exact ⟨k, Nat.pow_eq⟩

theorem short_units {n : Nat} (hn : Short n) : Short (n * unitsPerOne) := by
  obtain ⟨k, hk, hbits⟩ := hn.exists_bits
  obtain ⟨l, hl⟩ := exists_unitsPerOne_eq
  have hshape : n * unitsPerOne = k * 2 ^ (n.log2 + 1 - 53 + l) := by
    rw [Nat.pow_add, ← Nat.mul_assoc, hl]
    exact congrArg (· * 2 ^ l) hbits
  rw [hshape]
  exact short_mul hk.le _

/-- A number of at most 53 significant bits is a double as it stands. -/
theorem ofNat_of_short {n : Nat} (hn : Short n) (hle : n ≤ 10 ^ 308) :
    Binary64.ofNat n = .finite false (n * unitsPerOne) := by
  have hfinite : n * unitsPerOne ≤ maxUnits :=
    (Nat.mul_le_mul_right _ hle).trans (show 10 ^ 308 * unitsPerOne ≤ maxUnits by decide +kernel)
  rw [Binary64.ofNat, ofRatio, ofUnits, roundUnits_self (short_units hn), if_pos hfinite]

theorem tenPow_of_le {k : Nat} (hk : k ≤ 22) : tenPow k = .finite false (10 ^ k * unitsPerOne) := by
  have hshort : Short (10 ^ k) := by
    rw [show 10 = 5 * 2 from rfl, Nat.mul_pow]
    exact short_mul ((Nat.pow_le_pow_right (by decide) hk).trans (by decide)) k
  have hle : 10 ^ k ≤ 10 ^ 308 := pow_le_pow_right₀ (by decide) (by omega)
  exact ofNat_of_short hshort hle

/-- With a significand and a power that are doubles there is one rounding, and it gives what was
written. -/
theorem scale?_exact {d : Decimal} {x : Nat} (hd : d.Writes x) (hx : IsDouble x)
    (hshort : Short d.digits) (hexp : d.exponent.natAbs ≤ 22) :
    Numeral.scale? d.digits d.exponent = some (.finite false x) := by
  have hS := ofNat_of_short hshort (hd.digits.trans (pow_le_pow_right₀ (by decide) (by decide)))
  have hround : ∀ num den : Nat, 0 < den → (num : ℚ) / den = d.value * unitsPerOne →
      ofUnits false num den = .finite false x := by
    intro num den hden hvalue
    have hrounded : roundUnits num den = x := by
      rw [← hd.reads, Decimal.roundedUnits_eq]
      exact Decimal.roundUnits_congr_cast hden (Decimal.ratio_pos _ _)
        (hvalue.trans (Decimal.ratio_units d).symm)
    rw [ofUnits, hrounded, if_pos hx.finite]
  obtain ⟨S, e⟩ := d
  obtain hdown | hup := lt_or_ge e 0
  · obtain ⟨k, rfl⟩ : ∃ k : Nat, e = -(k : Int) := ⟨(-e).toNat, by omega⟩
    have hk : k ≤ 22 := by simpa using hexp
    have hden : 0 < 10 ^ k * unitsPerOne :=
      Nat.mul_pos (Nat.pow_pos (by decide)) Decimal.unitsPerOne_pos
    rw [scale?_down S (by omega), scaleDown_of_le (by omega), hS, tenPow_of_le hk,
      div_finite _ hden]
    refine congrArg some (hround _ _ hden ?_)
    rw [value_down]
    push_cast
    rfl
  · obtain ⟨k, rfl⟩ := Int.eq_ofNat_of_zero_le hup
    have hk : k ≤ 22 := by simpa using hexp
    have hproduct : ofUnits false (S * unitsPerOne * (10 ^ k * unitsPerOne)) unitsPerOne =
        .finite false x := by
      refine hround _ _ Decimal.unitsPerOne_pos ?_
      rw [value_up]
      push_cast
      rfl
    dsimp only
    rw [Numeral.scale?, if_neg (by omega), if_neg (by omega), Int.toNat_natCast, hS,
      tenPow_of_le hk, mul_finite,
      hproduct]
    rfl

end ScriptBench
