import Mathlib.Algebra.Order.Field.Rat
import Mathlib.Data.Nat.Cast.Order.Field
import Mathlib.Tactic.FieldSimp
import Mathlib.Tactic.Linarith
import Mathlib.Tactic.NormNum
import Mathlib.Tactic.Positivity
import Mathlib.Tactic.Ring
import ScriptBench.Number.Binary64

/-!
Rounding to doubles, compared with exact quotients.

1. A rounded quotient has at most 53 significant bits (`short_roundUnits`) and depends on the
   quotient alone (`roundUnits_congr`).
2. It is off by at most half the distance to the next double (`error_le_gap`), which is a 2⁻⁵³-th of
   the quotient where that is large enough (`error_le_max`).
3. A double that is closer to a quotient than a 2⁻⁵⁴-th of itself is what the quotient is rounded to
   (`roundUnits_of_near`).
-/
namespace ScriptBench.Binary64

/-- The distance from a number to the next one that has at most 53 significant bits. -/
def gap (n : Nat) : Nat := 2 ^ (n.log2 + 1 - 53)

/-- A number of at most 53 significant bits. -/
def Short (n : Nat) : Prop := gap n ∣ n

/-- The units of a finite double. -/
structure IsDouble (units : Nat) : Prop where
  short : Short units
  finite : units ≤ maxUnits

/-! ## Whole numbers -/

theorem roundHalfEven_bounds (num den : Nat) :
    num / den ≤ roundHalfEven num den ∧ roundHalfEven num den ≤ num / den + 1 := by
  unfold roundHalfEven
  dsimp only
  split
  · omega
  · split <;> omega

theorem roundHalfEven_error (num : Nat) {den : Nat} (hden : 0 < den) :
    2 * (roundHalfEven num den * den) ≤ 2 * num + den ∧
      2 * num ≤ 2 * (roundHalfEven num den * den) + den := by
  have hdiv : den * (num / den) + num % den = num := Nat.div_add_mod num den
  have hmod : num % den < den := Nat.mod_lt num hden
  unfold roundHalfEven
  dsimp only
  generalize num / den = q at *
  generalize num % den = r at *
  rw [Nat.mul_comm] at hdiv
  split
  · omega
  · split
    · rw [Nat.add_mul]
      omega
    · obtain h | h := Nat.mod_two_eq_zero_or_one q <;> rw [h, Nat.add_mul] <;> omega

theorem abs_roundHalfEven_sub_le (num : Nat) {den : Nat} (hden : 0 < den) :
    |(roundHalfEven num den : ℚ) - num / den| ≤ 1 / 2 := by
  obtain ⟨hlow, hhigh⟩ := roundHalfEven_error num hden
  have hden' : (0 : ℚ) < den := by exact_mod_cast hden
  have hlow' : 2 * ((roundHalfEven num den : ℚ) * den) ≤ 2 * num + den := by exact_mod_cast hlow
  have hhigh' : 2 * (num : ℚ) ≤ 2 * (roundHalfEven num den * den) + den := by exact_mod_cast hhigh
  have hquotient : (num : ℚ) / den * den = num := div_mul_cancel₀ _ hden'.ne'
  rw [abs_le]
  constructor <;> refine le_of_mul_le_mul_right ?_ hden' <;> linarith

/-- A whole number that is less than a half away is the one that is rounded to. -/
theorem roundHalfEven_of_near {num den k : Nat} (hden : 0 < den)
    (h : |(num : ℚ) / den - k| < 1 / 2) :
    roundHalfEven num den = k := by
  have herror := abs_roundHalfEven_sub_le num hden
  rw [abs_le] at herror
  rw [abs_lt] at h
  have hlow : (roundHalfEven num den : ℚ) < k + 1 := by linarith
  have hhigh : (k : ℚ) < roundHalfEven num den + 1 := by linarith
  exact Nat.le_antisymm (Nat.lt_succ_iff.mp (by exact_mod_cast hlow))
    (Nat.lt_succ_iff.mp (by exact_mod_cast hhigh))

theorem roundHalfEven_mul {c : Nat} (hc : 0 < c) (num den : Nat) :
    roundHalfEven (c * num) (c * den) = roundHalfEven num den := by
  have hlt : ∀ a b : Nat, c * a < c * b ↔ a < b := fun a b => Nat.mul_lt_mul_left hc
  simp only [roundHalfEven, Nat.mul_div_mul_left num den hc, Nat.mul_mod_mul_left c num den,
    Nat.mul_left_comm 2 c, hlt]

/-! ## Significands -/

/-- How many bits of a quotient do not fit. -/
def spare (num den : Nat) : Nat := (num / den).log2 + 1 - 53

/-- The bits that a quotient is rounded to. -/
def significand (num den : Nat) : Nat := roundHalfEven num (den * 2 ^ spare num den)

theorem roundUnits_eq (num den : Nat) :
    roundUnits num den = significand num den * 2 ^ spare num den := rfl

theorem roundUnits_mul {c : Nat} (hc : 0 < c) (num den : Nat) :
    roundUnits (c * num) (c * den) = roundUnits num den := by
  have hspare : spare (c * num) (c * den) = spare num den := by
    rw [spare, spare, Nat.mul_div_mul_left num den hc]
  rw [roundUnits_eq, roundUnits_eq, significand, significand, hspare, Nat.mul_assoc,
    roundHalfEven_mul hc]

theorem roundUnits_congr {num den num' den' : Nat} (hden : 0 < den) (hden' : 0 < den')
    (h : num * den' = num' * den) : roundUnits num den = roundUnits num' den' := by
  calc roundUnits num den
      = roundUnits (den' * num) (den' * den) := (roundUnits_mul hden' num den).symm
    _ = roundUnits (den * num') (den * den') := by
      rw [Nat.mul_comm den' num, h, Nat.mul_comm num', Nat.mul_comm den']
    _ = roundUnits num' den' := roundUnits_mul hden num' den'

variable {num den : Nat}

theorem spare_le {k : Nat} (hden : 0 < den) (h : num < 2 ^ (53 + k) * den) : spare num den ≤ k := by
  by_cases hzero : num / den = 0
  · rw [spare, hzero]
    exact Nat.zero_le _
  · have hlog : (num / den).log2 < 53 + k :=
      (Nat.log2_lt hzero).mpr ((Nat.div_lt_iff_lt_mul hden).mpr h)
    unfold spare
    omega

/-- If bits do not fit, all bits that fit are used. -/
theorem le_div_of_spare (h : 0 < spare num den) : 2 ^ (52 + spare num den) ≤ num / den := by
  have hne : num / den ≠ 0 := by
    intro hzero
    rw [spare, hzero] at h
    exact absurd h (by decide)
  calc 2 ^ (52 + spare num den)
      = 2 ^ (num / den).log2 := by congr 1; unfold spare at h ⊢; omega
    _ ≤ num / den := Nat.log2_self_le hne

theorem div_lt_of_spare (num den : Nat) : num / den < 2 ^ (53 + spare num den) := by
  refine Nat.lt_of_lt_of_le Nat.lt_log2_self (Nat.pow_le_pow_right (by decide) ?_)
  unfold spare
  omega

theorem significand_le (num den : Nat) : significand num den ≤ 2 ^ 53 := by
  have hlt : num / (den * 2 ^ spare num den) < 2 ^ 53 := by
    rw [← Nat.div_div_eq_div_mul, Nat.div_lt_iff_lt_mul (Nat.two_pow_pos _), ← Nat.pow_add]
    exact div_lt_of_spare num den
  have hbounds := (roundHalfEven_bounds num (den * 2 ^ spare num den)).2
  unfold significand
  omega

theorem le_significand (h : 0 < spare num den) : 2 ^ 52 ≤ significand num den := by
  have hle : 2 ^ 52 ≤ num / (den * 2 ^ spare num den) := by
    rw [← Nat.div_div_eq_div_mul, Nat.le_div_iff_mul_le (Nat.two_pow_pos _), ← Nat.pow_add]
    exact le_div_of_spare h
  exact Nat.le_trans hle (roundHalfEven_bounds num _).1

/-! ## Short numbers -/

theorem gap_pos (n : Nat) : 0 < gap n := Nat.two_pow_pos _

theorem lt_gap (n : Nat) : n < 2 ^ 53 * gap n := by
  rw [gap, ← Nat.pow_add]
  exact Nat.lt_of_lt_of_le Nat.lt_log2_self (Nat.pow_le_pow_right (by decide) (by omega))

theorem gap_le_of_lt {n k : Nat} (h : n < 2 ^ (53 + k)) : gap n ≤ 2 ^ k := by
  by_cases hzero : n = 0
  · rw [hzero]
    exact Nat.one_le_two_pow
  · have hlog : n.log2 < 53 + k := (Nat.log2_lt hzero).mpr h
    exact Nat.pow_le_pow_right (by decide) (by omega)

theorem gap_mono {m n : Nat} (h : m ≤ n) : gap m ≤ gap n := by
  refine gap_le_of_lt (Nat.lt_of_le_of_lt h ?_)
  rw [Nat.pow_add]
  exact lt_gap n

theorem le_gap_of_le {n k : Nat} (h : 2 ^ (52 + k) ≤ n) : 2 ^ k ≤ gap n := by
  have hne : n ≠ 0 := by
    rintro rfl
    exact absurd h (Nat.not_le.mpr (Nat.two_pow_pos _))
  have hlog : 52 + k ≤ n.log2 := (Nat.le_log2 hne).mpr h
  exact Nat.pow_le_pow_right (by decide) (by omega)

theorem gap_le_gap_of_le {m n : Nat} (h : 2 ^ 52 * gap m ≤ n) : gap m ≤ gap n := by
  refine le_gap_of_le ?_
  rwa [Nat.pow_add]

/-- A short number is its bits, fewer than 2⁵³ of its gaps. -/
theorem Short.exists_bits {n : Nat} (h : Short n) : ∃ m < 2 ^ 53, n = m * gap n := by
  obtain ⟨m, hm⟩ := h
  rw [Nat.mul_comm] at hm
  refine ⟨m, Nat.lt_of_mul_lt_mul_right (a := gap n) ?_, hm⟩
  rw [← hm]
  exact lt_gap n

/-- A number of at most 53 bits, with any number of zeros behind them, is short. -/
theorem short_mul {m : Nat} (hm : m ≤ 2 ^ 53) (k : Nat) : Short (m * 2 ^ k) := by
  have hlt : ∀ {m k : Nat}, m < 2 ^ 53 → Short (m * 2 ^ k) := by
    intro m k hm
    have hgap : (m * 2 ^ k).log2 + 1 - 53 ≤ k := by
      by_cases hzero : m * 2 ^ k = 0
      · simp [hzero]
      · have hlog : (m * 2 ^ k).log2 < 53 + k := by
          rw [Nat.log2_lt hzero, Nat.pow_add]
          exact Nat.mul_lt_mul_of_pos_right hm (Nat.two_pow_pos k)
        omega
    exact Nat.dvd_trans (Nat.pow_dvd_pow 2 hgap) (Nat.dvd_mul_left _ m)
  obtain hm | rfl := Nat.lt_or_eq_of_le hm
  · exact hlt hm
  · have heq : 2 ^ 53 * 2 ^ k = 2 ^ 52 * 2 ^ (k + 1) := by rw [Nat.pow_succ 2 k]; omega
    rw [heq]
    exact hlt (by decide)

theorem short_roundUnits (num den : Nat) : Short (roundUnits num den) :=
  short_mul (significand_le num den) _

/-! ## Errors -/

theorem error_le_spare (num : Nat) (hden : 0 < den) :
    |(roundUnits num den : ℚ) - num / den| ≤ 2 ^ spare num den / 2 := by
  have hpow : (0 : ℚ) < 2 ^ spare num den := by positivity
  have hcut : 0 < den * 2 ^ spare num den := Nat.mul_pos hden (Nat.two_pow_pos _)
  have herror := abs_roundHalfEven_sub_le num hcut
  have hsplit : (roundUnits num den : ℚ) - num / den =
      (significand num den - num / (den * 2 ^ spare num den : Nat)) * 2 ^ spare num den := by
    have hden' : (den : ℚ) ≠ 0 := by exact_mod_cast hden.ne'
    rw [roundUnits_eq]
    push_cast
    field_simp
  rw [hsplit, abs_mul, abs_of_pos hpow]
  calc _ ≤ 1 / 2 * (2 : ℚ) ^ spare num den := mul_le_mul_of_nonneg_right herror hpow.le
    _ = _ := by ring

theorem error_le_of_lt {k : Nat} (hden : 0 < den) (h : num < 2 ^ (53 + k) * den) :
    |(roundUnits num den : ℚ) - num / den| ≤ 2 ^ k / 2 := by
  have hpow : (2 : ℚ) ^ spare num den ≤ 2 ^ k := pow_le_pow_right₀ (by norm_num) (spare_le hden h)
  have herror := error_le_spare num hden
  linarith

/-- A rounded quotient is off by at most half of its distance to the next double. -/
theorem error_le_gap (num : Nat) (hden : 0 < den) :
    |(roundUnits num den : ℚ) - num / den| ≤ gap (roundUnits num den) / 2 := by
  have hpow : 2 ^ spare num den ≤ gap (roundUnits num den) := by
    obtain hzero | hspare := Nat.eq_zero_or_pos (spare num den)
    · rw [hzero]
      exact gap_pos _
    · refine le_gap_of_le ?_
      rw [Nat.pow_add, roundUnits_eq]
      exact Nat.mul_le_mul_right _ (le_significand hspare)
  have hpow' : (2 : ℚ) ^ spare num den ≤ gap (roundUnits num den) := by exact_mod_cast hpow
  have herror := error_le_spare num hden
  linarith

/-- A rounded quotient is off by at most a half, or by a part of the quotient. -/
theorem error_le_max (num : Nat) (hden : 0 < den) :
    |(roundUnits num den : ℚ) - num / den| ≤ max (1 / 2) ((num : ℚ) / den / 2 ^ 53) := by
  have herror := error_le_spare num hden
  obtain hzero | hspare := Nat.eq_zero_or_pos (spare num den)
  · rw [hzero] at herror
    exact le_max_of_le_left (by simpa using herror)
  · refine le_max_of_le_right (herror.trans ?_)
    have hle : (2 : ℚ) ^ (52 + spare num den) ≤ num / den := by
      have hcast : ((num / den : Nat) : ℚ) ≤ num / den := Nat.cast_div_le
      have hle' : ((2 ^ (52 + spare num den) : Nat) : ℚ) ≤ (num / den : Nat) := by
        exact_mod_cast le_div_of_spare hspare
      push_cast at hle'
      exact hle'.trans hcast
    rw [pow_add] at hle
    linarith

/-- What is closer to a double than a 2⁻⁵⁴-th of it is rounded to it. -/
theorem roundUnits_of_near {x : Nat} (hx : Short x) (hden : 0 < den)
    (h : |(num : ℚ) / den - x| * 2 ^ 54 < x) :
    roundUnits num den = x := by
  have hden' : (0 : ℚ) < den := by exact_mod_cast hden
  have hpow : (0 : ℚ) < 2 ^ spare num den := by positivity
  have hclose : |(num : ℚ) / den - x| < x / 2 ^ 54 := by rwa [lt_div_iff₀ (by norm_num)]
  obtain ⟨hlow, hhigh⟩ := abs_lt.mp hclose
  -- no bit of the double is given up, since the quotient stays below the next power of two
  have hdvd : 2 ^ spare num den ∣ x := by
    refine Nat.dvd_trans (Nat.pow_dvd_pow 2 ?_) hx
    have hgap : x + gap x ≤ 2 ^ (x.log2 + 1) := by
      have hpow : gap x ∣ 2 ^ (x.log2 + 1) := Nat.pow_dvd_pow 2 (by omega)
      obtain ⟨k, hk⟩ := hx
      obtain ⟨l, hl⟩ := hpow
      have hlt : gap x * k < gap x * l := by
        rw [← hk, ← hl]
        exact Nat.lt_log2_self
      rw [hl]
      nth_rewrite 1 [hk]
      exact Nat.mul_le_mul_left (gap x) (Nat.lt_of_mul_lt_mul_left hlt)
    have hbelow : (num : ℚ) / den < (2 ^ (x.log2 + 1) : Nat) := by
      have hgap' : (x : ℚ) + gap x ≤ (2 ^ (x.log2 + 1) : Nat) := by exact_mod_cast hgap
      have hlt : (x : ℚ) < 2 ^ 53 * gap x := by exact_mod_cast lt_gap x
      linarith
    refine spare_le hden ?_
    have hnum : num < 2 ^ (x.log2 + 1) * den := by
      rw [div_lt_iff₀ hden'] at hbelow
      exact_mod_cast hbelow
    exact Nat.lt_of_lt_of_le hnum
      (Nat.mul_le_mul_right den (Nat.pow_le_pow_right (by decide) (by omega)))
  obtain ⟨k, hk⟩ := hdvd
  have hk' : (x : ℚ) = 2 ^ spare num den * k := by exact_mod_cast hk
  -- and the bits that fit reach up to the double
  have hkle : k ≤ 2 ^ 53 := by
    refine Nat.le_of_not_lt fun hlt => ?_
    have hlarge : (2 : ℚ) ^ 53 + 1 ≤ k := by exact_mod_cast hlt
    have hbelow : (num : ℚ) / den < 2 ^ 53 * 2 ^ spare num den := by
      rw [← pow_add, div_lt_iff₀ hden']
      have hnum := (Nat.div_lt_iff_lt_mul hden).mp (div_lt_of_spare num den)
      exact_mod_cast hnum
    have hscaled : (2 : ℚ) ^ spare num den * (2 ^ 53 + 1) ≤ 2 ^ spare num den * k :=
      mul_le_mul_of_nonneg_left hlarge hpow.le
    rw [hk'] at hlow
    linarith
  have hsignificand : significand num den = k := by
    refine roundHalfEven_of_near (Nat.mul_pos hden (Nat.two_pow_pos _)) ?_
    have hsplit : (num : ℚ) / (den * 2 ^ spare num den : Nat) - k =
        (num / den - x) / 2 ^ spare num den := by
      rw [hk']
      push_cast
      field_simp
    have hkle' : (k : ℚ) ≤ 2 ^ 53 := by exact_mod_cast hkle
    have hhalf : (x : ℚ) / 2 ^ 54 ≤ 1 / 2 * 2 ^ spare num den := by
      have := mul_le_mul_of_nonneg_left hkle' hpow.le
      rw [hk']
      linarith
    rw [hsplit, abs_div, abs_of_pos hpow, div_lt_iff₀ hpow]
    exact hclose.trans_le hhalf
  rw [roundUnits_eq, hsignificand, hk, Nat.mul_comm]

theorem roundUnits_self {x : Nat} (hx : Short x) : roundUnits x 1 = x := by
  obtain rfl | hpos := Nat.eq_zero_or_pos x
  · decide
  · refine roundUnits_of_near hx (by decide) ?_
    simpa using hpos

end ScriptBench.Binary64
