import ScriptBench.Number.Shortest
import ScriptBench.Proofs.Number.Rounding

/-!
The fewest digits of a double read back.

1. What a decimal is rounded to depends on its value alone (`roundedUnits_congr`) and is off by at
   most half the distance to the next double (`error_le_gap`).
2. The leading exponent of a double is that of its first decimal digit (`leadingExponent_bounds`),
   so on the grid of 17 digits one of the neighbours of a double reads back (`onGrid?_seventeen`).
3. So there is always a shortest decimal, it denotes the double, and its digits and its exponent are
   bounded (`writes_shortest`).
-/
namespace ScriptBench.Decimal

open Binary64

/-- The number that a decimal denotes. -/
def value (d : Decimal) : ℚ := d.digits * 10 ^ d.exponent

/-! ## Values -/

theorem ratio_pos (n : Nat) (e : Int) : 0 < (ratio n e).2 := by
  unfold ratio
  split
  · exact Nat.one_pos
  · exact Nat.pow_pos (by decide)

theorem ratio_value (n : Nat) (e : Int) : ((ratio n e).1 : ℚ) / (ratio n e).2 = n * 10 ^ e := by
  unfold ratio
  split
  · rename_i h
    obtain ⟨k, rfl⟩ := Int.eq_ofNat_of_zero_le h
    simp
  · rename_i h
    obtain ⟨k, hk⟩ := Int.eq_ofNat_of_zero_le (show 0 ≤ -e by omega)
    obtain rfl : e = -(k : Int) := by omega
    simp [div_eq_mul_inv]

theorem unitsPerOne_pos : 0 < unitsPerOne := by decide +kernel

theorem ratio_units (d : Decimal) :
    (((ratio d.digits d.exponent).1 * unitsPerOne : Nat) : ℚ) / (ratio d.digits d.exponent).2 =
      d.value * unitsPerOne := by
  push_cast
  rw [mul_div_right_comm, ratio_value]
  rfl

theorem roundedUnits_eq (d : Decimal) :
    d.roundedUnits = roundUnits ((ratio d.digits d.exponent).1 * unitsPerOne)
      (ratio d.digits d.exponent).2 := rfl

theorem short_roundedUnits (d : Decimal) : Short d.roundedUnits := short_roundUnits _ _

theorem roundUnits_congr_cast {num den num' den' : Nat} (hden : 0 < den) (hden' : 0 < den')
    (h : (num : ℚ) / den = num' / den') : roundUnits num den = roundUnits num' den' := by
  refine roundUnits_congr hden hden' ?_
  have hne : (den : ℚ) ≠ 0 := by exact_mod_cast hden.ne'
  have hne' : (den' : ℚ) ≠ 0 := by exact_mod_cast hden'.ne'
  rw [div_eq_div_iff hne hne'] at h
  exact_mod_cast h

theorem roundedUnits_congr {d d' : Decimal} (h : d.value = d'.value) :
    d.roundedUnits = d'.roundedUnits := by
  rw [roundedUnits_eq, roundedUnits_eq]
  refine roundUnits_congr_cast (ratio_pos _ _) (ratio_pos _ _) ?_
  rw [ratio_units, ratio_units, h]

theorem error_le_gap (d : Decimal) :
    |(d.roundedUnits : ℚ) - d.value * unitsPerOne| ≤ (gap d.roundedUnits : ℚ) / 2 := by
  rw [← ratio_units]
  exact Binary64.error_le_gap _ (ratio_pos _ _)

/-- What is closer to a double than a 2⁻⁵⁴-th of it reads as it. -/
theorem roundedUnits_of_near {d : Decimal} {x : Nat} (hx : Short x)
    (h : |d.value * unitsPerOne - x| * 2 ^ 54 < (x : ℚ)) : d.roundedUnits = x := by
  rw [roundedUnits_eq]
  refine roundUnits_of_near hx (ratio_pos _ _) ?_
  rwa [ratio_units]

theorem roundedUnits_zero (e : Int) : roundedUnits ⟨0, e⟩ = 0 := by
  have hzero : (⟨0, e⟩ : Decimal).value = (⟨0, 0⟩ : Decimal).value := by simp [value]
  rw [roundedUnits_congr hzero]
  decide +kernel

/-! ## Zeros at the end -/

theorem trim_spec (fuel : Nat) (d : Decimal) :
    (trim fuel d).value = d.value ∧ (trim fuel d).digits ≤ d.digits ∧ d.exponent ≤
      (trim fuel d).exponent := by
  induction fuel generalizing d with
  | zero => exact ⟨rfl, Nat.le_refl _, Int.le_refl _⟩
  | succ fuel ih =>
    rw [trim]
    split
    · rename_i h
      obtain ⟨hvalue, hdigits, hexponent⟩ := ih ⟨d.digits / 10, d.exponent + 1⟩
      refine ⟨hvalue.trans ?_, hdigits.trans (Nat.div_le_self _ _), ?_⟩
      · have hten : (d.digits : ℚ) = (d.digits / 10 : Nat) * 10 := by
          have := Nat.div_mul_cancel (Nat.dvd_of_mod_eq_zero h.2)
          exact_mod_cast this.symm
        rw [value, value, hten, zpow_add_one₀ (by norm_num)]
        ring
      · exact Int.le_trans (Int.le_add_one (Int.le_refl _)) hexponent
    · exact ⟨rfl, Nat.le_refl _, Int.le_refl _⟩

/-! ## The first digit -/

theorem tenPowLe_iff (e : Int) (x : Nat) :
    tenPowLe e x = true ↔ (10 : ℚ) ^ e * unitsPerOne ≤ x := by
  have hden : (0 : ℚ) < (ratio 1 e).2 := by exact_mod_cast ratio_pos 1 e
  have hvalue := ratio_value 1 e
  rw [Nat.cast_one, one_mul] at hvalue
  rw [← hvalue, div_mul_eq_mul_div, div_le_iff₀ hden]
  simp only [tenPowLe, decide_eq_true_eq]
  exact_mod_cast Iff.rfl

/-- The estimate of the leading exponent, from the binary logarithm. -/
def estimate (l : Nat) : Int := ((l : Int) - 1074) * 30103 / 100000

/-- For no logarithm of a double is the estimate off by more than one. -/
theorem estimate_bounds : ∀ l : Nat, l < 2098 →
    (tenPowLe (estimate l - 1) (2 ^ l) && !tenPowLe (estimate l + 2) (2 ^ (l + 1))) = true := by
  decide +kernel

theorem leadingExponent_bounds {x : Nat} (hpos : 0 < x) (hx : x.log2 < 2098) :
    (10 : ℚ) ^ leadingExponent x * unitsPerOne ≤ x ∧
      (x : ℚ) < 10 ^ (leadingExponent x + 1) * unitsPerOne := by
  have hbounds := estimate_bounds x.log2 hx
  rw [Bool.and_eq_true, Bool.not_eq_true', tenPowLe_iff, ← Bool.not_eq_true, tenPowLe_iff,
    not_le] at hbounds
  obtain ⟨hlow, hhigh⟩ := hbounds
  rw [show estimate x.log2 + 2 = estimate x.log2 + 1 + 1 by omega] at hhigh
  have hself : ((2 ^ x.log2 : Nat) : ℚ) ≤ x := by exact_mod_cast Nat.log2_self_le hpos.ne'
  have hlt : (x : ℚ) < (2 ^ (x.log2 + 1) : Nat) := by exact_mod_cast Nat.lt_log2_self
  have hlead : leadingExponent x = if tenPowLe (estimate x.log2 + 1) x then estimate x.log2 + 1
    else if tenPowLe (estimate x.log2) x then estimate x.log2 else estimate x.log2 - 1 := rfl
  simp only [tenPowLe_iff] at hlead
  generalize (unitsPerOne : ℚ) = u at *
  rw [hlead]
  split
  · rename_i h
    exact ⟨h, hlt.trans hhigh⟩
  · rename_i h
    split
    · rename_i h'
      exact ⟨h', not_le.mp h⟩
    · rename_i h'
      rw [sub_add_cancel]
      exact ⟨hlow.trans hself, not_le.mp h'⟩

/-! ## Grids -/

/-- A number on a grid: what is left of it on the grid, and the unit of the grid. -/
theorem grid_quotient (x : Nat) (e : Int) :
    ((x * (ratio 1 (-e)).1 : Nat) : ℚ) / (unitsPerOne * (ratio 1 (-e)).2 : Nat) =
      x / (10 ^ e * unitsPerOne) := by
  have hvalue := ratio_value 1 (-e)
  rw [Nat.cast_one, one_mul, zpow_neg] at hvalue
  push_cast
  rw [mul_div_mul_comm, hvalue, mul_comm (10 ^ e : ℚ), div_mul_eq_div_div,
    div_eq_mul_inv _ ((10 : ℚ) ^ e)]

/-- The neighbour below a number on the grid of an exponent. -/
def below (x : Nat) (e : Int) : Nat := x * (ratio 1 (-e)).1 / (unitsPerOne * (ratio 1 (-e)).2)

theorem onGrid?_eq (x : Nat) (lead : Int) (count : Nat) {e : Int} (he : lead - count + 1 = e) :
    ∃ nearer, (nearer = below x e ∨ nearer = below x e + 1) ∧
      onGrid? x lead count =
        if (roundedUnits ⟨below x e, e⟩ == x && roundedUnits ⟨below x e + 1, e⟩ == x) =
          true then some ⟨nearer, e⟩
        else if (roundedUnits ⟨below x e, e⟩ == x) = true then some ⟨below x e, e⟩
        else if (roundedUnits ⟨below x e + 1, e⟩ == x) = true then some ⟨below x e + 1, e⟩
        else none := by
  subst he
  obtain ⟨hlow, hhigh⟩ := roundHalfEven_bounds (x * (ratio 1 (-(lead - count + 1))).1)
    (unitsPerOne * (ratio 1 (-(lead - count + 1))).2)
  exact ⟨roundHalfEven (x * (ratio 1 (-(lead - count + 1))).1)
    (unitsPerOne * (ratio 1 (-(lead - count + 1))).2),
    by unfold below; omega, rfl⟩

/-- What is found on a grid reads back, and is one of the two neighbours there. -/
theorem onGrid?_spec {x count : Nat} {lead e : Int} (he : lead - count + 1 = e) {d : Decimal}
    (h : onGrid? x lead count = some d) :
    d.roundedUnits = x ∧ d.exponent = e ∧ d.digits ≤ below x e + 1 := by
  obtain ⟨nearer, hnearer, heq⟩ := onGrid?_eq x lead count he
  rw [heq] at h
  simp only [Bool.and_eq_true, beq_iff_eq] at h
  split at h
  · rename_i hboth
    cases h
    obtain rfl | rfl := hnearer
    · exact ⟨hboth.1, rfl, Nat.le_succ _⟩
    · exact ⟨hboth.2, rfl, Nat.le_refl _⟩
  · split at h
    · rename_i hlow
      cases h
      exact ⟨hlow, rfl, Nat.le_succ _⟩
    · split at h
      · rename_i hhigh
        cases h
        exact ⟨hhigh, rfl, Nat.le_refl _⟩
      · cases h

theorem onGrid?_of_reads {x count : Nat} {lead e : Int} (he : lead - count + 1 = e)
    (h : roundedUnits ⟨below x e, e⟩ = x ∨ roundedUnits ⟨below x e + 1, e⟩ = x) :
    ∃ d, onGrid? x lead count = some d := by
  obtain ⟨nearer, -, heq⟩ := onGrid?_eq x lead count he
  rw [heq]
  simp only [Bool.and_eq_true, beq_iff_eq]
  split
  · exact ⟨_, rfl⟩
  · split
    · exact ⟨_, rfl⟩
    · split
      · exact ⟨_, rfl⟩
      · rename_i hlow hhigh
        exact absurd h (not_or.mpr ⟨hlow, hhigh⟩)

theorem below_bounds (x : Nat) (e : Int) :
    (below x e : ℚ) ≤ x / (10 ^ e * unitsPerOne) ∧
      (x : ℚ) / (10 ^ e * unitsPerOne) < below x e + 1 := by
  have hpos : 0 < unitsPerOne * (ratio 1 (-e)).2 := Nat.mul_pos unitsPerOne_pos (ratio_pos _ _)
  rw [← grid_quotient]
  unfold below
  generalize x * (ratio 1 (-e)).1 = num
  generalize unitsPerOne * (ratio 1 (-e)).2 = den at *
  have hlt := Nat.lt_mul_div_succ num hpos
  refine ⟨Nat.cast_div_le, ?_⟩
  rw [div_lt_iff₀ (by exact_mod_cast hpos), mul_comm]
  exact_mod_cast hlt

/-- One of the two neighbours is at most half of the grid's unit away. -/
theorem exists_near_on_grid (x : Nat) (e : Int) :
    ∃ n, (n = below x e ∨ n = below x e + 1) ∧ |(n : ℚ) - x / (10 ^ e * unitsPerOne)| ≤ 1 / 2 := by
  obtain ⟨hlow, hhigh⟩ := below_bounds x e
  generalize (x : ℚ) / (10 ^ e * unitsPerOne) = y at *
  by_cases h : y ≤ below x e + 1 / 2
  · refine ⟨_, .inl rfl, ?_⟩
    rw [abs_le]
    constructor <;> linarith
  · refine ⟨_, .inr rfl, ?_⟩
    push_cast
    rw [abs_le]
    constructor <;> linarith [not_le.mp h]

/-- On the grid of 17 digits one of the neighbours of a double reads back. -/
theorem onGrid?_seventeen {x : Nat} (hx : Short x) (hpos : 0 < x) {lead : Int}
    (hlead : (10 : ℚ) ^ lead * unitsPerOne ≤ x) : ∃ d, onGrid? x lead 17 = some d := by
  have hunits : (0 : ℚ) < unitsPerOne := by exact_mod_cast unitsPerOne_pos
  have hx' : (0 : ℚ) < x := by exact_mod_cast hpos
  obtain ⟨e, he⟩ : ∃ e : Int, lead - 17 + 1 = e := ⟨_, rfl⟩
  have hgrid : (0 : ℚ) < 10 ^ e * unitsPerOne := mul_pos (zpow_pos (by norm_num) e) hunits
  obtain ⟨n, hn, hnear⟩ := exists_near_on_grid x e
  -- the unit of the grid is less than a 2⁻⁵³-th of the double
  have hfine : 10 ^ 16 * ((10 : ℚ) ^ e * unitsPerOne) ≤ x := by
    have hten : (10 : ℚ) ^ lead = 10 ^ 16 * 10 ^ e := by
      rw [show lead = 16 + e by omega, zpow_add₀ (by norm_num)]
      norm_num
    rw [hten] at hlead
    linarith
  have hreads : roundedUnits ⟨n, e⟩ = x := by
    refine roundedUnits_of_near hx ?_
    have hsplit : (⟨n, e⟩ : Decimal).value * unitsPerOne - x =
        (n - x / (10 ^ e * unitsPerOne)) * (10 ^ e * unitsPerOne) := by
      rw [value, sub_mul, div_mul_cancel₀ _ hgrid.ne', mul_assoc]
    rw [hsplit, abs_mul, abs_of_pos hgrid]
    have hscaled := mul_le_mul_of_nonneg_right hnear hgrid.le
    linarith
  refine onGrid?_of_reads he ?_
  obtain rfl | rfl := hn
  · exact .inl hreads
  · exact .inr hreads

/-! ## The shortest decimal -/

/-- A decimal that a double is written as. -/
structure Writes (d : Decimal) (x : Nat) : Prop where
  reads : d.roundedUnits = x
  pos : 0 < d.digits
  digits : d.digits ≤ 10 ^ 17
  low : -340 ≤ d.exponent
  high : d.exponent ≤ 308

theorem log2_lt_of_isDouble {x : Nat} (hx : IsDouble x) : x.log2 < 2098 := by
  obtain rfl | hpos := Nat.eq_zero_or_pos x
  · decide
  · have hmax : maxUnits.log2 < 2098 := by decide +kernel
    have hself : 2 ^ x.log2 ≤ maxUnits := (Nat.log2_self_le hpos.ne').trans hx.finite
    have hne : maxUnits ≠ 0 := fun h => hpos.ne' (Nat.le_zero.mp (h ▸ hx.finite))
    exact Nat.lt_of_le_of_lt ((Nat.le_log2 hne).mpr hself) hmax

theorem gap_le_self {x : Nat} (hpos : 0 < x) : gap x ≤ x :=
  (Nat.pow_le_pow_right (by decide) (by omega)).trans (Nat.log2_self_le hpos.ne')

/-- No decimal that is rounded to a double is as large as the next power of ten. -/
theorem value_lt {d : Decimal} {x : Nat} (hx : IsDouble x) (hpos : 0 < x)
    (hreads : d.roundedUnits = x) :
    d.value < 10 ^ (309 : Int) := by
  have hunits : (0 : ℚ) < unitsPerOne := by exact_mod_cast unitsPerOne_pos
  have herror := (abs_le.mp (error_le_gap d)).1
  rw [hreads] at herror
  have hgap : (gap x : ℚ) ≤ x := by exact_mod_cast gap_le_self hpos
  have hmax : (x : ℚ) ≤ maxUnits := by exact_mod_cast hx.finite
  have hroom : 3 * (maxUnits : ℚ) < 2 * (10 ^ 309 * unitsPerOne) := by
    have hroom : 3 * maxUnits < 2 * (10 ^ 309 * unitsPerOne) := by decide +kernel
    exact_mod_cast hroom
  refine lt_of_mul_lt_mul_right ?_ hunits.le
  rw [zpow_ofNat]
  generalize (10 : ℚ) ^ 309 = ten at *
  linarith

theorem exponent_le {d : Decimal} {x : Nat} (hx : IsDouble x) (hpos : 0 < x)
    (hreads : d.roundedUnits = x) (hdigits : 0 < d.digits) : d.exponent ≤ 308 := by
  have hone : (1 : ℚ) ≤ d.digits := by exact_mod_cast hdigits
  have hpow : (0 : ℚ) < 10 ^ d.exponent := zpow_pos (by norm_num) _
  have hlt : (10 : ℚ) ^ d.exponent < 10 ^ (309 : Int) := by
    refine lt_of_le_of_lt ?_ (value_lt hx hpos hreads)
    exact le_mul_of_one_le_left hpow.le hone
  have := (zpow_lt_zpow_iff_right₀ (by norm_num)).mp hlt
  omega

theorem digits_pos {d : Decimal} {x : Nat} (hpos : 0 < x) (hreads : d.roundedUnits = x) :
    0 < d.digits := by
  refine Nat.pos_of_ne_zero fun hzero => ?_
  obtain ⟨digits, e⟩ := d
  obtain rfl : digits = 0 := hzero
  rw [roundedUnits_zero] at hreads
  omega

theorem le_leadingExponent {x : Nat} (hpos : 0 < x) (hx : x.log2 < 2098) :
    -324 ≤ leadingExponent x := by
  by_contra h
  have hsmall : (10 : ℚ) ^ (leadingExponent x + 1) ≤ 10 ^ (-324 : Int) :=
    zpow_le_zpow_right₀ (by norm_num) (by omega)
  have hunits : (0 : ℚ) ≤ unitsPerOne := Nat.cast_nonneg _
  have hroom : (unitsPerOne : ℚ) < 10 ^ 324 := by
    have hroom : unitsPerOne < 10 ^ 324 := by decide +kernel
    exact_mod_cast hroom
  have hlt := (leadingExponent_bounds hpos hx).2
  have hone : (1 : ℚ) ≤ x := by exact_mod_cast hpos
  have hbelow : (10 : ℚ) ^ (-324 : Int) * unitsPerOne < 1 := by
    rw [zpow_neg, zpow_ofNat, inv_mul_lt_iff₀ (by positivity), mul_one]
    exact hroom
  have := mul_le_mul_of_nonneg_right hsmall hunits
  linarith

/-- Every positive double is written as a decimal of at most 17 digits that reads back. -/
theorem writes_shortest {x : Nat} (hx : IsDouble x) (hpos : 0 < x) : (shortest x).Writes x := by
  have hlog := log2_lt_of_isDouble hx
  obtain ⟨hlow, hhigh⟩ := leadingExponent_bounds hpos hlog
  have hlead := le_leadingExponent hpos hlog
  obtain ⟨d, hfound⟩ : ∃ d,
      (List.range 17).findSome? (fun k => onGrid? x (leadingExponent x) (k + 1)) = some d := by
    rw [← Option.isSome_iff_exists, List.findSome?_isSome_iff]
    obtain ⟨d, hd⟩ := onGrid?_seventeen hx.short hpos hlow
    refine ⟨16, by decide, ?_⟩
    simp only [Nat.reduceAdd, hd, Option.isSome_some]
  have hshortest : shortest x = d.trim 17 := by
    rw [shortest, if_neg hpos.ne']
    simp only [hfound]
  obtain ⟨k, hk, hgrid⟩ := List.exists_of_findSome?_eq_some hfound
  have hk : k < 17 := List.mem_range.mp hk
  obtain ⟨e, he⟩ : ∃ e : Int, leadingExponent x - (k + 1 : Nat) + 1 = e := ⟨_, rfl⟩
  obtain ⟨hreads, hexponent, hdigits⟩ := onGrid?_spec he hgrid
  obtain ⟨hvalue, htrimmed, hraised⟩ := trim_spec 17 d
  have hfew : below x e + 1 ≤ 10 ^ (k + 1) := by
    have hunits : (0 : ℚ) < unitsPerOne := by exact_mod_cast unitsPerOne_pos
    have hgrid : (0 : ℚ) < 10 ^ e * unitsPerOne := mul_pos (zpow_pos (by norm_num) e) hunits
    have hlt : (below x e : ℚ) < 10 ^ (k + 1) := by
      refine lt_of_le_of_lt (below_bounds x e).1 ?_
      rw [div_lt_iff₀ hgrid, ← mul_assoc, ← zpow_natCast, ← zpow_add₀ (by norm_num)]
      rw [show ((k + 1 : Nat) : Int) + e = leadingExponent x + 1 by omega]
      exact hhigh
    exact_mod_cast hlt
  have hback : (d.trim 17).roundedUnits = x := (roundedUnits_congr hvalue).trans hreads
  have hsome := digits_pos hpos hback
  rw [hshortest]
  refine ⟨hback, hsome, ?_, by omega, exponent_le hx hpos hback hsome⟩
  calc (d.trim 17).digits
      ≤ 10 ^ (k + 1) := htrimmed.trans (hdigits.trans hfew)
    _ ≤ 10 ^ 17 := Nat.pow_le_pow_right (by decide) (by omega)

end ScriptBench.Decimal
