import Mathlib.Algebra.Group.Nat.Defs
import ScriptBench.Time
import ScriptBench.Proofs.Json.Literals

/-!
The text of a moment is read as that moment.

1. Digits with zeros in front are read as the number they stand for, by a field that takes as many
   of them as there are (`number_padded`) or more if none follow (`leading_padded`).
2. So are the year, in all its forms, and the fraction of a second (`yearField_text`,
   `fraction_text`).
3. A moment of the calendar, written and read again, is the same moment (`parse_text`).
-/
namespace ScriptBench

namespace Time

/-! ## Digits -/

theorem length_decimalDigits_le {k n : Nat} (hk : 0 < k) (hn : n < 10 ^ k) :
    (decimalDigits n).length ≤ k := by
  induction k generalizing n with
  | zero => omega
  | succ k ih =>
    by_cases hlt : n < 10
    · rw [decimalDigits, Nat.toDigits_of_lt_base hlt, List.length_singleton]
      omega
    · have hkpos : 0 < k := by
        rcases Nat.eq_zero_or_pos k with rfl | h
        · simp only [Nat.zero_add, Nat.pow_one] at hn
          omega
        · exact h
      have hdiv : n / 10 < 10 ^ k := by
        rw [Nat.pow_succ] at hn
        omega
      have hlength := ih hkpos hdiv
      rw [decimalDigits] at hlength ⊢
      rw [Nat.toDigits_of_base_le (by decide) (by omega), List.length_append, List.length_singleton]
      omega

theorem isDigit_of_mem_padded {width n : Nat} {c : Char} (h : c ∈ padded width n) :
    c.isDigit = true := by
  rcases List.mem_append.mp h with h | h
  · rw [List.eq_of_mem_replicate h]
    rfl
  · exact isDigit_of_mem_decimalDigits h

theorem length_padded {width n : Nat} (hwidth : 0 < width) (hn : n < 10 ^ width) :
    (padded width n).length = width := by
  have hlength := length_decimalDigits_le hwidth hn
  rw [padded, List.length_append, List.length_replicate]
  omega

theorem padded_ne_nil (width n : Nat) : padded width n ≠ [] := by
  simp [padded, decimalDigits, Nat.toDigits_ne_nil]

theorem foldl_padded (width n : Nat) :
    (padded width n).foldl (fun acc c => acc * 10 + (c.toNat - 48)) 0 = n := by
  have hzeros : ∀ k,
      (List.replicate k '0').foldl (fun acc c => acc * 10 + (c.toNat - 48)) 0 = 0 := by
    intro k
    induction k with
    | zero => rfl
    | succ k ih => exact ih
  have hdigits := foldl_digitValues n
  rw [digitValues, List.foldl_map] at hdigits
  rw [padded, List.foldl_append, hzeros, hdigits]

/-- What is left after a run of digits: no digit, or no room for one. -/
def Stops (room : Nat) (rest : List Char) : Prop := room = 0 ∨ ∀ c ∈ rest.head?, c.isDigit = false

/-- A run of digits is taken as a whole if there is room for it. -/
theorem leading_append {ds : List Char} (hds : ∀ c ∈ ds, c.isDigit = true) {width count : Nat}
    (hroom : count + ds.length ≤ width) {rest : List Char}
    (hrest : Stops (width - (count + ds.length)) rest) (acc : Nat) :
    leading width acc count (ds ++ rest) =
      (ds.foldl (fun acc c => acc * 10 + (c.toNat - 48)) acc, count + ds.length, rest) := by
  induction ds generalizing acc count with
  | nil =>
    cases rest with
    | nil => rfl
    | cons c rest =>
      have hnot : ¬ (c.isDigit = true ∧ count < width) := by
        rintro ⟨hdigit, hlt⟩
        rcases hrest with hfull | hother
        · simp only [List.length_nil] at hfull
          omega
        · simp [hother c rfl] at hdigit
      simp only [List.nil_append, leading, if_neg hnot]
      rfl
  | cons d ds ih =>
    rw [List.length_cons] at hroom hrest
    have hdigit : d.isDigit = true := hds d List.mem_cons_self
    have hlt : count < width := by omega
    rw [List.cons_append, leading, if_pos ⟨hdigit, hlt⟩,
      ih (fun c hc => hds c (List.mem_cons_of_mem _ hc)) (by omega)
        (by rwa [show count + 1 + ds.length = count + (ds.length + 1) by omega])]
    rw [List.length_cons, List.foldl_cons, show count + 1 + ds.length =
      count + (ds.length + 1) by omega]

theorem leading_padded {width n room : Nat} (hroom : (padded width n).length ≤ room)
    {rest : List Char} (hrest : Stops (room - (padded width n).length) rest) :
    leading room 0 0 (padded width n ++ rest) = (n, (padded width n).length, rest) := by
  rw [leading_append (fun _ => isDigit_of_mem_padded) (by omega) (by rwa [Nat.zero_add]),
    foldl_padded, Nat.zero_add]

theorem number_padded {width n room : Nat} (hn : n ≤ maxField)
    (hroom : (padded width n).length ≤ room) {rest : List Char}
    (hrest : Stops (room - (padded width n).length) rest) :
    number room (padded width n ++ rest) = .ok (n, rest) := by
  obtain ⟨d, ds, hd⟩ := List.exists_cons_of_ne_nil (padded_ne_nil width n)
  have hleading := leading_padded hroom hrest
  rw [hd, List.length_cons, List.cons_append] at hleading
  rw [hd, List.cons_append, number]
  · rw [hleading]
    exact if_pos hn
  · exact List.cons_ne_nil _ _

/-! ## Fields -/

theorem skip_of_isDigit {c : Char} (h : c.isDigit = true) (rest : List Char) :
    Blank.skip (c :: rest) = c :: rest := by
  have hnot : Blank.isBlank c = false := by
    simp only [Char.isDigit, Bool.and_eq_true, decide_eq_true_eq, UInt32.le_iff_toNat_le] at h
    have hlow : 48 ≤ c.toNat := h.1
    have hhigh : c.toNat ≤ 57 := h.2
    simp only [Blank.isBlank, Bool.or_eq_false_iff, Bool.and_eq_false_iff, decide_eq_false_iff_not]
    omega
  simp [Blank.skip, hnot]

theorem skip_padded (width n : Nat) (rest : List Char) :
    Blank.skip (padded width n ++ rest) = padded width n ++ rest := by
  obtain ⟨d, ds, hd⟩ := List.exists_cons_of_ne_nil (padded_ne_nil width n)
  have hdigit : d.isDigit = true := isDigit_of_mem_padded (hd ▸ List.mem_cons_self)
  rw [hd, List.cons_append, skip_of_isDigit hdigit]

theorem field_padded {low high n : Nat} (hlow : low ≤ n) (hhigh : n ≤ high) (hn : n < 100)
    (rest : List Char) :
    field 2 low high (padded 2 n ++ rest) = .ok (n, rest) := by
  have hlength : (padded 2 n).length = 2 := length_padded (by decide) hn
  have hmax : n ≤ maxField := Nat.le_trans (Nat.le_of_lt hn) (by decide)
  have hnumber : number 2 (padded 2 n ++ rest) = .ok (n, rest) :=
    number_padded hmax (Nat.le_of_eq hlength) (.inl (by rw [hlength]))
  rw [field, skip_padded, hnumber]
  show (if low ≤ n ∧ n ≤ high then Except.ok (n, rest) else _) = _
  rw [if_pos ⟨hlow, hhigh⟩]

theorem separator_self {c : Char} (h : Blank.isBlank c = false) (rest : List Char) :
    separator c (c :: rest) = .ok rest := by
  simp [separator, Blank.skip, h]

/-- The year behind a sign, if it is one that can be counted. -/
def signedYear (sign : Int) (rest : List Char) : Except TimeFault (Int × List Char) := do
  let (year, rest) ← (number rest.length rest).map fun (n, r) => (sign * (n : Int), r)
  if -2147483648 ≤ year ∧ year ≤ 2147483647 then return (year, rest) else throw .outOfRange

theorem yearField_minus (rest : List Char) : yearField ('-' :: rest) = signedYear (-1) rest := by
  simp only [signedYear, Int.neg_mul, Int.one_mul]
  rfl

theorem yearField_plus (rest : List Char) : yearField ('+' :: rest) = signedYear 1 rest := by
  simp only [signedYear, Int.one_mul]
  rfl

/-- A year is read in the form in which it is written: four digits, or a sign and four digits or
more. -/
theorem yearField_text {year : Int} (hlow : firstYear ≤ year) (hhigh : year ≤ lastYear)
    (rest : List Char) :
    yearField (yearChars year ++ '-' :: rest) = .ok (year, '-' :: rest) := by
  simp only [firstYear, lastYear] at hlow hhigh
  have hrange : (-2147483648 ≤ year ∧ year ≤ 2147483647) := by omega
  have hmax : year.natAbs ≤ maxField :=
    Nat.le_trans (show year.natAbs ≤ 1000000 by omega) (by decide)
  -- a year after a sign has as many digits as stand there
  have hsigned : number (padded 4 year.natAbs ++ '-' :: rest).length
    (padded 4 year.natAbs ++ '-' :: rest) =
      .ok (year.natAbs, '-' :: rest) :=
    number_padded hmax (by simp) (.inr (by simp))
  unfold yearChars
  split
  · rename_i hfour
    have hlength : (padded 4 year.toNat).length = 4 := length_padded (by decide) (by omega)
    have hnumber : number 4 (padded 4 year.toNat ++ '-' :: rest) = .ok (year.toNat, '-' :: rest) :=
      number_padded (by omega) (Nat.le_of_eq hlength) (.inl (by rw [hlength]))
    obtain ⟨d, ds, hd⟩ := List.exists_cons_of_ne_nil (padded_ne_nil 4 year.toNat)
    have hdigit : d.isDigit = true := isDigit_of_mem_padded (hd ▸ List.mem_cons_self)
    have hminus : d ≠ '-' := by rintro rfl; simp at hdigit
    have hplus : d ≠ '+' := by rintro rfl; simp at hdigit
    have hyear : ((year.toNat : Nat) : Int) = year := by omega
    unfold yearField
    rw [skip_padded]
    rw [hd, List.cons_append] at hnumber ⊢
    dsimp only
    split
    · rename_i heq
      exact absurd (List.cons.inj heq).1 hminus
    · rename_i heq
      exact absurd (List.cons.inj heq).1 hplus
    · rw [hnumber]
      simp [Except.map, bind, Except.bind, pure, Except.pure, hyear, hrange]
  · split
    · rename_i hneg
      have hyear : -1 * ((year.natAbs : Nat) : Int) = year := by omega
      rw [List.cons_append, yearField_minus, signedYear, hsigned]
      simp only [Except.map, bind, Except.bind, pure, Except.pure, hyear, if_pos hrange]
    · rename_i hneg
      have hyear : 1 * ((year.natAbs : Nat) : Int) = year := by omega
      rw [List.cons_append, yearField_plus, signedYear, hsigned]
      simp only [Except.map, bind, Except.bind, pure, Except.pure, hyear, if_pos hrange]

/-- Digits behind a point, up to nine of them, are so many parts of a second. -/
theorem fraction_padded {width n : Nat} (hwidth : 0 < width) (hnine : width ≤ 9)
    (hn : n < 10 ^ width) (rest : List Char) :
    fraction ('.' :: padded width n ++ 'Z' :: rest) = .ok (n * 10 ^ (9 - width), 'Z' :: rest) := by
  have hlength := length_padded hwidth hn
  have hleading : leading 9 0 0 (padded width n ++ 'Z' :: rest) = (n, width, 'Z' :: rest) := by
    rw [leading_padded (by rwa [hlength]) (.inr (by simp)), hlength]
  obtain ⟨k, rfl⟩ : ∃ k, width = k + 1 := ⟨width - 1, by omega⟩
  rw [List.cons_append, fraction, hleading]
  simp [Nat.pow_eq]

theorem fraction_text {nano : Nat} (h : nano < 1000000000) (rest : List Char) :
    fraction (fractionChars nano ++ 'Z' :: rest) = .ok (nano, 'Z' :: rest) := by
  unfold fractionChars
  split
  · rename_i hzero
    rw [hzero]
    rfl
  · split
    · rw [fraction_padded (by decide) (by decide) (by omega)]
      congr 2
      omega
    · split
      · rw [fraction_padded (by decide) (by decide) (by omega)]
        congr 2
        omega
      · rw [fraction_padded (by decide) (by decide) (by omega)]
        congr 2
        omega

/-! ## Moments -/

theorem fromOffset_zero {t : Time} (hhour : t.hour ≤ 23) (hminute : t.minute ≤ 59) :
    t.fromOffset 0 = t := by
  have hlow : ¬ (((t.hour * 60 + t.minute : Nat) : Int) - 0 < 0) := by omega
  have hhigh : ¬ ((1440 : Int) ≤ ((t.hour * 60 + t.minute : Nat) : Int) - 0) := by omega
  have hh : ((((t.hour * 60 + t.minute : Nat) : Int) - 0).toNat) / 60 = t.hour := by omega
  have hm : ((((t.hour * 60 + t.minute : Nat) : Int) - 0).toNat) % 60 = t.minute := by omega
  simp only [fromOffset, if_neg hlow, if_neg hhigh, hh, hm]

/-- A moment of the calendar is what its text is read as. -/
theorem parse_text {t : Time} (h : t.isValid = true) : parse t.text = .ok t := by
  have hvalid := h
  simp only [isValid, inCalendar, Bool.and_eq_true, decide_eq_true_eq] at h
  obtain ⟨⟨⟨⟨⟨⟨⟨⟨⟨hfirst, hlast⟩, hmonth⟩, hyear⟩, hday⟩, hdays⟩, hhour⟩, hminute⟩, hsecond⟩,
    hnano⟩ := h
  have hdays : t.day ≤ 31 := by
    unfold daysInMonth at hdays
    split at hdays
    · split at hdays <;> omega
    · split at hdays <;> omega
  have hofLocal : ofLocal t 0 = .ok t := by
    have hcalendar : t.inCalendar = true := by simp [inCalendar, hfirst, hlast]
    rw [ofLocal, fromOffset_zero hhour hminute]
    simp [hvalid, hcalendar]
  rw [parse, text, String.toList_ofList]
  simp only [List.append_assoc, List.cons_append]
  rw [yearField_text hfirst hlast]
  simp only [bind, Except.bind, separator_self (c := '-') (by decide),
    field_padded hmonth hyear (by omega),
    field_padded hday hdays (by omega), true_or, if_true,
      field_padded (Nat.zero_le _) hhour (by omega),
    separator_self (c := ':') (by decide), field_padded (Nat.zero_le _) hminute (by omega),
    field_padded (Nat.zero_le _) hsecond (by omega), fraction_text hnano]
  simpa [offset, Blank.skip, Blank.isBlank] using hofLocal

end Time

end ScriptBench
