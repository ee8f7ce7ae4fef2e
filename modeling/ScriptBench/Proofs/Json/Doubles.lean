import Mathlib.Data.Nat.Digits.Defs
import ScriptBench.Proofs.Json.ReadBack
import ScriptBench.Proofs.Number.ShortestDecimal

/-!
The text of a double, and what is read from it.

1. A text of digits with a point, and one with an exponent, are read as the number literal they look
   like (`reads_pointed`, `reads_scientific`).
2. A literal whose digits fit 64 bits has all of them in its significand (`double?_of_fits`).
3. So what is read from the text of a double is the decimal it was written as, scaled
   (`parse?_float`). The significand has every digit that is written: for a whole number also the
   zeros behind its digits, and the one behind the point (`Decimal.written`).
-/
namespace ScriptBench

open Json

/-! ## Reading -/

/-- The values of digits. -/
def valuesOf (ds : List Char) : List Nat := ds.map fun c => c.toNat - 48

/-- Digits, at least one. -/
structure AreDigits (ds : List Char) : Prop where
  digits : ∀ c ∈ ds, c.isDigit = true
  nonempty : ds ≠ []

/-- The text behind some digits does not go on with a digit. -/
def EndsDigits (rest : List Char) : Prop := ∀ c ∈ rest.head?, c.isDigit = false

theorem EndsNumber.endsDigits {rest : List Char} (h : EndsNumber rest) : EndsDigits rest :=
  fun c hc => (h c hc).1

theorem endsDigits_cons {c : Char} (h : c.isDigit = false) (rest : List Char) :
    EndsDigits (c :: rest) := by
  intro d hd
  cases hd
  exact h

theorem takeDigits_of_endsDigits {ds rest : List Char} (hds : ∀ c ∈ ds, c.isDigit = true)
    (hrest : EndsDigits rest) :
    takeDigits (ds ++ rest) = (valuesOf ds, rest) := by
  induction ds with
  | nil =>
    cases rest with
    | nil => rfl
    | cons c rest => simp [takeDigits, hrest c rfl, valuesOf]
  | cons c ds ih =>
    have hc := hds c List.mem_cons_self
    simp [takeDigits, hc, ih fun d hd => hds d (List.mem_cons_of_mem _ hd), valuesOf]

theorem exists_takeDigits {ds rest : List Char} (hds : AreDigits ds) (hrest : EndsDigits rest) :
    ∃ v vs, valuesOf ds = v :: vs ∧ takeDigits (ds ++ rest) = (v :: vs, rest) := by
  obtain ⟨c, cs, rfl⟩ := List.exists_cons_of_ne_nil hds.nonempty
  exact ⟨_, _, rfl, takeDigits_of_endsDigits hds.digits hrest⟩

/-- Wherever a text stands that is a number, and whatever its sign is, it is read as a literal. -/
def ReadsAsLiteral (cs : List Char) (whole fraction : List Nat)
    (exponent : Option (Bool × List Nat)) : Prop :=
  ∀ start negative rest p, EndsNumber rest → ∃ q,
    readNumber start negative ⟨cs ++ rest, p⟩ =
      (.numeral start ⟨negative, whole, fraction, exponent⟩ (some q), some ⟨rest, q⟩)

/-- Whole numbers have no zero in front; zero is one. -/
structure IsWhole (whole : List Char) : Prop extends AreDigits whole where
  unpadded : ¬ ((valuesOf whole).head? = some 0 ∧ 1 < (valuesOf whole).length)

section

variable (start : Place) (negative : Bool) (p : Position) {whole fraction rest : List Char}

theorem readNumber_whole (hwhole : IsWhole whole) (hrest : EndsDigits rest) :
    ∃ q, readNumber start negative ⟨whole ++ rest, p⟩ =
      readFraction start negative (valuesOf whole) ⟨rest, q⟩ := by
  obtain ⟨v, vs, hvalues, htake⟩ := exists_takeDigits hwhole.toAreDigits hrest
  have hunpadded := hwhole.unpadded
  rw [hvalues] at hunpadded ⊢
  simp only [readNumber, htake]
  rw [if_neg hunpadded]
  exact ⟨_, rfl⟩

theorem readFraction_point (ws : List Nat) (hfraction : AreDigits fraction)
    (hrest : EndsDigits rest) :
    ∃ q, readFraction start negative ws ⟨'.' :: fraction ++ rest, p⟩ =
      readExponent start negative ws (valuesOf fraction) ⟨rest, q⟩ := by
  obtain ⟨v, vs, hvalues, htake⟩ := exists_takeDigits hfraction hrest
  simp only [readFraction, Cursor.startsWith, Cursor.next, List.cons_append, htake, hvalues]
  exact ⟨_, rfl⟩

theorem readFraction_none {ws : List Nat} (hrest : ∀ c ∈ rest.head?, c ≠ '.') :
    readFraction start negative ws ⟨rest, p⟩ = readExponent start negative ws [] ⟨rest, p⟩ := by
  rw [readFraction, if_neg (not_startsWith hrest p)]

theorem readExponent_none {ws fs : List Nat} (hrest : EndsNumber rest) :
    readExponent start negative ws fs ⟨rest, p⟩ =
      (.numeral start ⟨negative, ws, fs, none⟩ (some p), some ⟨rest, p⟩) := by
  have he := not_startsWith (fun c hc => (hrest c hc).2.2.1) p
  have hE := not_startsWith (fun c hc => (hrest c hc).2.2.2) p
  rw [readExponent, if_neg (by simp [he, hE])]
  rfl

theorem readExponent_some (ws fs : List Nat) (down : Bool) {ds : List Char} (hds : AreDigits ds)
    (hrest : EndsDigits rest) :
    ∃ q, readExponent start negative ws fs ⟨'e' :: (if down then '-' else '+') :: ds ++ rest, p⟩ =
      (.numeral start ⟨negative, ws, fs, some (down, valuesOf ds)⟩ (some q), some ⟨rest, q⟩) := by
  obtain ⟨v, vs, hvalues, htake⟩ := exists_takeDigits hds hrest
  cases down <;> simp [readExponent, Cursor.startsWith, Cursor.next, htake, hvalues, numberNode,
    Cursor.onward]

end

theorem reads_pointed {whole fraction : List Char} (hwhole : IsWhole whole)
    (hfraction : AreDigits fraction) :
    ReadsAsLiteral (whole ++ '.' :: fraction) (valuesOf whole) (valuesOf fraction) none := by
  intro start negative rest p hrest
  obtain ⟨q, hq⟩ := readNumber_whole start negative p hwhole
    (endsDigits_cons (c := '.') (by decide) (fraction ++ rest))
  obtain ⟨r, hr⟩ := readFraction_point start negative q (valuesOf whole) hfraction hrest.endsDigits
  refine ⟨r, ?_⟩
  rw [List.append_assoc, List.cons_append, hq, ← List.cons_append, hr,
    readExponent_none start negative r hrest]

theorem reads_scientific {whole fraction digits : List Char} (hwhole : IsWhole whole)
    (hfraction : ∀ c ∈ fraction, c.isDigit = true) (down : Bool) (hdigits : AreDigits digits) :
    ReadsAsLiteral (whole ++ (if fraction = [] then [] else '.' :: fraction) ++
      'e' :: (if down then '-' else '+') :: digits)
      (valuesOf whole) (valuesOf fraction) (some (down, valuesOf digits)) := by
  intro start negative rest p hrest
  have hend : EndsDigits ('e' :: (if down then '-' else '+') :: digits ++ rest) :=
    endsDigits_cons (by decide) _
  by_cases hnone : fraction = []
  · subst hnone
    obtain ⟨q, hq⟩ := readNumber_whole start negative p hwhole hend
    obtain ⟨r, hr⟩ :=
      readExponent_some start negative q (valuesOf whole) [] down hdigits hrest.endsDigits
    refine ⟨r, ?_⟩
    rw [if_pos rfl, List.append_nil, List.append_assoc, hq,
      readFraction_none start negative q (by simp), hr]
    rfl
  · obtain ⟨q, hq⟩ := readNumber_whole start negative p hwhole
      (endsDigits_cons (c := '.') (by decide)
        (fraction ++ ('e' :: (if down then '-' else '+') :: digits ++ rest)))
    obtain ⟨r, hr⟩ := readFraction_point start negative q (valuesOf whole) ⟨hfraction, hnone⟩ hend
    obtain ⟨t, ht⟩ :=
      readExponent_some start negative r (valuesOf whole) (valuesOf fraction) down hdigits
        hrest.endsDigits
    refine ⟨t, ?_⟩
    rw [if_neg hnone, List.append_assoc, List.append_assoc, List.cons_append, hq,
      ← List.cons_append, hr, ht]

/-! ## Digits -/

theorem valuesOf_append (ds ds' : List Char) : valuesOf (ds ++ ds') = valuesOf ds ++ valuesOf ds' :=
  List.map_append

theorem length_valuesOf (ds : List Char) : (valuesOf ds).length = ds.length := List.length_map _

theorem ofDigits_decimalDigits (n : Nat) : Numeral.ofDigits (valuesOf (decimalDigits n)) = n :=
  foldl_digitValues n

theorem ofDigits_zeros_append (k : Nat) (ds : List Char) :
    Numeral.ofDigits (valuesOf (List.replicate k '0' ++ ds)) = Numeral.ofDigits (valuesOf ds) := by
  induction k with
  | zero => rfl
  | succ k ih => exact ih

theorem ofDigits_append_zeros (ds : List Char) (k : Nat) :
    Numeral.ofDigits (valuesOf (ds ++ List.replicate k '0')) =
      Numeral.ofDigits (valuesOf ds) * 10 ^ k := by
  have hzeros : ∀ acc, (valuesOf (List.replicate k '0')).foldl (fun n d => n * 10 + d) acc =
      acc * 10 ^ k := by
    induction k with
    | zero => exact fun acc => (Nat.mul_one acc).symm
    | succ k ih =>
      intro acc
      rw [Nat.pow_succ, Nat.mul_comm (10 ^ k) 10, ← Nat.mul_assoc]
      exact ih (acc * 10)
  rw [valuesOf_append, Numeral.ofDigits, List.foldl_append, hzeros]
  rfl

theorem areDigits_decimalDigits (n : Nat) : AreDigits (decimalDigits n) :=
  ⟨fun _ => isDigit_of_mem_decimalDigits, Nat.toDigits_ne_nil⟩

theorem lt_pow_length_decimalDigits (n : Nat) : n < 10 ^ (decimalDigits n).length := by
  have hlength : ∀ n, n < 10 ^ (digitValues n).length := by
    intro n
    induction n using Nat.strongRecOn with
    | ind n ih =>
      by_cases hlt : n < 10
      · simpa [digitValues_of_lt hlt] using hlt
      · have hrest := ih (n / 10) (by omega)
        rw [digitValues_of_le (Nat.le_of_not_lt hlt), List.length_append, Nat.pow_add]
        simp only [List.length_singleton, Nat.pow_one]
        omega
  have h := hlength n
  rwa [digitValues, List.length_map] at h

/-- What begins as a number begins is whole: there is no zero in front. -/
theorem isWhole_of_prefix {n : Nat} (hn : n ≠ 0) {whole : List Char} (hdigits : AreDigits whole)
    (hhead : whole.head? = (decimalDigits n).head?) : IsWhole whole := by
  refine ⟨hdigits, fun h => head_digitValues hn ?_⟩
  rw [digitValues, List.head?_map, ← hhead, ← List.head?_map]
  exact h.1

theorem isWhole_digit {c : Char} (h : c.isDigit = true) : IsWhole [c] := by
  refine ⟨⟨?_, List.cons_ne_nil _ _⟩, fun hlong => absurd hlong.2 (by simp [valuesOf])⟩
  intro d hd
  rwa [List.mem_singleton.mp hd]

/-! ## Values of literals -/

/-- The exponent that is written in a literal. -/
def Numeral.writtenExponent (n : Numeral) : Int :=
  match n.exponent with
  | none => 0
  | some (down, ds) => if down then -(Numeral.ofDigits ds : Int) else Numeral.ofDigits ds

/-- A literal whose digits fit is the number of all its digits, scaled once. -/
theorem double?_of_fits (n : Numeral)
    (hdigits : Numeral.ofDigits (n.whole ++ n.fraction) ≤ Numeral.maxSignificand)
    (hexponent : ∀ x ∈ n.exponent, Numeral.ofDigits x.2 ≤ Numeral.maxExponent) :
    n.double? = (Numeral.scale? (Numeral.ofDigits (n.whole ++ n.fraction))
      (n.writtenExponent - n.fraction.length)).map fun f => if n.negative then f.neg else f := by
  have hboth : Numeral.ofDigits (n.whole ++ n.fraction) =
      n.fraction.foldl (fun n d => n * 10 + d) (Numeral.ofDigits n.whole) := List.foldl_append
  have hwhole : Numeral.gather Numeral.maxSignificand 0 n.whole = (Numeral.ofDigits n.whole, []) :=
    gather_of_le ((le_foldl_digits _ n.fraction).trans (hboth ▸ hdigits))
  have hfraction : Numeral.gather Numeral.maxSignificand (Numeral.ofDigits n.whole) n.fraction =
      (Numeral.ofDigits (n.whole ++ n.fraction), []) := by
    rw [hboth] at hdigits ⊢
    exact gather_of_le hdigits
  obtain ⟨negative, whole, fraction, exponent⟩ := n
  simp only [Numeral.double?, Numeral.writtenExponent, hwhole, hfraction, List.length_nil]
  cases exponent with
  | none => simp
  | some x =>
    obtain ⟨down, ds⟩ := x
    have hgather : Numeral.gather Numeral.maxExponent 0 ds = (Numeral.ofDigits ds, []) :=
      gather_of_le (hexponent _ rfl)
    have hshift :
      (if down = true then ((0 : Nat) : Int) - (fraction.length - ((0 : Nat) : Int)) -
      Numeral.ofDigits ds
        else ((0 : Nat) : Int) - (fraction.length - ((0 : Nat) : Int)) + Numeral.ofDigits ds) =
        (if down = true then -(Numeral.ofDigits ds : Int) else Numeral.ofDigits ds) -
            fraction.length := by
      split <;> omega
    simp only [hgather, hshift]

theorem value?_of_fits (n : Numeral) (hpoint : n.isWhole = false)
    (hdigits : Numeral.ofDigits (n.whole ++ n.fraction) ≤ Numeral.maxSignificand)
    (hexponent : ∀ x ∈ n.exponent, Numeral.ofDigits x.2 ≤ Numeral.maxExponent) :
    n.value? = (Numeral.scale? (Numeral.ofDigits (n.whole ++ n.fraction))
      (n.writtenExponent - n.fraction.length)).map fun f =>
        .float (if n.negative then f.neg else f) := by
  rw [Numeral.value?, if_neg (by rw [hpoint]; decide),
    double?_of_fits n hdigits hexponent, Option.map_map]
  rfl

/-! ## Doubles -/

/-- The decimal that is read from the text of a double. -/
def Decimal.written (x : Nat) : Decimal :=
  let d := shortest x
  if 0 ≤ d.exponent ∧ d.exponent + (decimalDigits d.digits).length ≤ 16 then
    ⟨d.digits * 10 ^ (d.exponent.toNat + 1), -1⟩
  else d

/-- How the magnitude of a double is written: in digits, with a point or an exponent among them. -/
structure Shown (x : Nat) (whole fraction : List Char) (exponent : Option (Bool × List Nat)) :
    Prop where
  literal : ReadsAsLiteral (DoubleFormat.json.magnitude x) (valuesOf whole)
    (valuesOf fraction) exponent
  head : ∃ c cs, DoubleFormat.json.magnitude x = c :: cs ∧ c.isDigit = true
  point : fraction ≠ [] ∨ exponent ≠ none
  digits : Numeral.ofDigits (valuesOf (whole ++ fraction)) = (Decimal.written x).digits
  scale : (⟨false, [], [], exponent⟩ : Numeral).writtenExponent - fraction.length =
    (Decimal.written x).exponent
  small : ∀ down ds, exponent = some (down, ds) → Numeral.ofDigits ds ≤ Numeral.maxExponent

theorem shown_zero : Shown 0 ['0'] ['0'] none := by
  have hzero : IsWhole ['0'] := isWhole_digit (by decide)
  exact ⟨reads_pointed hzero hzero.toAreDigits, ⟨'0', ['.', '0'], rfl, by decide⟩,
    .inl (by decide), by decide,
    by decide, by simp⟩

section

variable {x n : Nat} {e : Int}

theorem magnitude_eq (hpos : 0 < x) (hd : Decimal.shortest x = ⟨n, e⟩) :
    DoubleFormat.json.magnitude x =
      if -5 < e + (decimalDigits n).length ∧ e + (decimalDigits n).length ≤ 16 then
        DoubleFormat.json.positional (decimalDigits n) (e + (decimalDigits n).length)
      else DoubleFormat.scientific (decimalDigits n) (e + (decimalDigits n).length) := by
  rw [DoubleFormat.magnitude, if_neg hpos.ne', hd]
  rfl

theorem written_eq (hd : Decimal.shortest x = ⟨n, e⟩) :
    Decimal.written x =
      if 0 ≤ e ∧ e + (decimalDigits n).length ≤ 16 then ⟨n * 10 ^ (e.toNat + 1), -1⟩
      else ⟨n, e⟩ := by
  rw [Decimal.written, hd]

theorem exists_head {whole : List Char} (h : AreDigits whole) (rest : List Char) :
    ∃ c cs, whole ++ rest = c :: cs ∧ c.isDigit = true := by
  obtain ⟨c, cs, rfl⟩ := List.exists_cons_of_ne_nil h.nonempty
  exact ⟨c, cs ++ rest, rfl, h.digits c List.mem_cons_self⟩

/-- A whole number of at most 16 digits: zeros behind its digits, a point and one more zero. -/
theorem shown_whole (hpos : 0 < x) (hd : Decimal.shortest x = ⟨n, e⟩) (hn : n ≠ 0) (hexp : 0 ≤ e)
    (hfew : e + (decimalDigits n).length ≤ 16) : ∃ whole fraction, Shown x whole fraction none := by
  have hwritten : Decimal.written x = ⟨n * 10 ^ (e.toNat + 1), -1⟩ := by
    rw [written_eq hd, if_pos ⟨hexp, hfew⟩]
  have hdigits := areDigits_decimalDigits n
  have hcount : 0 < (decimalDigits n).length := List.length_pos_of_ne_nil hdigits.nonempty
  have hmagnitude : DoubleFormat.json.magnitude x =
      (decimalDigits n ++ List.replicate e.toNat '0') ++ '.' :: ['0'] := by
    rw [magnitude_eq hpos hd, if_pos ⟨by omega, hfew⟩, DoubleFormat.positional, if_pos (by omega),
      show e + (decimalDigits n).length - (decimalDigits n).length = e by omega]
    rfl
  have hwhole : IsWhole (decimalDigits n ++ List.replicate e.toNat '0') := by
    refine isWhole_of_prefix hn ⟨?_, by simp [hdigits.nonempty]⟩
      (List.head?_append_of_ne_nil _ hdigits.nonempty)
    intro c hc
    obtain hc | hc := List.mem_append.mp hc
    · exact hdigits.digits c hc
    · rw [List.eq_of_mem_replicate hc]
      decide
  refine ⟨decimalDigits n ++ List.replicate e.toNat '0', ['0'], ?_, ?_, .inl (by decide),
    ?_, ?_, by simp⟩
  · rw [hmagnitude]
    exact reads_pointed hwhole (isWhole_digit (by decide)).toAreDigits
  · rw [hmagnitude]
    exact exists_head hwhole.toAreDigits _
  · rw [hwritten, List.append_assoc, show ['0'] = List.replicate 1 '0' from rfl,
      List.replicate_append_replicate, ofDigits_append_zeros, ofDigits_decimalDigits]
  · rw [hwritten]
    rfl

/-- A point among the digits, or in front of them and of some zeros. -/
theorem shown_point (hpos : 0 < x) (hd : Decimal.shortest x = ⟨n, e⟩) (hn : n ≠ 0) (hexp : e < 0)
    (hlow : -5 < e + (decimalDigits n).length) (hhigh : e + (decimalDigits n).length ≤ 16) :
    ∃ whole fraction, Shown x whole fraction none := by
  have hwritten : Decimal.written x = ⟨n, e⟩ := by
    rw [written_eq hd, if_neg (by omega)]
  have hdigits := areDigits_decimalDigits n
  -- the point stands behind the first digits, or else a zero stands in front of it
  by_cases hinside : 0 < e + (decimalDigits n).length
  · have hmagnitude : DoubleFormat.json.magnitude x =
        (decimalDigits n).take (e + (decimalDigits n).length).toNat ++
          '.' :: (decimalDigits n).drop (e + (decimalDigits n).length).toNat := by
      rw [magnitude_eq hpos hd, if_pos ⟨hlow, hhigh⟩, DoubleFormat.positional,
        if_neg (by omega), if_pos hinside]
    generalize hpoint : (e + (decimalDigits n).length).toNat = point at hmagnitude
    have hwhole : IsWhole ((decimalDigits n).take point) := by
      refine isWhole_of_prefix hn ⟨fun c hc => hdigits.digits c (List.mem_of_mem_take hc), ?_⟩ ?_
      · rw [Ne, List.take_eq_nil_iff, not_or]
        exact ⟨by omega, hdigits.nonempty⟩
      · rw [List.head?_take, if_neg (by omega)]
    have hfraction : AreDigits ((decimalDigits n).drop point) := by
      refine ⟨fun c hc => hdigits.digits c (List.mem_of_mem_drop hc), ?_⟩
      rw [Ne, List.drop_eq_nil_iff]
      omega
    refine ⟨(decimalDigits n).take point, _, ?_, ?_, .inl hfraction.nonempty, ?_, ?_, by simp⟩
    · rw [hmagnitude]
      exact reads_pointed hwhole hfraction
    · rw [hmagnitude]
      exact exists_head hwhole.toAreDigits _
    · rw [hwritten, List.take_append_drop, ofDigits_decimalDigits]
    · rw [hwritten, List.length_drop]
      simp only [Numeral.writtenExponent]
      omega
  · have hmagnitude : DoubleFormat.json.magnitude x =
        ['0'] ++ '.' :: (List.replicate (-(e + (decimalDigits n).length)).toNat '0' ++
            decimalDigits n) := by
      rw [magnitude_eq hpos hd, if_pos ⟨hlow, hhigh⟩, DoubleFormat.positional,
        if_neg (by omega), if_neg hinside]
      rfl
    generalize hzeros : (-(e + (decimalDigits n).length)).toNat = zeros at hmagnitude
    have hwhole : IsWhole ['0'] := isWhole_digit (by decide)
    have hfraction : AreDigits (List.replicate zeros '0' ++ decimalDigits n) := by
      refine ⟨fun c hc => ?_, by simp [hdigits.nonempty]⟩
      obtain hc | hc := List.mem_append.mp hc
      · rw [List.eq_of_mem_replicate hc]
        decide
      · exact hdigits.digits c hc
    refine ⟨['0'], _, ?_, ?_, .inl hfraction.nonempty, ?_, ?_, by simp⟩
    · rw [hmagnitude]
      exact reads_pointed hwhole hfraction
    · rw [hmagnitude]
      exact exists_head hwhole.toAreDigits _
    · rw [hwritten, show ['0'] = List.replicate 1 '0' from rfl, ofDigits_zeros_append,
        ofDigits_zeros_append, ofDigits_decimalDigits]
    · rw [hwritten, List.length_append, List.length_replicate]
      simp only [Numeral.writtenExponent]
      omega

theorem scientific_cons (c : Char) (cs : List Char) (point : Int) :
    DoubleFormat.scientific (c :: cs) point =
      [c] ++ (if cs = [] then [] else '.' :: cs) ++
        'e' :: (if decide (point - 1 < 0) then '-' else '+') :: decimalDigits
          (point - 1).natAbs := by
  cases cs <;> simp [DoubleFormat.scientific]

/-- One digit in front of the point, if there are more, and an exponent. -/
theorem shown_scientific (hpos : 0 < x) (hd : Decimal.shortest x = ⟨n, e⟩) (hlow : -340 ≤ e)
    (hhigh : e ≤ 308) (hfew : (decimalDigits n).length ≤ 18)
    (hfar : ¬ (-5 < e + (decimalDigits n).length ∧ e + (decimalDigits n).length ≤ 16)) :
    ∃ whole fraction exponent, Shown x whole fraction exponent := by
  have hdigits := areDigits_decimalDigits n
  have hcount : 0 < (decimalDigits n).length := List.length_pos_of_ne_nil hdigits.nonempty
  have hwritten : Decimal.written x = ⟨n, e⟩ := by
    rw [written_eq hd, if_neg (by omega)]
  obtain ⟨c, cs, hcs⟩ := List.exists_cons_of_ne_nil hdigits.nonempty
  have hmagnitude := magnitude_eq hpos hd
  -- the first digit is the whole part, so no zero stands in front
  rw [if_neg hfar, hcs, scientific_cons] at hmagnitude
  rw [hcs] at hdigits hcount hfew hfar
  generalize hpower : e + (c :: cs).length - 1 = power at hmagnitude
  have hwhole : IsWhole [c] := isWhole_digit (hdigits.digits c List.mem_cons_self)
  have hfraction : ∀ d ∈ cs, d.isDigit = true := fun d hd =>
    hdigits.digits d (List.mem_cons_of_mem _ hd)
  refine ⟨[c], cs, some (decide (power < 0), valuesOf (decimalDigits power.natAbs)), ?_, ?_,
    .inr (by simp), ?_, ?_, ?_⟩
  · rw [hmagnitude]
    exact reads_scientific hwhole hfraction _ (areDigits_decimalDigits _)
  · rw [hmagnitude, List.append_assoc]
    exact exists_head hwhole.toAreDigits _
  · rw [hwritten, List.singleton_append, ← hcs, ofDigits_decimalDigits]
  · rw [hwritten]
    simp only [Numeral.writtenExponent, ofDigits_decimalDigits, decide_eq_true_eq,
      List.length_cons] at hpower ⊢
    split <;> omega
  · rintro down ds hds
    cases hds
    rw [ofDigits_decimalDigits]
    simp only [Numeral.maxExponent, Nat.pow_eq, List.length_cons] at hpower hfew ⊢
    omega

/-- The magnitude of every double is written as digits with a point or an exponent. -/
theorem exists_shown (hx : Binary64.IsDouble x) :
    ∃ whole fraction exponent, Shown x whole fraction exponent := by
  obtain rfl | hpos := Nat.eq_zero_or_pos x
  · exact ⟨_, _, _, shown_zero⟩
  · have hwrites := Decimal.writes_shortest hx hpos
    obtain ⟨n, e, hd⟩ : ∃ n e, Decimal.shortest x = ⟨n, e⟩ := ⟨_, _, rfl⟩
    rw [hd] at hwrites
    have hn : n ≠ 0 := hwrites.pos.ne'
    have hfew : (decimalDigits n).length ≤ 18 :=
      Nat.toDigits_length 10 n 18 (by decide) (Nat.lt_of_le_of_lt hwrites.digits (by decide))
    by_cases hnear : -5 < e + (decimalDigits n).length ∧ e + (decimalDigits n).length ≤ 16
    · obtain hexp | hexp := lt_or_ge e 0
      · obtain ⟨whole, fraction, h⟩ := shown_point hpos hd hn hexp hnear.1 hnear.2
        exact ⟨whole, fraction, none, h⟩
      · obtain ⟨whole, fraction, h⟩ := shown_whole hpos hd hn hexp hnear.2
        exact ⟨whole, fraction, none, h⟩
    · exact shown_scientific hpos hd hwrites.low hwrites.high hfew hnear

/-- What is read from the text of a double is a decimal that it is written as. -/
theorem writes_written (hx : Binary64.IsDouble x) (hpos : 0 < x) :
    (Decimal.written x).Writes x := by
  have hwrites := Decimal.writes_shortest hx hpos
  obtain ⟨n, e, hd⟩ : ∃ n e, Decimal.shortest x = ⟨n, e⟩ := ⟨_, _, rfl⟩
  rw [hd] at hwrites
  rw [written_eq hd]
  split
  · rename_i h
    obtain ⟨k, rfl⟩ := Int.eq_ofNat_of_zero_le h.1
    -- the zeros behind the digits leave the value as it is, and 17 digits are enough for them
    have hvalue : (⟨n * 10 ^ (k + 1), -1⟩ : Decimal).value = (⟨n, k⟩ : Decimal).value := by
      rw [Decimal.value, Decimal.value, zpow_natCast, zpow_neg_one]
      push_cast
      rw [pow_succ]
      field_simp
    refine ⟨(Decimal.roundedUnits_congr hvalue).trans hwrites.reads, ?_, ?_, ?_, ?_⟩
    · exact Nat.mul_pos hwrites.pos (Nat.pow_pos (by decide))
    · calc n * 10 ^ (k + 1)
          ≤ 10 ^ (decimalDigits n).length * 10 ^ (k + 1) :=
            Nat.mul_le_mul_right _ (lt_pow_length_decimalDigits n).le
        _ = 10 ^ ((decimalDigits n).length + (k + 1)) := (Nat.pow_add 10 _ _).symm
        _ ≤ 10 ^ 17 := Nat.pow_le_pow_right (by decide) (by omega)
    · dsimp only
      omega
    · dsimp only
      omega
  · exact hwrites

theorem digits_written_le (hx : Binary64.IsDouble x) :
    (Decimal.written x).digits ≤ Numeral.maxSignificand := by
  obtain rfl | hpos := Nat.eq_zero_or_pos x
  · decide
  · exact (writes_written hx hpos).digits.trans (by decide)

theorem Shown.value? {whole fraction : List Char} {exponent : Option (Bool × List Nat)}
    (h : Shown x whole fraction exponent) (hx : Binary64.IsDouble x) (negative : Bool) :
    (⟨negative, valuesOf whole, valuesOf fraction, exponent⟩ : Numeral).value? =
      (Numeral.scale? (Decimal.written x).digits (Decimal.written x).exponent).map fun f =>
        .float (if negative then f.neg else f) := by
  -- with a point or an exponent nothing is read as an integer
  have hpoint : Numeral.isWhole ⟨negative, valuesOf whole, valuesOf fraction, exponent⟩ =
      false := by
    obtain hfraction | hexponent := h.point
    · simp [Numeral.isWhole, valuesOf, hfraction]
    · simp [Numeral.isWhole, Option.ne_none_iff_isSome.mp hexponent]
  have hdigits : Numeral.ofDigits (valuesOf whole ++ valuesOf fraction) =
      (Decimal.written x).digits := by
    rw [← valuesOf_append]
    exact h.digits
  rw [value?_of_fits _ hpoint (hdigits ▸ digits_written_le hx) (fun y hy => h.small y.1 y.2 hy)]
  dsimp only
  rw [hdigits, length_valuesOf, ← h.scale]
  rfl

theorem Shown.read {whole fraction : List Char} {exponent : Option (Bool × List Nat)}
    (h : Shown x whole fraction exponent) (negative : Bool) :
    ∃ start stop, Document.read (Json.float (.finite negative x)).text =
      ⟨.numeral start ⟨negative, valuesOf whole, valuesOf fraction, exponent⟩ stop, none⟩ := by
  obtain ⟨c, cs, hhead, hc⟩ := h.head
  obtain ⟨hblank, hquote, hbracket, -, hbrace, hminus⟩ := digit_ne hc
  have hend : EndsNumber [] := by simp [EndsNumber]
  have hchars : (Json.float (.finite negative x)).text.toList =
      if negative then '-' :: DoubleFormat.json.magnitude x else DoubleFormat.json.magnitude x := by
    cases negative <;>
      simp [Json.text, Json.write, writeDouble, Binary64.isFinite, DoubleFormat.chars,
        DoubleFormat.json]
  have hnode : ∀ fuel p, ∃ start q,
    readNode (fuel + 1) ⟨(Json.float (.finite negative x)).text.toList, p⟩ =
      (.numeral start ⟨negative, valuesOf whole, valuesOf fraction, exponent⟩ (some q),
          some ⟨[], q⟩) := by
    intro fuel p
    cases negative with
    | true =>
      obtain ⟨q, hq⟩ := h.literal (some p) true [] (p.after '-') hend
      rw [List.append_nil] at hq
      refine ⟨some p, q, ?_⟩
      rw [hchars, if_pos rfl, readNode, skipBlanks_cons (by decide)]
      simp [Cursor.next, hq]
    | false =>
      obtain ⟨q, hq⟩ := h.literal (some p) false [] p hend
      rw [List.append_nil, hhead] at hq
      refine ⟨some p, q, ?_⟩
      rw [hchars, if_neg (by decide), hhead, readNode, skipBlanks_cons hblank]
      simp [hquote, hbracket, hbrace, hminus, hc, hq]
  obtain ⟨start, q, hq⟩ :=
    hnode (4 * (Json.float (.finite negative x)).text.toList.length + 3) .start
  refine ⟨start, some q, ?_⟩
  simp only [Document.read, hq, Cursor.skipBlanks, Cursor.skipBlanks.go, List.isEmpty_nil, if_true]

/-- The text of a double is read as the decimal it was written as, scaled once. -/
theorem Json.parse?_float (negative : Bool) (hx : Binary64.IsDouble x) :
    Json.parse? (Json.float (.finite negative x)).text =
      (Numeral.scale? (Decimal.written x).digits (Decimal.written x).exponent).map fun f =>
        .float (if negative then f.neg else f) := by
  obtain ⟨whole, fraction, exponent, hshown⟩ := exists_shown hx
  obtain ⟨start, stop, hread⟩ := hshown.read negative
  rw [← hshown.value? hx negative, Json.parse?, Json.parse, hread, Document.readAs, Node.toJson]
  generalize Numeral.value? _ = value
  cases value <;> rfl

end

end ScriptBench
