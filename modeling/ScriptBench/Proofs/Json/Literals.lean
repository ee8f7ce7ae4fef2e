import ScriptBench.Json.Reader
import ScriptBench.Json.Text

/-!
String and number literals are read as what they were written for.

The characters of a string come back whatever they are: each is escaped on its own, and an escape is
read before the text behind it is looked at (`readLiteral_escaped`). An integer comes back if it
fits 64 bits, signed or unsigned (`value?_ofInt`).
-/
namespace ScriptBench

open Json

/-! ## Strings -/

theorem hexValue?_hexDigit : ∀ n < 16, hexValue? (hexDigit n) = some n := by decide

theorem hexQuad?_control {n : Nat} (h : n < 32) :
    hexQuad? '0' '0' (hexDigit (n / 16)) (hexDigit (n % 16)) = some n := by
  have hzero : hexValue? '0' = some 0 := by decide
  simp only [hexQuad?, hzero, hexValue?_hexDigit (n / 16) (by omega),
    hexValue?_hexDigit (n % 16) (by omega), Option.some.injEq]
  omega

theorem readLiteral_simple {c ch : Char} (h : simpleEscape? c = some ch) (rest : List Char)
    (p : Position) :
    readLiteral ('\\' :: c :: rest) p = (readLiteral rest ((p.after '\\').after c)).push [ch] := by
  have hu : c ≠ 'u' := by
    rintro rfl
    simp [simpleEscape?] at h
  rw [readLiteral.eq_def]
  split <;> grind

/-- An escape of four digits that is no surrogate does not look at what follows it. -/
theorem readLiteral_unicode {a b c d : Char} {n : Nat} (h : hexQuad? a b c d = some n)
    (htrail : isTrailSurrogate n = false) (hlead : isLeadSurrogate n = false) (rest : List Char)
    (p : Position) :
    readLiteral ('\\' :: 'u' :: a :: b :: c :: d :: rest) p =
      (readLiteral rest ⟨p.line, p.column + 6⟩).push [Char.ofNat n] := by
  rw [readLiteral.eq_def]
  split <;> grind

theorem readLiteral_plain {c : Char} (hquote : c ≠ '"') (hslash : c ≠ '\\') (h : ¬ c.toNat < 32)
    (rest : List Char) (p : Position) :
    readLiteral (c :: rest) p = (readLiteral rest (p.after c)).push [c] := by
  rw [readLiteral.eq_def]
  split <;> grind

/-- A written character is read as itself, whatever follows it. -/
theorem readLiteral_escaped (c : Char) (rest : List Char) (p : Position) :
    ∃ q, readLiteral (escaped c ++ rest) p = (readLiteral rest q).push [c] := by
  unfold escaped
  by_cases hquote : c = '"'
  · subst hquote
    exact ⟨_, readLiteral_simple (by decide) rest p⟩
  by_cases hslash : c = '\\'
  · subst hslash
    exact ⟨_, readLiteral_simple (by decide) rest p⟩
  by_cases hn : c = '\n'
  · subst hn
    exact ⟨_, readLiteral_simple (by decide) rest p⟩
  by_cases hr : c = '\r'
  · subst hr
    exact ⟨_, readLiteral_simple (by decide) rest p⟩
  by_cases ht : c = '\t'
  · subst ht
    exact ⟨_, readLiteral_simple (by decide) rest p⟩
  rw [if_neg hquote, if_neg hslash, if_neg hn, if_neg hr, if_neg ht]
  by_cases hb : c.toNat = 8
  · rw [if_pos hb, ← Char.ofNat_toNat c, hb]
    exact ⟨_, readLiteral_simple (by decide) rest p⟩
  by_cases hf : c.toNat = 12
  · rw [if_neg hb, if_pos hf, ← Char.ofNat_toNat c, hf]
    exact ⟨_, readLiteral_simple (by decide) rest p⟩
  rw [if_neg hb, if_neg hf]
  split
  · rename_i hcontrol
    have htrail : isTrailSurrogate c.toNat = false := by simp [isTrailSurrogate]; omega
    have hlead : isLeadSurrogate c.toNat = false := by simp [isLeadSurrogate]; omega
    have h := readLiteral_unicode (hexQuad?_control hcontrol) htrail hlead rest p
    rw [Char.ofNat_toNat] at h
    exact ⟨_, h⟩
  · rename_i hplain
    exact ⟨_, readLiteral_plain hquote hslash hplain rest p⟩

/-- What is written inside a string literal is read as the characters it was written for. -/
theorem readLiteral_writeEscaped (cs rest : List Char) (p : Position) :
    ∃ q, readLiteral (writeEscaped cs ('"' :: rest)) p = ⟨.ok cs, none, some ⟨rest, q⟩⟩ := by
  induction cs generalizing p with
  | nil => exact ⟨p.after '"', by rw [writeEscaped, readLiteral]⟩
  | cons c cs ih =>
    obtain ⟨q, hq⟩ := readLiteral_escaped c (writeEscaped cs ('"' :: rest)) p
    obtain ⟨r, hr⟩ := ih q
    exact ⟨r, by rw [writeEscaped, hq, hr]; rfl⟩

/-! ## Integers -/

/-- The text after a number: it neither goes on with the number nor gives it a fraction or
exponent. -/
def EndsNumber (rest : List Char) : Prop :=
  ∀ c ∈ rest.head?, c.isDigit = false ∧ c ≠ '.' ∧ c ≠ 'e' ∧ c ≠ 'E'

/-- The values of the digits of a number. -/
def digitValues (n : Nat) : List Nat := (decimalDigits n).map fun c => c.toNat - 48

theorem takeDigits_append {ds rest : List Char} (hds : ∀ c ∈ ds, c.isDigit = true)
    (hrest : EndsNumber rest) : takeDigits (ds ++ rest) = (ds.map fun c => c.toNat - 48, rest) := by
  induction ds with
  | nil =>
    cases rest with
    | nil => rfl
    | cons c rest => simp [takeDigits, (hrest c rfl).1]
  | cons c ds ih =>
    have hc := hds c List.mem_cons_self
    simp [takeDigits, hc, ih fun d hd => hds d (List.mem_cons_of_mem _ hd)]

theorem isDigit_of_mem_decimalDigits {n : Nat} {c : Char} (h : c ∈ decimalDigits n) :
    c.isDigit = true :=
  Nat.isDigit_of_mem_toDigits (by decide) (by decide) h

theorem takeDigits_decimalDigits (n : Nat) {rest : List Char} (hrest : EndsNumber rest) :
    takeDigits (decimalDigits n ++ rest) = (digitValues n, rest) :=
  takeDigits_append (fun _ => isDigit_of_mem_decimalDigits) hrest

theorem digitValues_of_lt {n : Nat} (h : n < 10) : digitValues n = [n] := by
  rw [digitValues, decimalDigits, Nat.toDigits_of_lt_base h, List.map_singleton,
    Nat.toNat_digitChar_sub_48_of_lt_ten h]

theorem digitValues_of_le {n : Nat} (h : 10 ≤ n) :
    digitValues n = digitValues (n / 10) ++ [n % 10] := by
  rw [digitValues, decimalDigits, Nat.toDigits_of_base_le (by decide) h, List.map_append,
    List.map_singleton, Nat.toNat_digitChar_sub_48_of_lt_ten (Nat.mod_lt n (by decide))]
  rfl

theorem digitValues_ne_nil (n : Nat) : digitValues n ≠ [] := by
  simp [digitValues, decimalDigits, Nat.toDigits_ne_nil]

/-- No number but zero is written with a zero in front. -/
theorem head_digitValues {n : Nat} (h : n ≠ 0) : (digitValues n).head? ≠ some 0 := by
  induction n using Nat.strongRecOn with
  | ind n ih =>
    by_cases hlt : n < 10
    · simpa [digitValues_of_lt hlt] using h
    · have hle : 10 ≤ n := Nat.le_of_not_lt hlt
      have hhead := ih (n / 10) (by omega) (by omega)
      obtain ⟨d, ds, hcons⟩ := List.exists_cons_of_ne_nil (digitValues_ne_nil (n / 10))
      rwa [digitValues_of_le hle, hcons, List.cons_append, List.head?_cons,
        ← List.head?_cons (l := ds),
        ← hcons]

theorem foldl_digitValues (n : Nat) : (digitValues n).foldl (fun n d => n * 10 + d) 0 = n := by
  rw [digitValues, List.foldl_map]
  have h := Nat.ofDigitChars_ten_toDigits (n := n)
  rw [Nat.ofDigitChars_eq_foldl] at h
  simpa [Nat.mul_comm, decimalDigits] using h

theorem le_foldl_digits (acc : Nat) (ds : List Nat) :
    acc ≤ ds.foldl (fun n d => n * 10 + d) acc := by
  induction ds generalizing acc with
  | nil => exact Nat.le_refl _
  | cons d rest ih => exact Nat.le_trans (by omega) (ih (acc * 10 + d))

theorem gather_of_le {limit acc : Nat} {ds : List Nat}
    (h : ds.foldl (fun n d => n * 10 + d) acc ≤ limit) :
    Numeral.gather limit acc ds = (ds.foldl (fun n d => n * 10 + d) acc, []) := by
  induction ds generalizing acc with
  | nil => rfl
  | cons d rest ih =>
    rw [Numeral.gather, if_pos (Nat.le_trans (le_foldl_digits _ rest) h), ih h, List.foldl_cons]

/-- The literal of an integer. -/
def Numeral.ofInt (n : Int) : Numeral := ⟨decide (n < 0), digitValues n.natAbs, [], none⟩

theorem value?_whole (negative : Bool) {n : Nat} (h : n ≤ Numeral.maxSignificand) :
    (⟨negative, digitValues n, [], none⟩ : Numeral).value? =
      if negative then
        if n = 0 ∨ Nat.pow 2 63 < n then some (.float (Binary64.ofNat n).neg) else some (.int (-n))
      else some (.int n) := by
  have hgather : Numeral.gather Numeral.maxSignificand 0 (digitValues n) = (n, []) := by
    rw [gather_of_le, foldl_digitValues]
    rwa [foldl_digitValues]
  rw [Numeral.value?,
    if_pos (show Numeral.isWhole ⟨negative, digitValues n, [], none⟩ = true from rfl)]
  simp only [hgather]

theorem value?_ofInt {n : Int} (hlow : -(Nat.pow 2 63 : Int) ≤ n)
    (hhigh : n < (Nat.pow 2 64 : Int)) :
    (Numeral.ofInt n).value? = some (.int n) := by
  simp only [Nat.pow_eq] at hlow hhigh
  have hmax : n.natAbs ≤ Numeral.maxSignificand := by
    simp only [Numeral.maxSignificand, Nat.pow_eq]
    omega
  rw [Numeral.ofInt, value?_whole _ hmax]
  by_cases h : n < 0
  · have hrange : ¬ (n.natAbs = 0 ∨ Nat.pow 2 63 < n.natAbs) := by
      simp only [Nat.pow_eq]
      omega
    rw [if_pos (decide_eq_true h), if_neg hrange, Int.ofNat_natAbs_of_nonpos (Int.le_of_lt h),
      Int.neg_neg]
  · rw [if_neg (by simpa using h), Int.natAbs_of_nonneg (Int.not_lt.mp h)]

theorem not_startsWith {rest : List Char} {c : Char} (h : ∀ d ∈ rest.head?, d ≠ c) (p : Position) :
    ¬ (⟨rest, p⟩ : Cursor).startsWith c = true := by
  cases rest with
  | nil => simp [Cursor.startsWith]
  | cons d rest => simpa [Cursor.startsWith] using h d rfl

theorem readNumber_decimalDigits (start : Place) (negative : Bool) (n : Nat) {rest : List Char}
    (hrest : EndsNumber rest) (p : Position) :
    ∃ q, readNumber start negative ⟨decimalDigits n ++ rest, p⟩ =
      (.numeral start ⟨negative, digitValues n, [], none⟩ (some q), some ⟨rest, q⟩) := by
  have hzero : ¬ ((digitValues n).head? = some 0 ∧ 1 < (digitValues n).length) := by
    rintro ⟨hhead, hlen⟩
    by_cases hn : n = 0
    · simp [hn, digitValues_of_lt] at hlen
    · exact head_digitValues hn hhead
  obtain ⟨d, ds, hcons⟩ := List.exists_cons_of_ne_nil (digitValues_ne_nil n)
  simp only [readNumber, takeDigits_decimalDigits n hrest, hcons] at hzero ⊢
  have hdot := not_startsWith (fun c hc => (hrest c hc).2.1)
  have he := not_startsWith (fun c hc => (hrest c hc).2.2.1)
  have hE := not_startsWith (fun c hc => (hrest c hc).2.2.2)
  rw [if_neg hzero, readFraction, Cursor.onward, if_neg (hdot _), readExponent,
    if_neg (by simp [he, hE])]
  exact ⟨_, rfl⟩

end ScriptBench
