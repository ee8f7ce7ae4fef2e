import ScriptBench.Proofs.Text.Bytes
import ScriptBench.Url.Form

/-!
Pairs are read out of a query as they were put in.

1. A name or a value is read as it was written, whatever its characters are (`decode_encode`), and
   what is written has neither separator in it (`ne_separator_of_mem_encode`).
2. A query with one more pair has the pairs it had, and then that one, wherever its separators stood
   (`decodePairs_appendPair`).
-/
namespace ScriptBench

namespace Percent

theorem digitValue?_digit : ∀ n < 16, digitValue? (digit n) = some n := by decide

theorem decode_escape (b : UInt8) (rest : List Char) :
    decode (escape b ++ rest) = b :: decode rest := by
  have hb : b.toNat < 256 := b.toNat_lt
  have hbyte : UInt8.ofNat (16 * (b.toNat / 16) + b.toNat % 16) = b := by
    rw [Nat.div_add_mod, UInt8.ofNat_toNat]
  simp only [escape, List.cons_append, List.nil_append, decode,
    digitValue?_digit _ (show b.toNat / 16 < 16 by omega),
    digitValue?_digit _ (show b.toNat % 16 < 16 by omega), hbyte]

theorem decode_flatMap_escape (bs : List UInt8) (rest : List Char) :
    decode (bs.flatMap escape ++ rest) = bs ++ decode rest := by
  induction bs with
  | nil => rfl
  | cons b bs ih => rw [List.flatMap_cons, List.append_assoc, decode_escape, ih, List.cons_append]

theorem decode_cons_of_ne {c : Char} (h : c ≠ '%') (rest : List Char) :
    decode (c :: rest) = String.utf8EncodeChar c ++ decode rest := by
  rw [decode.eq_def]
  split
  · rename_i heq
    cases heq
  · rename_i heq
    exact absurd (List.cons.inj heq).1 h
  · rename_i heq
    cases heq
    rfl

end Percent

namespace Form

/-! ## Characters -/

/-- A blank in the place of a plus sign, as names and values are read. -/
def unplus (c : Char) : Char := if c = '+' then ' ' else c

/-- Characters a name or a value is written with. -/
def IsWritten (c : Char) : Prop := isPlain c = true ∨ c = '+' ∨ c = '%'

theorem isPlain_digit : ∀ n < 16, isPlain (Percent.digit n) = true := by decide

theorem mem_escape {b : UInt8} {c : Char} (h : c ∈ Percent.escape b) :
    isPlain c = true ∨ c = '%' := by
  have hb : b.toNat < 256 := b.toNat_lt
  simp only [Percent.escape, List.mem_cons, List.not_mem_nil, or_false] at h
  obtain rfl | rfl | rfl := h
  · exact .inr rfl
  · exact .inl (isPlain_digit _ (by omega))
  · exact .inl (isPlain_digit _ (by omega))

theorem isWritten_of_mem_encode {s : String} {c : Char} (h : c ∈ encode s) : IsWritten c := by
  obtain ⟨d, -, hd⟩ := List.mem_flatMap.mp h
  unfold encodeChar at hd
  split at hd
  · exact .inr (.inl (List.mem_singleton.mp hd))
  · split at hd
    · rename_i hplain
      exact .inl (List.mem_singleton.mp hd ▸ hplain)
    · obtain ⟨b, -, hb⟩ := List.mem_flatMap.mp hd
      exact (mem_escape hb).imp_right .inr

/-- A character that a name or a value is written with is no separator. -/
theorem ne_separator_of_mem_encode {s : String} {c : Char} (h : c ∈ encode s) :
    c ≠ '&' ∧ c ≠ '=' := by
  obtain h | rfl | rfl := isWritten_of_mem_encode h
  · refine ⟨?_, ?_⟩ <;> rintro rfl <;> exact absurd h (by decide)
  · decide
  · decide

theorem ne_of_isPlain {c : Char} (h : isPlain c = true) : c ≠ '+' ∧ c ≠ '%' := by
  refine ⟨?_, ?_⟩ <;> rintro rfl <;> exact absurd h (by decide)

theorem lt_of_isPlain {c : Char} (h : isPlain c = true) : c.toNat < 128 := by
  have hcode : ∀ d e : Char, d ≤ e ↔ d.toNat ≤ e.toNat := fun _ _ => Iff.rfl
  simp only [isPlain, Bool.or_eq_true, Bool.and_eq_true, decide_eq_true_eq, beq_iff_eq, hcode] at h
  obtain ((((((⟨-, h⟩ | ⟨-, h⟩) | ⟨-, h⟩) | rfl) | rfl) | rfl) | rfl) := h
  any_goals decide
  all_goals exact Nat.lt_of_le_of_lt h (by decide)

theorem unplus_escape (b : UInt8) : (Percent.escape b).map unplus = Percent.escape b := by
  have hsame : ∀ c ∈ Percent.escape b, unplus c = id c := by
    intro c hc
    refine if_neg ?_
    rintro rfl
    exact absurd (mem_escape hc) (by decide)
  rw [List.map_congr_left hsame, List.map_id]

theorem decode_encodeChar (c : Char) (rest : List Char) :
    Percent.decode ((encodeChar c).map unplus ++ rest) = String.utf8EncodeChar c ++
      Percent.decode rest := by
  unfold encodeChar
  split
  · rename_i hblank
    subst hblank
    exact Percent.decode_cons_of_ne (by decide) rest
  · split
    · rename_i hplain
      obtain ⟨hplus, hpercent⟩ := ne_of_isPlain hplain
      rw [List.map_singleton, unplus, if_neg hplus]
      exact Percent.decode_cons_of_ne hpercent rest
    · rw [List.map_flatMap, funext unplus_escape, Percent.decode_flatMap_escape]

/-- A name or a value is read as it was written. -/
theorem decode_encode (s : String) : decode (encode s) = s := by
  have hbytes : ∀ cs : List Char, Percent.decode ((cs.flatMap encodeChar).map unplus) =
      Utf8.encode cs := by
    intro cs
    induction cs with
    | nil => rfl
    | cons c cs ih => rw [List.flatMap_cons, List.map_append, decode_encodeChar, ih]; rfl
  calc decode (encode s)
      = String.ofList (Utf8.decode (Percent.decode ((s.toList.flatMap encodeChar).map unplus))) :=
        rfl
    _ = String.ofList (Utf8.decode (Utf8.encode s.toList)) := by rw [hbytes]
    _ = s := by rw [Utf8.decode_encode, String.ofList_toList]

/-! ## Parts between separators -/

variable {separator : Char}

theorem split_ne_nil (separator : Char) (cs : List Char) : split separator cs ≠ [] := by
  cases cs with
  | nil => simp [split]
  | cons c cs =>
    rw [split]
    split
    · exact List.cons_ne_nil _ _
    · split <;> exact List.cons_ne_nil _ _

/-- A separator parts what stands before it from what stands behind it. -/
theorem split_append (cs rest : List Char) :
    split separator (cs ++ separator :: rest) = split separator cs ++ split separator rest := by
  induction cs with
  | nil => simp [split]
  | cons c cs ih =>
    rw [List.cons_append, split, split, ih]
    split
    · rfl
    · obtain ⟨part, parts, hparts⟩ := List.exists_cons_of_ne_nil (split_ne_nil separator cs)
      rw [hparts]
      rfl

theorem split_of_not_mem {cs : List Char} (h : separator ∉ cs) : split separator cs = [cs] := by
  induction cs with
  | nil => rfl
  | cons c cs ih =>
    rw [List.mem_cons, not_or] at h
    rw [split, if_neg (Ne.symm h.1), ih h.2]

/-! ## Pairs -/

theorem decodePairs_append (query rest : List Char) :
    decodePairs (query ++ '&' :: rest) = decodePairs query ++ decodePairs rest := by
  rw [decodePairs, split_append, List.filter_append, List.map_append]
  rfl

theorem decodePairs_encodePair (name value : String) :
    decodePairs (encodePair name value) = [(name, value)] := by
  have hname : ∀ c ∈ encode name, (c != '=') = true := fun c hc =>
    bne_iff_ne.mpr (ne_separator_of_mem_encode hc).2
  have hwhole : '&' ∉ encodePair name value := by
    rw [encodePair, List.mem_append, List.mem_cons]
    rintro (h | h | h)
    · exact (ne_separator_of_mem_encode h).1 rfl
    · exact absurd h (by decide)
    · exact (ne_separator_of_mem_encode h).1 rfl
  have hpair : decodePair (encodePair name value) = (name, value) := by
    rw [decodePair, encodePair, List.takeWhile_append_of_pos hname,
      List.dropWhile_append_of_pos hname]
    simp [decode_encode]
  have hne : (encodePair name value).isEmpty = false := by simp [encodePair]
  rw [decodePairs, split_of_not_mem hwhole]
  simp [hne, hpair]

/-- A query with one more pair has the pairs it had, and then that one. -/
theorem decodePairs_appendPair (query : List Char) (name value : String) :
    decodePairs (appendPair query name value) = decodePairs query ++ [(name, value)] := by
  rw [appendPair]
  split
  · rename_i hempty
    rw [List.isEmpty_iff.mp hempty, decodePairs_encodePair]
    rfl
  · rw [decodePairs_append, decodePairs_encodePair]

/-- A query with more pairs has the pairs it had, and then those. -/
theorem decodePairs_appendPairs (query : List Char) (pairs : List (String × String)) :
    decodePairs (pairs.foldl (fun q (name, value) => appendPair q name value) query) =
      decodePairs query ++ pairs := by
  induction pairs generalizing query with
  | nil => exact (List.append_nil _).symm
  | cons p rest ih => rw [List.foldl_cons, ih, decodePairs_appendPair, List.append_assoc]; rfl

end Form

end ScriptBench
