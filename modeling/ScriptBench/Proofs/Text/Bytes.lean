import ScriptBench.Text.Utf8

/-!
The bytes of a text are read as that text.

1. Each character is read back from its one to four bytes, whatever follows them
   (`decodeFrom_char`).
2. So a whole text is (`decode_encode`).
3. A character of ASCII is one byte (`encodeChar_ascii`), and the bytes of any other lie beyond
   ASCII (`le_of_mem_encodeChar`).
-/
namespace ScriptBench.Utf8

variable {b : UInt8} {rest : List UInt8} {p : Partial}

/-! ## One byte -/

theorem decodeFrom_whole {c : Char} (h : start b.toNat = .whole c) :
    decodeFrom none (b :: rest) = c :: decodeFrom none rest := by
  simp only [decodeFrom, h, List.nil_append]

theorem decodeFrom_begun (h : start b.toNat = .begun p) :
    decodeFrom none (b :: rest) = decodeFrom (some p) rest := by
  simp only [decodeFrom, h, List.nil_append]

variable {missing low high value : Nat}

theorem decodeFrom_more (hlow : low ≤ b.toNat) (hhigh : b.toNat ≤ high) :
    decodeFrom (some ⟨missing + 2, low, high, value⟩) (b :: rest) =
      decodeFrom (some ⟨missing + 1, 0x80, 0xBF, value * 64 + (b.toNat - 0x80)⟩) rest := by
  rw [decodeFrom]
  simp [hlow, hhigh]

theorem decodeFrom_last (hlow : low ≤ b.toNat) (hhigh : b.toNat ≤ high) :
    decodeFrom (some ⟨1, low, high, value⟩) (b :: rest) =
      Char.ofNat (value * 64 + (b.toNat - 0x80)) :: decodeFrom none rest := by
  rw [decodeFrom]
  simp [hlow, hhigh]

/-! ## First bytes -/

theorem start_one {b : Nat} (h : b ≤ 0x7F) : start b = .whole (Char.ofNat b) := by
  rw [start, if_pos (by omega)]

theorem start_two {b : Nat} (hlow : 0xC2 ≤ b) (hhigh : b ≤ 0xDF) :
    start b = .begun ⟨1, 0x80, 0xBF, b - 0xC0⟩ := by
  rw [start, if_neg (by omega), if_neg (by omega), if_pos (by omega)]

theorem start_three {b : Nat} (hlow : 0xE0 ≤ b) (hhigh : b ≤ 0xEF) :
    start b =
      .begun ⟨2, if b = 0xE0 then 0xA0 else 0x80, if b = 0xED then 0x9F else 0xBF, b - 0xE0⟩ := by
  rw [start, if_neg (by omega), if_neg (by omega), if_neg (by omega), if_pos (by omega)]

theorem start_four {b : Nat} (hlow : 0xF0 ≤ b) (hhigh : b ≤ 0xF4) :
    start b =
      .begun ⟨3, if b = 0xF0 then 0x90 else 0x80, if b = 0xF4 then 0x8F else 0xBF, b - 0xF0⟩ := by
  rw [start, if_neg (by omega), if_neg (by omega), if_neg (by omega), if_neg (by omega),
    if_pos (by omega)]

/-! ## Characters -/

theorem toNat_ofNat {n : Nat} (h : n < 256) : (UInt8.ofNat n).toNat = n :=
  UInt8.toNat_ofNat_of_lt h

/-- The bytes of a character are read as that character. -/
theorem decodeFrom_char (c : Char) (rest : List UInt8) :
    decodeFrom none (String.utf8EncodeChar c ++ rest) = c :: decodeFrom none rest := by
  have hvalid : c.val.toNat < 0xD800 ∨ 0xDFFF < c.val.toNat ∧ c.val.toNat < 0x110000 := c.valid
  have hself : ∀ n, n = c.val.toNat → Char.ofNat n = c := by
    rintro _ rfl
    exact Char.ofNat_toNat c
  fun_cases String.utf8EncodeChar with
  | case1 v hone =>
    have hbyte : (UInt8.ofNat v).toNat = v := toNat_ofNat (by omega)
    rw [List.cons_append, List.nil_append, decodeFrom_whole (start_one (by omega)),
      hbyte, hself v rfl]
  | case2 v hone htwo =>
    have hfirst : (UInt8.ofNat (v / 64 % 32 + 0xC0)).toNat = v / 64 + 0xC0 := by
      rw [toNat_ofNat (by omega)]
      omega
    have hlast : (UInt8.ofNat (v % 64 + 0x80)).toNat = v % 64 + 0x80 := toNat_ofNat (by omega)
    rw [List.cons_append, List.cons_append, List.nil_append,
      decodeFrom_begun (start_two (by omega) (by omega)),
      decodeFrom_last (by omega) (by omega), hfirst, hlast, hself]
    omega
  | case3 v hone htwo hthree =>
    have hfirst : (UInt8.ofNat (v / 4096 % 16 + 0xE0)).toNat = v / 4096 + 0xE0 := by
      rw [toNat_ofNat (by omega)]
      omega
    have hsecond : (UInt8.ofNat (v / 64 % 64 + 0x80)).toNat = v / 64 % 64 + 0x80 :=
      toNat_ofNat (by omega)
    have hlast : (UInt8.ofNat (v % 64 + 0x80)).toNat = v % 64 + 0x80 := toNat_ofNat (by omega)
    rw [List.cons_append, List.cons_append, List.cons_append, List.nil_append,
      decodeFrom_begun (start_three (by omega) (by omega)),
      decodeFrom_more (by split <;> omega) (by split <;> omega),
      decodeFrom_last (by omega) (by omega), hfirst, hsecond, hlast, hself]
    omega
  | case4 v hone htwo hthree =>
    have hfirst : (UInt8.ofNat (v / 262144 % 8 + 0xF0)).toNat = v / 262144 + 0xF0 := by
      rw [toNat_ofNat (by omega)]
      omega
    have hsecond : (UInt8.ofNat (v / 4096 % 64 + 0x80)).toNat = v / 4096 % 64 + 0x80 :=
      toNat_ofNat (by omega)
    have hthird : (UInt8.ofNat (v / 64 % 64 + 0x80)).toNat = v / 64 % 64 + 0x80 :=
      toNat_ofNat (by omega)
    have hlast : (UInt8.ofNat (v % 64 + 0x80)).toNat = v % 64 + 0x80 := toNat_ofNat (by omega)
    rw [List.cons_append, List.cons_append, List.cons_append, List.cons_append, List.nil_append,
      decodeFrom_begun (start_four (by omega) (by omega)),
      decodeFrom_more (by split <;> omega) (by split <;> omega),
      decodeFrom_more (by omega) (by omega),
      decodeFrom_last (by omega) (by omega), hfirst, hsecond, hthird, hlast, hself]
    omega

/-- The bytes of a text are read as that text. -/
theorem decode_encode (cs : List Char) : decode (encode cs) = cs := by
  rw [decode]
  induction cs with
  | nil => rfl
  | cons c cs ih =>
    have hbytes : encode (c :: cs) = String.utf8EncodeChar c ++ encode cs := List.flatMap_cons
    rw [hbytes, decodeFrom_char, ih]

/-! ## ASCII -/

theorem encodeChar_ascii {c : Char} (h : c.toNat < 128) :
    String.utf8EncodeChar c = [UInt8.ofNat c.toNat] := by
  have hsmall : c.val.toNat ≤ 0x7F := Nat.le_of_lt_succ h
  fun_cases String.utf8EncodeChar with
  | case1 v hone => rfl
  | case2 v hone htwo => omega
  | case3 v hone htwo hthree => omega
  | case4 v hone htwo hthree => omega

/-- No byte of a character beyond ASCII is one of ASCII. -/
theorem le_of_mem_encodeChar {c : Char} (h : 128 ≤ c.toNat) :
    ∀ b ∈ String.utf8EncodeChar c, 128 ≤ b.toNat := by
  have hlarge : 0x7F < c.val.toNat := h
  have hbyte : ∀ n, 128 ≤ n → n < 256 → 128 ≤ (UInt8.ofNat n).toNat := by
    intro n hlow hhigh
    rw [toNat_ofNat hhigh]
    exact hlow
  fun_cases String.utf8EncodeChar with
  | case1 v hone => omega
  | case2 v hone htwo =>
    simp only [List.forall_mem_cons]
    exact ⟨hbyte _ (by omega) (by omega), hbyte _ (by omega) (by omega), nofun⟩
  | case3 v hone htwo hthree =>
    simp only [List.forall_mem_cons]
    exact ⟨hbyte _ (by omega) (by omega), hbyte _ (by omega) (by omega),
      hbyte _ (by omega) (by omega), nofun⟩
  | case4 v hone htwo hthree =>
    simp only [List.forall_mem_cons]
    exact ⟨hbyte _ (by omega) (by omega), hbyte _ (by omega) (by omega),
      hbyte _ (by omega) (by omega),
      hbyte _ (by omega) (by omega), nofun⟩

theorem encodeChar_ne_nil (c : Char) : String.utf8EncodeChar c ≠ [] := by
  fun_cases String.utf8EncodeChar <;> exact List.cons_ne_nil _ _

theorem length_encode {cs : List Char} (h : ∀ c ∈ cs, c.toNat < 128) :
    (encode cs).length = cs.length := by
  induction cs with
  | nil => rfl
  | cons c cs ih =>
    have hbytes : encode (c :: cs) = String.utf8EncodeChar c ++ encode cs := List.flatMap_cons
    have hrest := ih fun x hx => h x (List.mem_cons_of_mem _ hx)
    rw [hbytes, encodeChar_ascii (h c List.mem_cons_self), List.length_append, hrest]
    simp only [List.length_cons, List.length_nil]
    omega

end ScriptBench.Utf8
