import ScriptBench.Proofs.Json.ReadBack
import ScriptBench.Proofs.Script.Stages

/-!
Which titles name a test block.

A title is a string of 16-bit units. It goes to the host as JSON text, in which a surrogate that
stands alone is written as an escape of its own.

1. A string in which no surrogate stands alone is read as itself (`parse_argument`).
2. A surrogate that stands alone cannot be read, whatever stands before and behind it
   (`readLiteral_lone`).
3. So a title names a block iff no surrogate stands alone in it, and the name is the title
   (`names_iff`).
-/
namespace ScriptBench

open Json Text16

/-! ## Points -/

/-- How a character, or a surrogate that stands alone, is written between quotes. -/
def Text16.written : Except UInt16 Char → List Char
  | .ok c => escaped c
  | .error u => Value.unitEscape u

theorem quoted_eq (t : Text16) :
    Value.quoted t = '"' :: ((points t.units).flatMap written ++ ['"']) := by
  have hwritten : (fun x : Except UInt16 Char => match x with
      | .ok c => escaped c
      | .error u => Value.unitEscape u) = written := by
    funext x
    cases x <;> rfl
  rw [← hwritten]
  rfl

theorem argumentText_string (t : Text16) : Value.argumentText [.string t] =
    String.ofList ('[' :: '"' :: ((points t.units).flatMap written ++ ['"', ']'])) := by
  show String.ofList ('[' :: Value.quoted t ++ [']']) = _
  rw [quoted_eq]
  simp

theorem mapM_toOption (ps : List (Except UInt16 Char)) :
    (∃ cs, ps.mapM Except.toOption = some cs ∧ ps = cs.map .ok) ∨
      ps.mapM Except.toOption = none ∧ ∃ u, .error u ∈ ps := by
  induction ps with
  | nil => exact .inl ⟨[], rfl, rfl⟩
  | cons x rest ih =>
    rw [List.mapM_cons]
    cases x with
    | error u => exact .inr ⟨rfl, u, List.mem_cons_self⟩
    | ok c =>
      obtain ⟨cs, hcs, hrest⟩ | ⟨hnone, u, hu⟩ := ih
      · refine .inl ⟨c :: cs, ?_, congrArg (List.cons _) hrest⟩
        rw [hcs]
        rfl
      · refine .inr ⟨?_, u, List.mem_cons_of_mem _ hu⟩
        rw [hnone]
        rfl

/-- A string is its characters if no surrogate stands alone in it. -/
theorem points_of_some {t : Text16} {s : String} (h : t.toString? = some s) :
    points t.units = s.toList.map .ok := by
  obtain ⟨cs, hcs, rfl⟩ := Option.map_eq_some_iff.mp h
  obtain ⟨cs', hcs', hpoints⟩ | ⟨hnone, -⟩ := mapM_toOption (points t.units)
  · rw [hcs] at hcs'
    cases hcs'
    rw [hpoints, String.toList_ofList]
  · rw [hcs] at hnone
    cases hnone

theorem lone_of_none {t : Text16} (h : t.toString? = none) : ∃ u, .error u ∈ points t.units := by
  obtain ⟨cs, hcs, -⟩ | ⟨-, hlone⟩ := mapM_toOption (points t.units)
  · rw [Text16.toString?, hcs] at h
    cases h
  · exact hlone

theorem points_char (c : Char) (rest : List UInt16) :
    points (unitsOfChar c ++ rest) = .ok c :: points rest := by
  have hvalid : c.toNat < 0xD800 ∨ 0xDFFF < c.toNat ∧ c.toNat < 0x110000 := c.valid
  have hself : Char.ofNat c.toNat = c := Char.ofNat_toNat c
  unfold unitsOfChar
  dsimp only
  split
  · -- A unit by itself is no half of a pair, since no character is one.
    rename_i hsmall
    have hunit : c.toNat.toUInt16.toNat = c.toNat := UInt16.toNat_ofNat_of_lt' hsmall
    have hlead : isLead c.toNat.toUInt16 = false := by
      simp only [isLead, UInt16.le_iff_toNat_le, hunit, Bool.and_eq_false_iff,
        decide_eq_false_iff_not]
      show ¬ 0xD800 ≤ c.toNat ∨ ¬ c.toNat ≤ 0xDBFF
      omega
    have htrail : isTrail c.toNat.toUInt16 = false := by
      simp only [isTrail, UInt16.le_iff_toNat_le, hunit, Bool.and_eq_false_iff,
        decide_eq_false_iff_not]
      show ¬ 0xDC00 ≤ c.toNat ∨ ¬ c.toNat ≤ 0xDFFF
      omega
    cases rest <;> simp [points, hlead, htrail, hunit, hself]
  · -- The halves of a pair lie in their ranges, and together they give the number back.
    rename_i hlarge
    have hleadNat : (0xD800 + (c.toNat - 0x10000) / 0x400).toUInt16.toNat =
        0xD800 + (c.toNat - 0x10000) / 0x400 :=
      UInt16.toNat_ofNat_of_lt' (show _ < 0x10000 by omega)
    have htrailNat : (0xDC00 + (c.toNat - 0x10000) % 0x400).toUInt16.toNat =
        0xDC00 + (c.toNat - 0x10000) % 0x400 :=
      UInt16.toNat_ofNat_of_lt' (show _ < 0x10000 by omega)
    have hpair : (isLead (0xD800 + (c.toNat - 0x10000) / 0x400).toUInt16 &&
        isTrail (0xDC00 + (c.toNat - 0x10000) % 0x400).toUInt16) = true := by
      simp only [isLead, isTrail, UInt16.le_iff_toNat_le, hleadNat, htrailNat, Bool.and_eq_true,
        decide_eq_true_eq]
      show (0xD800 ≤ _ ∧ _ ≤ 0xDBFF) ∧ (0xDC00 ≤ _ ∧ _ ≤ 0xDFFF)
      omega
    have hchar : pair (0xD800 + (c.toNat - 0x10000) / 0x400).toUInt16
        (0xDC00 + (c.toNat - 0x10000) % 0x400).toUInt16 = c := by
      have hnat : 0x10000 + (0xD800 + (c.toNat - 0x10000) / 0x400 - 0xD800) * 0x400 +
          (0xDC00 + (c.toNat - 0x10000) % 0x400 - 0xDC00) = c.toNat := by omega
      rw [pair, hleadNat, htrailNat, hnat, hself]
    simp only [List.cons_append, List.nil_append, points, hpair, if_true, hchar]

theorem points_chars (cs : List Char) : points (cs.flatMap unitsOfChar) = cs.map .ok := by
  induction cs with
  | nil => rfl
  | cons c cs ih => rw [List.flatMap_cons, points_char, ih, List.map_cons]

theorem Text16.ofString_append (a b : String) :
    Text16.ofString (a ++ b) = Text16.ofString a ++ Text16.ofString b := by
  show Text16.mk ((a ++ b).toList.flatMap unitsOfChar) = _
  rw [String.toList_append, List.flatMap_append]
  rfl

theorem Text16.toString?_ofString (s : String) : (Text16.ofString s).toString? = some s := by
  have hpoints : points (Text16.ofString s).units = s.toList.map .ok := points_chars s.toList
  obtain ⟨cs, hcs, heq⟩ | ⟨-, u, hu⟩ := mapM_toOption (s.toList.map .ok)
  · have hsame : s.toList = cs := List.map_injective_iff.mpr (fun _ _ => Except.ok.inj) heq
    rw [Text16.toString?, hpoints, hcs, ← hsame, Option.map_some, String.ofList_toList]
  · obtain ⟨c, -, hc⟩ := List.mem_map.mp hu
    cases hc

/-! ## Titles without lone surrogates -/

theorem writeEscaped_eq (cs rest : List Char) :
    writeEscaped cs rest = cs.flatMap escaped ++ rest := by
  induction cs with
  | nil => rfl
  | cons c cs ih => rw [writeEscaped, ih, List.flatMap_cons, List.append_assoc]

theorem parse_argument {t : Text16} {s : String} (h : t.toString? = some s) :
    Json.parse (Value.argumentText [.string t]) = .ok (.arr [.str s]) := by
  have htext : Value.argumentText [.string t] = Json.text (.arr [.str s]) := by
    rw [argumentText_string, points_of_some h, List.flatMap_map]
    show _ = String.ofList ('[' :: '"' :: writeEscaped s.toList ['"', ']'])
    rw [writeEscaped_eq]
    rfl
  have hplain : (Json.arr [.str s]).Plain := ⟨trivial, trivial⟩
  rw [htext, parse_text hplain (show 1 ≤ maxNesting by decide)]
  rfl

/-! ## Lone surrogates -/

theorem hexQuad?_unitEscape (u : UInt16) :
    hexQuad? (hexDigit (u.toNat / 4096)) (hexDigit (u.toNat / 256 % 16))
      (hexDigit (u.toNat / 16 % 16)) (hexDigit (u.toNat % 16)) = some u.toNat := by
  have hlt : u.toNat < 65536 := u.toNat_lt
  simp only [hexQuad?, hexValue?_hexDigit (u.toNat / 4096) (by omega),
    hexValue?_hexDigit (u.toNat / 256 % 16) (by omega),
    hexValue?_hexDigit (u.toNat / 16 % 16) (by omega), hexValue?_hexDigit (u.toNat % 16) (by omega),
    Option.some.injEq]
  omega

/-- What follows does not go on with the trailing half of a pair. -/
def NoTrail (rest : List Char) : Prop :=
  ∀ e f g h more, rest = '\\' :: 'u' :: e :: f :: g :: h :: more → ∀ m, hexQuad? e f g h = some m →
    isTrailSurrogate m = false

/-- An escape of a surrogate that stands alone spoils the literal. -/
theorem readLiteral_lone {a b c d : Char} {n : Nat} (hquad : hexQuad? a b c d = some n)
    (hlone : isTrailSurrogate n = true ∨ isLeadSurrogate n = true) {rest : List Char}
    (hrest : isLeadSurrogate n = true → NoTrail rest) (p : Position) :
    ∃ fault, (readLiteral ('\\' :: 'u' :: a :: b :: c :: d :: rest) p).wanted = .error fault := by
  by_cases hescape : ∃ e f g h more, rest = '\\' :: 'u' :: e :: f :: g :: h :: more
  · obtain ⟨e, f, g, h, more, rfl⟩ := hescape
    rw [readLiteral]
    simp only [hquad]
    by_cases htrail : isTrailSurrogate n = true
    · rw [if_pos htrail]
      exact ⟨_, rfl⟩
    have hlead := hlone.resolve_left htrail
    rw [if_neg htrail, if_pos hlead]
    cases hnext : hexQuad? e f g h with
    | none => exact ⟨_, rfl⟩
    | some m =>
      have hm : isTrailSurrogate m = false := hrest hlead e f g h more rfl m hnext
      simp only [hm]
      exact ⟨_, rfl⟩
  · rw [readLiteral]
    · simp only [hquad]
      by_cases htrail : isTrailSurrogate n = true
      · rw [if_pos htrail]
        exact ⟨_, rfl⟩
      rw [if_neg htrail, if_pos (hlone.resolve_left htrail)]
      exact ⟨_, rfl⟩
    · intro e f g h more hmore
      exact hescape ⟨e, f, g, h, more, hmore⟩

theorem isTrailSurrogate_toNat (u : UInt16) : isTrailSurrogate u.toNat = isTrail u := by
  simp [isTrailSurrogate, isTrail, UInt16.le_iff_toNat_le]

theorem isLeadSurrogate_toNat (u : UInt16) : isLeadSurrogate u.toNat = isLead u := by
  simp [isLeadSurrogate, isLead, UInt16.le_iff_toNat_le]

/-- A written character is never the trailing half of a pair. -/
theorem noTrail_escaped (c : Char) (more : List Char) : NoTrail (escaped c ++ more) := by
  intro e f g h rest heq m hm
  unfold escaped at heq
  split at heq
  · cases heq
  split at heq
  · cases heq
  split at heq
  · cases heq
  split at heq
  · cases heq
  split at heq
  · cases heq
  split at heq
  · cases heq
  split at heq
  · cases heq
  split at heq
  · rename_i hcontrol
    cases heq
    rw [hexQuad?_control hcontrol] at hm
    cases hm
    simp [isTrailSurrogate]
    omega
  · rename_i hslash _ _ _ _ _ _
    injection heq with hc _
    exact absurd hc hslash

/-- A string starts with a character, or with a surrogate that stands alone. -/
theorem points_cons (u : UInt16) (rest : List UInt16) :
    (∃ c behind, points (u :: rest) = .ok c :: points behind ∧ behind.length ≤ rest.length) ∨
      points (u :: rest) = .error u :: points rest ∧ (isLead u = true ∨ isTrail u = true) ∧
        (isLead u = true → ∀ v ∈ rest.head?, isTrail v = false) := by
  cases rest with
  | nil =>
    cases hlone : isLead u || isTrail u with
    | false =>
      refine .inl ⟨Char.ofNat u.toNat, [], ?_, Nat.le_refl _⟩
      simp [points, hlone]
    | true =>
      refine .inr ⟨?_, by simpa using hlone, fun _ v hv => by cases hv⟩
      simp [points, hlone]
  | cons v rest =>
    cases hpair : isLead u && isTrail v with
    | true => exact .inl ⟨pair u v, rest, by rw [points, hpair]; rfl, Nat.le_succ _⟩
    | false =>
      cases hlone : isLead u || isTrail u with
      | false =>
        exact .inl ⟨Char.ofNat u.toNat, v :: rest, by rw [points, hpair, hlone]; rfl, Nat.le_refl _⟩
      | true =>
        refine .inr ⟨by rw [points, hpair, hlone]; rfl, by simpa using hlone, fun hlead w hw => ?_⟩
        cases hw
        simpa [hlead] using hpair

/-- What is written of a string goes on with the trailing half of a pair only if the string starts
with one. -/
theorem noTrail_points {us : List UInt16} (hhead : ∀ v ∈ us.head?, isTrail v = false)
    (more : List Char) :
    NoTrail ((points us).flatMap written ++ '"' :: more) := by
  cases us with
  | nil =>
    intro e f g h rest heq
    cases heq
  | cons v rest =>
    obtain ⟨c, behind, hpoints, -⟩ | ⟨hpoints, -, -⟩ := points_cons v rest
    · rw [hpoints, List.flatMap_cons, List.append_assoc]
      exact noTrail_escaped c _
    · intro e f g h rest' heq m hm
      rw [hpoints, List.flatMap_cons, List.append_assoc] at heq
      cases heq
      rw [hexQuad?_unitEscape] at hm
      cases hm
      rw [isTrailSurrogate_toNat]
      exact hhead v rfl

/-- A surrogate that stands alone cannot be read. -/
theorem readLiteral_unit {u : UInt16} (hlone : isLead u = true ∨ isTrail u = true)
    {rest : List Char} (hrest : isLead u = true → NoTrail rest) (p : Position) :
    ∃ fault, (readLiteral (Value.unitEscape u ++ rest) p).wanted = .error fault := by
  refine readLiteral_lone (hexQuad?_unitEscape u) ?_ (fun hlead => hrest ?_) p
  · rw [isTrailSurrogate_toNat, isLeadSurrogate_toNat]
    exact hlone.symm
  · rw [isLeadSurrogate_toNat] at hlead
    exact hlead

/-- Behind a character that can be read, a literal that cannot be read stays so. -/
theorem readLiteral_behind {c : Char} {rest : List Char}
    (h : ∀ p, ∃ fault, (readLiteral rest p).wanted = .error fault) (p : Position) :
    ∃ fault, (readLiteral (escaped c ++ rest) p).wanted = .error fault := by
  obtain ⟨q, hq⟩ := readLiteral_escaped c rest p
  obtain ⟨fault, hfault⟩ := h q
  refine ⟨fault, ?_⟩
  rw [hq, Literal.push, hfault]
  rfl

/-- A string in which a surrogate stands alone cannot be read back. -/
theorem readLiteral_points (us : List UInt16) (h : ∃ u, .error u ∈ points us) (more : List Char)
    (p : Position) :
    ∃ fault, (readLiteral ((points us).flatMap written ++ '"' :: more) p).wanted =
      .error fault := by
  match us with
  | [] =>
    obtain ⟨u, hu⟩ := h
    cases hu
  | u :: rest =>
    obtain ⟨c, behind, hpoints, hshorter⟩ | ⟨hpoints, hlone, hnext⟩ := points_cons u rest
    · rw [hpoints, List.flatMap_cons, List.append_assoc]
      have hbehind : ∃ v, .error v ∈ points behind := by
        obtain ⟨v, hv⟩ := h
        rw [hpoints] at hv
        exact ⟨v, (List.mem_cons.mp hv).resolve_left nofun⟩
      exact readLiteral_behind (fun q => readLiteral_points behind hbehind more q) p
    · rw [hpoints, List.flatMap_cons, List.append_assoc]
      exact readLiteral_unit hlone (fun hlead => noTrail_points (hnext hlead) more) p
termination_by us.length

/-! ## Names -/

theorem readItems_broken {inside : List Char}
    (h : ∀ p, ∃ fault, (readLiteral inside p).wanted = .error fault) (fuel : Nat) (p : Position) :
    ∃ start fault skipped rest,
      (readItems (fuel + 3) true ⟨'"' :: inside, p⟩).1 =
        .item (.broken start fault skipped) rest := by
  obtain ⟨fault, hfault⟩ := h (p.after '"')
  have hnode : readNode (fuel + 1) ⟨'"' :: inside, p⟩ =
      (.broken (some p) fault (readLiteral inside (p.after '"')).skipped,
          (readLiteral inside (p.after '"')).rest) := by
    rw [readNode, skipBlanks_cons (by decide)]
    simp [Cursor.next, literalNode, hfault]
  have hitems : readItems (fuel + 3) true ⟨'"' :: inside, p⟩ =
      readItem (fuel + 2) ⟨'"' :: inside, p⟩ := by
    simp [readItems, skipBlanks_cons (c := '"') (by decide)]
  rw [hitems, readItem, hnode]
  cases (readLiteral inside (p.after '"')).rest with
  | none => exact ⟨_, _, _, _, rfl⟩
  | some c => exact ⟨_, _, _, _, rfl⟩

theorem parse_lone {t : Text16} (h : t.toString? = none) :
    ∃ fault, Json.parse (Value.argumentText [.string t]) = .error fault := by
  rw [argumentText_string]
  generalize hinside : (points t.units).flatMap written ++ ['"', ']'] = inside
  have hunread : ∀ p, ∃ fault, (readLiteral inside p).wanted = .error fault := by
    rw [← hinside]
    exact readLiteral_points t.units (lone_of_none h) [']']
  obtain ⟨start, fault, skipped, rest, hitems⟩ :=
    readItems_broken hunread (4 * inside.length + 8) (Position.start.after '[')
  refine ⟨fault, ?_⟩
  have hroot : (Document.read (String.ofList ('[' :: '"' :: inside))).root =
      .array (some .start) (.item (.broken start fault skipped) rest) := by
    have hfuel : 4 * ('[' :: '"' :: inside).length + 4 = (4 * inside.length + 8 + 3) + 1 := by
      simp only [List.length_cons]
      omega
    rw [Document.read, String.toList_ofList, hfuel, readNode_array, hitems]
    generalize (readItems _ true _).2 = behind
    cases behind <;> rfl
  rw [Json.parse, Document.readAs, hroot]
  rfl

/-- A title names a block iff no surrogate stands alone in it, and the name is the title. -/
theorem names_iff {t : Text16} {name : String} :
    Names (Value.argumentText [.string t]) name ↔ t.toString? = some name := by
  cases htext : t.toString? with
  | none =>
    obtain ⟨fault, hfault⟩ := parse_lone htext
    refine ⟨fun hnames => ?_, fun hname => by cases hname⟩
    have hread := hnames.1
    rw [Host.readCall, Host.readArguments, hfault] at hread
    cases hread
  | some s =>
    have hread : Host.readCall "open_test" (Value.argumentText [.string t]) =
        .ok (.openTest s) := by
      rw [Host.readCall, Host.readArguments, parse_argument htext]
      rfl
    constructor
    · intro hnames
      rw [hnames.1] at hread
      cases hread
      rfl
    · intro hname
      cases hname
      obtain ⟨name, hnames, hopen⟩ := names_of_read hread
      cases hopen
      exact hnames

end ScriptBench
