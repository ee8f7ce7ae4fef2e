import ScriptBench.Proofs.Script.Titles
import ScriptBench.Script.Binding

/-!
Values whose strings are made of characters.

A string is whole if no surrogate stands alone in it, so that it is the string of a text; a value is
whole if every string in it is, the names of members and the messages of errors included.

1. Strings put together from whole ones, their upper case and their characters are whole, and they
   are those of the texts (`join_ofString`, `upper_ofString`, `characters_ofString`).
2. What a whole value becomes as a string is whole (`whole_toText`).
3. What is found in a whole value is whole (`whole_member`, `whole_lookup`, `whole_listed`). The
   exception is a string taken apart into units: its halves of characters stand alone then
   (`whole_ownMembers`).
-/
namespace ScriptBench

namespace Text16

/-- No surrogate stands alone in the string. -/
def Whole (t : Text16) : Prop := ∃ s, t = .ofString s

/-- No character of the string takes two units. -/
def Single (t : Text16) : Prop := ∀ u ∈ t.units, isLead u = false ∧ isTrail u = false

/-- The string starts with a unit behind the digits, so it is the name of no index. -/
def IsWord (t : Text16) : Prop := ∃ u rest, t.units = u :: rest ∧ 57 < u.toNat

theorem ofString_injective {a b : String} (h : ofString a = ofString b) : a = b := by
  have htext : (ofString a).toString? = (ofString b).toString? := congrArg toString? h
  rw [toString?_ofString, toString?_ofString] at htext
  exact Option.some.inj htext

theorem points_ofString (s : String) : points (ofString s).units = s.toList.map .ok :=
  points_chars s.toList

theorem whole_ofString (s : String) : (ofString s).Whole := ⟨s, rfl⟩

theorem ofString_ofList (cs : List Char) : ofString (String.ofList cs) = ofChars cs := by
  rw [ofString, String.toList_ofList]

theorem whole_ofChars (cs : List Char) : (ofChars cs).Whole :=
  ⟨String.ofList cs, (ofString_ofList cs).symm⟩

theorem whole_empty : empty.Whole := ⟨"", rfl⟩

theorem Whole.append {a b : Text16} (ha : a.Whole) (hb : b.Whole) : (a ++ b).Whole := by
  obtain ⟨s, rfl⟩ := ha
  obtain ⟨t, rfl⟩ := hb
  exact ⟨s ++ t, (ofString_append s t).symm⟩

/-- Of whole strings the texts can be had in order. -/
theorem exists_texts {ts : List Text16} (h : ∀ t ∈ ts, t.Whole) :
    ∃ ss : List String, ts = ss.map .ofString := by
  induction ts with
  | nil => exact ⟨[], rfl⟩
  | cons t ts ih =>
    obtain ⟨s, rfl⟩ := h t List.mem_cons_self
    obtain ⟨ss, rfl⟩ := ih fun t' ht' => h t' (List.mem_cons_of_mem _ ht')
    exact ⟨s :: ss, rfl⟩

theorem join_ofString (separator : String) (ss : List String) :
    join (.ofString separator) (ss.map .ofString) = .ofString (separator.intercalate ss) := by
  induction ss with
  | nil => rfl
  | cons s ss ih =>
    cases ss with
    | nil => simp [join]
    | cons s' ss =>
      rw [String.intercalate_cons_cons, ofString_append, ofString_append, ← ih]
      rfl

theorem Whole.join {ts : List Text16} (h : ∀ t ∈ ts, t.Whole) (separator : String) :
    (join (.ofString separator) ts).Whole := by
  obtain ⟨ss, rfl⟩ := exists_texts h
  exact ⟨separator.intercalate ss, join_ofString separator ss⟩

theorem upper_ofString (s : String) : (ofString s).upper = .ofString (Uppercase.ofString s) := by
  rw [upper, points_ofString, List.flatMap_map, Uppercase.ofString, ofString_ofList, ofChars,
    List.flatMap_assoc]

theorem characters_ofString (s : String) :
    (ofString s).characters = s.toList.map fun c => .ofString (String.singleton c) := by
  rw [characters, points_ofString, List.map_map]
  apply List.map_congr_left
  intro c _
  simp [ofString, ofChars]

/-- A unit that is half of no character is one. -/
theorem whole_unit {u : UInt16} (hlead : isLead u = false) (htrail : isTrail u = false) :
    Whole ⟨[u]⟩ := by
  have hvalid : u.toNat.isValidChar := by
    have hlt : u.toNat < 65536 := u.toNat_lt
    simp only [isLead, isTrail, UInt16.le_iff_toNat_le, Bool.and_eq_false_iff,
      decide_eq_false_iff_not] at hlead htrail
    change ¬ 0xD800 ≤ u.toNat ∨ ¬ u.toNat ≤ 0xDBFF at hlead
    change ¬ 0xDC00 ≤ u.toNat ∨ ¬ u.toNat ≤ 0xDFFF at htrail
    unfold Nat.isValidChar
    omega
  have hnat : (Char.ofNat u.toNat).toNat = u.toNat := by
    rw [Char.ofNat, dif_pos hvalid]
    rfl
  refine ⟨String.singleton (Char.ofNat u.toNat), ?_⟩
  have hsmall : u.toNat < 0x10000 := u.toNat_lt
  simp [ofString, ofChars, unitsOfChar, hnat, hsmall]

/-! Names -/

theorem IsWord.index? {t : Text16} (h : t.IsWord) : t.index? = none := by
  obtain ⟨u, rest, hunits, hu⟩ := h
  simp [Text16.index?, hunits, hu]

theorem IsWord.ne_ofIndex {t : Text16} (h : t.IsWord) (i : Nat) : t ≠ .ofIndex i := by
  rintro rfl
  obtain ⟨u, rest, hunits, hu⟩ := h
  obtain ⟨d, ds, hds, hd⟩ := decimalDigits_cons i
  have hrange : 48 ≤ d.toNat ∧ d.toNat ≤ 57 := Char.isDigit_iff_toNat.mp hd
  have hhead : (ofIndex i).units = d.toNat.toUInt16 :: ds.flatMap unitsOfChar := by
    have hsmall : d.toNat < 0x10000 := by omega
    simp [ofIndex, hds, ofChars, unitsOfChar, hsmall]
  rw [hhead] at hunits
  obtain ⟨rfl, -⟩ := List.cons.inj hunits
  rw [UInt16.toNat_ofNat_of_lt' (show d.toNat < 0x10000 by omega)] at hu
  omega

end Text16

namespace Value

open Text16

mutual

/-- In no string of the value a surrogate stands alone. -/
def Whole : Value → Prop
  | .string s => s.Whole
  | .array items => WholeItems items
  | .object members => WholeMembers members
  | .error _ message own => message.Whole ∧ WholeMembers own
  | _ => True

def WholeItems : List Value → Prop
  | [] => True
  | v :: rest => Whole v ∧ WholeItems rest

def WholeMembers : List (Text16 × Value) → Prop
  | [] => True
  | (n, v) :: rest => n.Whole ∧ Whole v ∧ WholeMembers rest

end

theorem wholeItems_iff {vs : List Value} : WholeItems vs ↔ ∀ v ∈ vs, v.Whole := by
  induction vs with
  | nil => simp [WholeItems]
  | cons v vs ih => simp [WholeItems, ih]

theorem wholeMembers_iff {ms : List (Text16 × Value)} :
    WholeMembers ms ↔ ∀ m ∈ ms, m.1.Whole ∧ m.2.Whole := by
  induction ms with
  | nil => simp [WholeMembers]
  | cons m ms ih => simp [WholeMembers, ih, and_assoc]

/-! ## Strings of values -/

/-- An item of an array as a string: nothing for `undefined` and `null`. -/
def itemText : Value → Except Value Text16
  | .undefined => .ok .empty
  | .null => .ok .empty
  | v => toText v

theorem itemTexts_eq (vs : List Value) : itemTexts vs = vs.mapM itemText := by
  induction vs with
  | nil => rfl
  | cons v vs ih =>
    rw [List.mapM_cons, ← ih]
    cases v <;> rfl

theorem errorText_whole {name message : Text16} (hname : name.Whole) (hmessage : message.Whole) :
    (errorText name message).Whole := by
  unfold errorText
  split
  · exact hmessage
  split
  · exact hname
  · exact (hname.append (whole_ofString _)).append hmessage

theorem objectText_whole {members : List (Text16 × Value)} {t : Text16}
    (h : objectText members = .ok t) : t.Whole := by
  unfold objectText at h
  split at h
  · cases h
    exact whole_ofString _
  · cases h
    exact whole_ofString _
  split at h
  · cases h
    exact whole_ofString _
  · cases h

mutual

theorem whole_toText (v : Value) (hv : v.Whole) {t : Text16} (h : toText v = .ok t) : t.Whole := by
  cases v with
  | string s =>
    cases h
    exact hv
  | array items =>
    obtain ⟨ts, hts, rfl⟩ :=
      map_eq_ok_iff.mp (show (itemTexts items).map (Text16.join (.ofString ",")) = .ok t from h)
    exact .join (whole_itemTexts items hv hts) ","
  | holes count =>
    cases h
    refine .join (fun t ht => ?_) ","
    rw [List.eq_of_mem_replicate ht]
    exact whole_empty
  | object members => exact objectText_whole h
  | bare => cases h
  | error className message own =>
    rw [toText] at h
    obtain ⟨n, hn, h⟩ := bind_eq_ok_iff.mp h
    obtain ⟨m, hm, h⟩ := bind_eq_ok_iff.mp h
    cases h
    exact errorText_whole (whole_ownText own hv.2 (whole_ofString className) hn)
      (whole_ownText own hv.2 hv.1 hm)
  | undefined | null | bool b | number x | thenable | function callee | promise id | interruption =>
    cases h
    exact whole_ofString _

theorem whole_itemTexts (vs : List Value) (hvs : WholeItems vs) {ts : List Text16}
    (h : itemTexts vs = .ok ts) :
    ∀ t ∈ ts, t.Whole := by
  cases vs with
  | nil =>
    cases h
    exact fun _ ht => absurd ht List.not_mem_nil
  | cons v vs =>
    have hitem : ∀ t, itemText v = .ok t → t.Whole := by
      intro t ht
      cases v with
      | undefined | null =>
        cases ht
        exact whole_empty
      | _ => exact whole_toText _ hvs.1 ht
    rw [itemTexts_eq, List.mapM_cons] at h
    obtain ⟨t, ht, h⟩ := bind_eq_ok_iff.mp h
    obtain ⟨rest, hrest, h⟩ := bind_eq_ok_iff.mp h
    cases h
    rw [← itemTexts_eq] at hrest
    exact List.forall_mem_cons.mpr ⟨hitem t ht, whole_itemTexts vs hvs.2 hrest⟩

theorem whole_ownText (own : List (Text16 × Value)) (hown : WholeMembers own) {name : String}
    {fallback t : Text16} (hfallback : fallback.Whole) (h : ownText name fallback own = .ok t) :
    t.Whole := by
  cases own with
  | nil =>
    cases h
    exact hfallback
  | cons m own =>
    obtain ⟨n, v⟩ := m
    rw [ownText.eq_def] at h
    dsimp only at h
    split at h
    · split at h
      · cases h
        split
        · exact whole_ofString _
        · exact whole_empty
      · exact whole_toText v hown.2.1 h
    · exact whole_ownText own hown.2.2 hfallback h

end

/-! ## What is found in values -/

theorem whole_lookup {name : Text16} {ms : List (Text16 × Value)} (hms : WholeMembers ms)
    {v : Value} (h : lookup name ms = some v) : v.Whole := by
  obtain ⟨m, hm, rfl⟩ := Option.map_eq_some_iff.mp h
  exact (wholeMembers_iff.mp hms m (List.mem_of_find?_eq_some hm)).2

theorem whole_inherited (v : Value) (name : Text16) : (v.inherited name).Whole := by
  unfold inherited
  dsimp only
  split
  · trivial
  split
  · trivial
  · trivial

theorem whole_getD_inherited {found : Option Value} {v : Value} {name : Text16}
    (h : ∀ m, found = some m → m.Whole) :
    (found.getD (v.inherited name)).Whole := by
  cases found with
  | none => exact whole_inherited v name
  | some m => exact h m rfl

theorem whole_functionMember {c : Callee} {name : Text16} {v : Value}
    (h : functionMember c name = some v) :
    v.Whole := by
  unfold functionMember at h
  split at h
  · cases h
    trivial
  split at h
  · split at h
    · cases h
      exact whole_ofString _
    · obtain ⟨b, -, rfl⟩ := Option.map_eq_some_iff.mp h
      trivial
  · split at h
    · cases h
      exact whole_empty
    · cases h

/-- A member of a whole value is whole, if its name is no index. -/
theorem whole_member {name : Text16} (hname : name.IsWord) {v w : Value} (hv : v.Whole)
    (h : member name v = .ok w) :
    w.Whole := by
  have hindex : name.index? = none := hname.index?
  cases v with
  | undefined | null => cases h
  | string s =>
    simp only [member, hindex, Option.bind_none] at h
    split at h
    · cases h
      trivial
    · cases h
      exact whole_inherited _ _
  | array items =>
    simp only [member, hindex, Option.bind_none, Option.getD_none] at h
    split at h
    · cases h
      trivial
    · cases h
      exact whole_inherited _ _
  | holes count =>
    cases h
    split
    · trivial
    · exact whole_inherited _ _
  | object members =>
    cases h
    exact whole_getD_inherited fun m hm => whole_lookup hv hm
  | bare =>
    cases h
    trivial
  | thenable =>
    cases h
    split
    · trivial
    · exact whole_inherited _ _
  | error className message own =>
    rw [member] at h
    split at h
    · rename_i m hlookup
      cases h
      exact whole_lookup hv.2 hlookup
    split at h
    · cases h
      exact hv.1
    split at h
    · cases h
      exact whole_ofString _
    · cases h
      exact whole_inherited _ _
  | function callee =>
    cases h
    exact whole_getD_inherited fun m hm => whole_functionMember hm
  | interruption =>
    simp only [member] at h
    split at h
    · cases h
      exact whole_ofString _
    split at h
    · cases h
      exact whole_ofString _
    · cases h
      exact whole_inherited _ _
  | bool b | number x | promise id =>
    cases h
    exact whole_inherited _ _

/-- What a whole value is copied by is whole, but for a string: of that it is the units. -/
theorem whole_ownMembers {v : Value} (hv : v.Whole) (hsingle : ∀ s, v = .string s → s.Single) :
    ∀ m ∈ v.ownMembers, m.1.Whole ∧ m.2.Whole := by
  intro m hm
  cases v with
  | string s =>
    obtain ⟨i, hi, rfl⟩ := List.mem_mapIdx.mp hm
    obtain ⟨hlead, htrail⟩ := hsingle s rfl _ (List.getElem_mem hi)
    exact ⟨whole_ofChars _, whole_unit hlead htrail⟩
  | array items =>
    obtain ⟨i, hi, rfl⟩ := List.mem_mapIdx.mp hm
    exact ⟨whole_ofChars _, wholeItems_iff.mp hv _ (List.getElem_mem hi)⟩
  | object members => exact wholeMembers_iff.mp hv m hm
  | error className message own => exact wholeMembers_iff.mp hv.2 m hm
  | thenable =>
    obtain rfl := List.mem_singleton.mp hm
    exact ⟨whole_ofString _, trivial⟩
  | _ => exact absurd hm List.not_mem_nil

/-- An own member of a whole value is whole, if its name is no index. -/
theorem whole_of_mem_ownMembers {v : Value} (hv : v.Whole) {m : Text16 × Value}
    (hm : m ∈ v.ownMembers) (hname : m.1.IsWord) : m.2.Whole := by
  by_cases hstring : ∃ s, v = .string s
  · obtain ⟨s, rfl⟩ := hstring
    obtain ⟨i, hi, heq⟩ := List.mem_mapIdx.mp hm
    rw [← heq] at hname
    exact absurd rfl (hname.ne_ofIndex i)
  · exact (whole_ownMembers hv (fun s hs => absurd ⟨s, hs⟩ hstring) m hm).2

theorem whole_listed {v : Value} (hv : v.Whole) {vs : List Value} (h : Builtin.listed v = .ok vs) :
    ∀ w ∈ vs, w.Whole := by
  intro w hw
  cases v with
  | undefined | null => cases h
  | string s =>
    cases h
    obtain ⟨text, rfl⟩ := hv
    rw [characters_ofString, List.map_map] at hw
    obtain ⟨c, -, rfl⟩ := List.mem_map.mp hw
    exact whole_ofString _
  | array items =>
    cases h
    exact wholeItems_iff.mp hv w hw
  | holes count =>
    cases h
    rw [List.eq_of_mem_replicate hw]
    trivial
  | object members =>
    rw [Builtin.listed] at h
    obtain ⟨length, -, h⟩ := bind_eq_ok_iff.mp h
    dsimp only at h
    split at h
    · cases h
    split at h
    · cases h
    cases h
    obtain ⟨i, -, rfl⟩ := List.mem_map.mp hw
    cases hlookup : lookup (.ofIndex i) members with
    | none => trivial
    | some m => exact whole_lookup hv hlookup
  | _ =>
    cases h
    exact absurd hw List.not_mem_nil

end Value

end ScriptBench
