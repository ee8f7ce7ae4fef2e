import ScriptBench.Http.Client
import ScriptBench.Proofs.Json.Records
import ScriptBench.Proofs.Text.Bytes

/-!
Requests that are refused, and requests that are sent.

1. Which texts may be a method, the name of a header or its value is told by their bytes
   (`isToken_iff`, `isHeaderName_iff`, `isHeaderValue_iff`).
2. A map of headers holds under each name, in any case, what was put there, in order
   (`values_ofList`), and written out one after the other they stand in that order
   (`valuesUnder_toList`). What is added for the sake of sending goes under names that had nothing
   (`valuesUnder_sent`).
3. A request with a fault is refused for the first one and the network is not asked; a sound one is
   handed to the network once, with all its headers (`requests_go_out_whole`).
-/
namespace ScriptBench

/-! ## Texts that may go over the wire -/

/-- The bytes of a text. -/
def bytesOf (s : String) : List UInt8 := Utf8.encode s.toList

/-- What names may have in them beside digits and letters. -/
def tokenMarks : List UInt8 :=
  [0x21, 0x23, 0x24, 0x25, 0x26, 0x27, 0x2A, 0x2B, 0x2D, 0x2E, 0x5E, 0x5F, 0x60, 0x7C, 0x7E]

/-- Bytes of methods and of names: digits, letters and some marks. -/
def TokenByte (b : UInt8) : Prop :=
  (0x30 ≤ b ∧ b ≤ 0x39) ∨ (0x41 ≤ b ∧ b ≤ 0x5A) ∨ (0x61 ≤ b ∧ b ≤ 0x7A) ∨ b ∈ tokenMarks

/-- Bytes of values: the tab, and all that are no control characters of ASCII. -/
def ValueByte (b : UInt8) : Prop := b = 0x09 ∨ (0x20 ≤ b ∧ b ≠ 0x7F)

instance (b : UInt8) : Decidable (TokenByte b) := inferInstanceAs (Decidable (_ ∨ _))

instance (b : UInt8) : Decidable (ValueByte b) := inferInstanceAs (Decidable (_ ∨ _))

/-- A text that may be a method. -/
def IsMethod (s : String) : Prop := bytesOf s ≠ [] ∧ ∀ b ∈ bytesOf s, TokenByte b

/-- A text that may name a header. -/
def IsName (s : String) : Prop := IsMethod s ∧ (bytesOf s).length ≤ maxHeaderName

/-- A text that may be the value of a header. -/
def IsValue (s : String) : Prop := ∀ b ∈ bytesOf s, ValueByte b

instance (s : String) : Decidable (IsMethod s) :=
  have : Decidable (∀ b ∈ bytesOf s, TokenByte b) := List.decidableBAll TokenByte (bytesOf s)
  inferInstanceAs (Decidable (_ ∧ _))

instance (s : String) : Decidable (IsName s) := inferInstanceAs (Decidable (_ ∧ _))

instance (s : String) : Decidable (IsValue s) := List.decidableBAll ValueByte (bytesOf s)

theorem isTokenChar_ascii :
    ∀ n < 128, isTokenChar (Char.ofNat n) = decide (TokenByte (UInt8.ofNat n)) := by
  decide

theorem valueChar_ascii : ∀ n < 128, (Char.ofNat n == '\t' || (0x20 ≤ (Char.ofNat n).toNat &&
    (Char.ofNat n).toNat ≠ 0x7F)) = decide (ValueByte (UInt8.ofNat n)) := by
  decide

theorem lt_of_isTokenChar {c : Char} (h : isTokenChar c = true) : c.toNat < 128 := by
  have hbelow : ∀ d : Char, d.toNat < 128 → c ≤ d → c.toNat < 128 := by
    intro d hd hle
    exact Nat.lt_of_le_of_lt (UInt32.le_iff_toNat_le.mp hle) hd
  simp only [isTokenChar, Bool.or_eq_true, Bool.and_eq_true, decide_eq_true_eq,
    List.contains_iff_mem] at h
  obtain ((h | h) | h) | h := h
  · exact hbelow _ (by decide) h.2
  · exact hbelow _ (by decide) h.2
  · exact hbelow _ (by decide) h.2
  · have hmarks : ∀ d ∈ ['!', '#', '$', '%', '&', '\x27', '*', '+', '-', '.', '^', '_',
        '\x60', '|', '~'], d.toNat < 128 := by simp
    exact hmarks c h

theorem lt_of_tokenByte {b : UInt8} (h : TokenByte b) : b.toNat < 128 := by
  have hbelow : ∀ d : UInt8, d.toNat < 128 → b ≤ d → b.toNat < 128 := by
    intro d hd hle
    exact Nat.lt_of_le_of_lt (UInt8.le_iff_toNat_le.mp hle) hd
  obtain h | h | h | h := h
  · exact hbelow _ (by decide) h.2
  · exact hbelow _ (by decide) h.2
  · exact hbelow _ (by decide) h.2
  · have hmarks : ∀ d ∈ tokenMarks, d.toNat < 128 := by simp [tokenMarks]
    exact hmarks b h

theorem valueByte_of_le {b : UInt8} (h : 128 ≤ b.toNat) : ValueByte b := by
  refine .inr ⟨UInt8.le_iff_toNat_le.mpr ?_, ?_⟩
  · show 0x20 ≤ b.toNat
    omega
  · rintro rfl
    exact absurd h (by decide)

theorem isTokenChar_iff (c : Char) :
    isTokenChar c = true ↔ ∀ b ∈ String.utf8EncodeChar c, TokenByte b := by
  by_cases h : c.toNat < 128
  · have hchar := isTokenChar_ascii c.toNat h
    rw [Char.ofNat_toNat] at hchar
    rw [Utf8.encodeChar_ascii h, List.forall_mem_singleton, hchar, decide_eq_true_iff]
  · -- beyond ASCII nothing is allowed, and there is a byte to see it by
    constructor
    · intro htoken
      exact absurd (lt_of_isTokenChar htoken) h
    · intro hbytes
      obtain ⟨b, hb⟩ := List.exists_mem_of_ne_nil _ (Utf8.encodeChar_ne_nil c)
      have hlow := Utf8.le_of_mem_encodeChar (Nat.not_lt.mp h) b hb
      have hhigh := lt_of_tokenByte (hbytes b hb)
      omega

theorem valueChar_iff (c : Char) :
    (c == '\t' || (0x20 ≤ c.toNat && c.toNat ≠ 0x7F)) = true ↔
      ∀ b ∈ String.utf8EncodeChar c, ValueByte b := by
  by_cases h : c.toNat < 128
  · have hchar := valueChar_ascii c.toNat h
    rw [Char.ofNat_toNat] at hchar
    rw [Utf8.encodeChar_ascii h, List.forall_mem_singleton, hchar, decide_eq_true_iff]
  · -- beyond ASCII everything is allowed
    have hlow := Nat.not_lt.mp h
    refine iff_of_true ?_ fun b hb => valueByte_of_le (Utf8.le_of_mem_encodeChar hlow b hb)
    simp
    omega

theorem forall_mem_bytesOf {s : String} {p : UInt8 → Prop} :
    (∀ b ∈ bytesOf s, p b) ↔ ∀ c ∈ s.toList, ∀ b ∈ String.utf8EncodeChar c, p b :=
  List.forall_mem_flatMap

theorem bytesOf_eq_nil_iff {s : String} : bytesOf s = [] ↔ s.toList = [] := by
  constructor
  · intro h
    refine List.eq_nil_iff_forall_not_mem.mpr fun c hc => ?_
    exact Utf8.encodeChar_ne_nil c (List.flatMap_eq_nil_iff.mp h c hc)
  · intro h
    rw [bytesOf, h]
    rfl

theorem isToken_iff {s : String} : isToken s = true ↔ IsMethod s := by
  have hempty : s.isEmpty = true ↔ bytesOf s = [] := by
    rw [bytesOf_eq_nil_iff, String.toList_eq_nil_iff, String.isEmpty_iff]
  have hall : s.toList.all isTokenChar = true ↔ ∀ b ∈ bytesOf s, TokenByte b := by
    rw [forall_mem_bytesOf, List.all_eq_true]
    exact forall₂_congr fun c _ => isTokenChar_iff c
  rw [isToken, Bool.and_eq_true, hall, Bool.not_eq_true', ← Bool.not_eq_true, hempty]
  rfl

theorem isHeaderName_iff {s : String} : isHeaderName s = true ↔ IsName s := by
  rw [isHeaderName, Bool.and_eq_true, isToken_iff, decide_eq_true_iff]
  refine and_congr_right fun hmethod => ?_
  have hascii : ∀ c ∈ s.toList, c.toNat < 128 := fun c hc =>
    lt_of_isTokenChar ((isTokenChar_iff c).mpr (forall_mem_bytesOf.mp hmethod.2 c hc))
  rw [bytesOf, Utf8.length_encode hascii, String.length_toList]

theorem isHeaderValue_iff {s : String} : isHeaderValue s = true ↔ IsValue s := by
  rw [isHeaderValue, IsValue, forall_mem_bytesOf, List.all_eq_true]
  exact forall₂_congr fun c _ => valueChar_iff c

/-! ## Headers by name -/

/-- The values a list of headers has under a name, in any case. -/
def valuesUnder (name : String) (headers : List NamedValue) : List String :=
  (headers.filter fun h => HeaderMap.canonical h.name = HeaderMap.canonical name).map (·.value)

theorem valuesUnder_append (name : String) (a b : List NamedValue) :
    valuesUnder name (a ++ b) = valuesUnder name a ++ valuesUnder name b := by
  simp only [valuesUnder, List.filter_append, List.map_append]

theorem valuesUnder_singleton (name : String) (h : NamedValue) :
    valuesUnder name [h] = if HeaderMap.canonical h.name = HeaderMap.canonical name
      then [h.value] else [] := by
  unfold valuesUnder
  by_cases hname : HeaderMap.canonical h.name = HeaderMap.canonical name
  · simp [hname]
  · simp [hname]

theorem Lowercase.ofAscii_ofAscii (c : Char) : ofAscii (ofAscii c) = ofAscii c := by
  have hsmall : ∀ n < 91, 65 ≤ n → ofAscii (Char.ofNat (n + 32)) = Char.ofNat (n + 32) := by decide
  by_cases h : 'A' ≤ c ∧ c ≤ 'Z'
  · have hlow : 65 ≤ c.toNat := UInt32.le_iff_toNat_le.mp h.1
    have hhigh : c.toNat ≤ 90 := UInt32.le_iff_toNat_le.mp h.2
    have hletter : ofAscii c = Char.ofNat (c.toNat + 32) := if_pos h
    rw [hletter, hsmall c.toNat (by omega) hlow]
  · have hother : ofAscii c = c := if_neg h
    rw [hother, hother]

namespace HeaderMap

variable {m : HeaderMap}

theorem canonical_canonical (name : String) : canonical (canonical name) = canonical name := by
  unfold canonical
  rw [String.toList_ofList, List.map_map]
  exact congrArg String.ofList (List.map_congr_left fun c _ => Lowercase.ofAscii_ofAscii c)

theorem lookup_entry (other n : String) (vs : List String) (rest : List (String × List String)) :
    List.lookup other ((n, vs) :: rest) = if other = n then some vs else rest.lookup other := by
  by_cases h : other = n
  · rw [List.lookup_cons, beq_iff_eq.mpr h, if_pos h]
  · rw [List.lookup_cons, beq_false_of_ne h, if_neg h]

theorem lookup_appendEntry (name value other : String) (entries : List (String × List String)) :
    (appendEntry name value entries).lookup other =
      if other = name then some ((entries.lookup name).getD [] ++ [value])
        else entries.lookup other := by
  induction entries with
  | nil =>
    rw [appendEntry, lookup_entry, List.lookup_nil, List.lookup_nil, Option.getD_none,
      List.nil_append]
  | cons e rest ih =>
    obtain ⟨n, vs⟩ := e
    by_cases hn : n = name
    · subst hn
      rw [appendEntry, if_pos rfl]
      by_cases h : other = n <;> simp [lookup_entry, h]
    · have hne : ¬ name = n := fun h => hn h.symm
      rw [appendEntry, if_neg hn, lookup_entry, ih]
      by_cases h : other = name
      · subst h
        simp [lookup_entry, hne]
      · simp [lookup_entry, h]

/-- One more value stands behind those its name had, and changes no other name. -/
theorem values_append (m : HeaderMap) (name value other : String) :
    (m.append name value).values other =
      m.values other ++ if canonical name = canonical other then [value] else [] := by
  unfold values append
  rw [lookup_appendEntry]
  by_cases h : canonical name = canonical other
  · rw [if_pos h.symm, if_pos h, h]
    rfl
  · rw [if_neg (fun heq => h heq.symm), if_neg h, List.append_nil]

theorem values_foldl (m : HeaderMap) (headers : List NamedValue) (name : String) :
    (headers.foldl (fun m h => m.append h.name h.value) m).values name =
      m.values name ++ valuesUnder name headers := by
  induction headers generalizing m with
  | nil => exact (List.append_nil _).symm
  | cons h rest ih =>
    rw [List.foldl_cons, ih, values_append, List.append_assoc, ← valuesUnder_singleton,
      ← valuesUnder_append]
    rfl

theorem values_ofList (headers : List NamedValue) (name : String) :
    (ofList headers).values name = valuesUnder name headers := by
  have hempty : empty.values name = [] := rfl
  rw [ofList, values_foldl, hempty, List.nil_append]

/-! What is written of a map. -/

/-- Every name has one entry, in small letters. -/
structure Kept (m : HeaderMap) : Prop where
  once : (m.entries.map (·.1)).Nodup
  small : ∀ e ∈ m.entries, canonical e.1 = e.1

theorem kept_empty : empty.Kept := ⟨List.nodup_nil, nofun⟩

theorem mem_appendEntry {name value : String} {entries : List (String × List String)}
    {e : String × List String} (h : e ∈ appendEntry name value entries) :
    e.1 = name ∨ e ∈ entries := by
  induction entries with
  | nil => exact .inl (List.mem_singleton.mp h ▸ rfl)
  | cons x rest ih =>
    obtain ⟨n, vs⟩ := x
    by_cases hn : n = name
    · rw [appendEntry, if_pos hn] at h
      rcases List.mem_cons.mp h with rfl | h
      · exact .inl hn
      · exact .inr (List.mem_cons_of_mem _ h)
    · rw [appendEntry, if_neg hn] at h
      rcases List.mem_cons.mp h with rfl | h
      · exact .inr List.mem_cons_self
      · exact (ih h).imp_right (List.mem_cons_of_mem _)

theorem nodup_appendEntry {name value : String} {entries : List (String × List String)}
    (h : (entries.map (·.1)).Nodup) : ((appendEntry name value entries).map (·.1)).Nodup := by
  induction entries with
  | nil => exact List.nodup_singleton _
  | cons x rest ih =>
    obtain ⟨n, vs⟩ := x
    obtain ⟨hfresh, hrest⟩ := List.nodup_cons.mp h
    by_cases hn : n = name
    · rw [appendEntry, if_pos hn]
      exact h
    · rw [appendEntry, if_neg hn]
      refine List.nodup_cons.mpr ⟨fun hmem => ?_, ih hrest⟩
      obtain ⟨e, he, hname⟩ := List.mem_map.mp hmem
      rcases mem_appendEntry he with heq | hold
      · exact hn (hname.symm.trans heq)
      · exact hfresh (List.mem_map.mpr ⟨e, hold, hname⟩)

theorem Kept.append (h : m.Kept) (name value : String) : (m.append name value).Kept where
  once := nodup_appendEntry h.once
  small := by
    intro e he
    rcases mem_appendEntry he with heq | hold
    · rw [heq, canonical_canonical]
    · exact h.small e hold

theorem Kept.foldl (h : m.Kept) (headers : List NamedValue) :
    (headers.foldl (fun m h => m.append h.name h.value) m).Kept := by
  induction headers generalizing m with
  | nil => exact h
  | cons x rest ih => exact ih (h.append x.name x.value)

theorem kept_ofList (headers : List NamedValue) : (ofList headers).Kept := kept_empty.foldl headers

theorem Kept.setDefault (h : m.Kept) (name value : String) : (m.setDefault name value).Kept := by
  unfold HeaderMap.setDefault
  split
  · exact h.append name value
  · exact h

theorem valuesUnder_map (name n : String) (vs : List String) :
    valuesUnder name (vs.map fun v => ⟨n, v⟩) =
      if canonical n = canonical name then vs else [] := by
  induction vs with
  | nil => split <;> rfl
  | cons v vs ih =>
    rw [List.map_cons, ← List.singleton_append, valuesUnder_append, ih, valuesUnder_singleton]
    split <;> rfl

/-- Written out, a map has under each name the values it holds there. -/
theorem valuesUnder_toList (h : m.Kept) (name : String) :
    valuesUnder name m.toList = m.values name := by
  obtain ⟨entries⟩ := m
  obtain ⟨honce, hsmall⟩ := h
  unfold values toList
  dsimp only at honce hsmall ⊢
  induction entries with
  | nil => rfl
  | cons e rest ih =>
    obtain ⟨n, vs⟩ := e
    obtain ⟨hfresh, hrest⟩ := List.nodup_cons.mp honce
    have hn : canonical n = n := hsmall _ List.mem_cons_self
    have hbehind := ih hrest fun x hx => hsmall x (List.mem_cons_of_mem _ hx)
    rw [List.flatMap_cons, valuesUnder_append, valuesUnder_map, hbehind, hn, lookup_entry]
    by_cases hname : n = canonical name
    · have hnone : rest.lookup (canonical name) = none := by
        refine List.lookup_eq_none_iff.mpr fun x hx => ?_
        have hne : canonical name ≠ x.1 := fun heq =>
          hfresh (List.mem_map.mpr ⟨x, hx, heq.symm.trans hname.symm⟩)
        exact bne_iff_ne.mpr hne
      rw [if_pos hname, hnone, if_pos hname.symm]
      exact List.append_nil vs
    · rw [if_neg hname, if_neg fun heq => hname heq.symm]
      rfl

/-- One map has what the other has, with more only under some names under which that has nothing. -/
def Adds (m m' : HeaderMap) (names : List String) : Prop :=
  ∀ name, m'.values name = m.values name ∨ m.values name = [] ∧ canonical name ∈ names

variable {m m' m'' : HeaderMap} {names names' : List String}

theorem adds_refl (m : HeaderMap) (names : List String) : m.Adds m names := fun _ => .inl rfl

theorem Adds.trans (h : m.Adds m' names) (h' : m'.Adds m'' names') :
    m.Adds m'' (names ++ names') := by
  intro name
  obtain hsame | ⟨hnone, hname⟩ := h name
  · rw [← hsame]
    exact (h' name).imp_right fun ⟨hnone, hname⟩ => ⟨hnone, List.mem_append_right _ hname⟩
  · exact .inr ⟨hnone, List.mem_append_left _ hname⟩

theorem adds_setDefault (m : HeaderMap) (n value : String) :
    m.Adds (m.setDefault n value) [canonical n] := by
  intro name
  unfold HeaderMap.setDefault
  split
  · rename_i hempty
    by_cases hname : canonical n = canonical name
    · refine .inr ⟨?_, List.mem_singleton.mpr hname.symm⟩
      unfold values at hempty ⊢
      rw [← hname]
      exact List.isEmpty_iff.mp hempty
    · refine .inl ?_
      rw [values_append, if_neg hname, List.append_nil]
  · exact .inl rfl

end HeaderMap

/-! ## What is added for the sake of sending -/

namespace Outgoing

/-- Names under which something is sent although the request says nothing of it. -/
def addedNames : List String := ["authorization", "accept", "user-agent"]

theorem kept_moveCredentials {o : Outgoing} (h : o.headers.Kept) :
    o.moveCredentials.headers.Kept := by
  unfold moveCredentials
  split
  · exact h
  · exact h.setDefault _ _

theorem url_moveCredentials (o : Outgoing) : o.moveCredentials.url =
    if o.url.credentials?.isSome then o.url.withoutCredentials else o.url := by
  unfold moveCredentials
  cases o.url.credentials? <;> rfl

theorem moveCredentials_method (o : Outgoing) : o.moveCredentials.method = o.method := by
  unfold moveCredentials
  cases o.url.credentials? <;> rfl

theorem moveCredentials_body (o : Outgoing) : o.moveCredentials.body = o.body := by
  unfold moveCredentials
  cases o.url.credentials? <;> rfl

theorem adds_moveCredentials (o : Outgoing) :
    o.headers.Adds o.moveCredentials.headers [HeaderMap.canonical "authorization"] := by
  unfold moveCredentials
  split
  · exact HeaderMap.adds_refl _ _
  · exact HeaderMap.adds_setDefault _ _ _

/-- The headers that go out are those of the request, with something more only under names that the
request leaves out. -/
theorem valuesUnder_sent (config : ClientConfig) {o : Outgoing} (h : o.headers.Kept)
    (name : String) :
    valuesUnder name (o.sent config).headers = o.headers.values name ∨
      o.headers.values name = [] ∧ HeaderMap.canonical name ∈ addedNames := by
  have hkept := kept_moveCredentials h
  have hadds := (adds_moveCredentials o).trans (HeaderMap.adds_setDefault _ "accept" "*/*")
    |>.trans (HeaderMap.adds_setDefault _ "user-agent" config.userAgent)
  have hnames : [HeaderMap.canonical "authorization"] ++ [HeaderMap.canonical "accept"] ++
      [HeaderMap.canonical "user-agent"] = addedNames := by decide
  rw [sent, sentHeaders, HeaderMap.valuesUnder_toList ((hkept.setDefault _ _).setDefault _ _),
    ← hnames]
  exact hadds name

end Outgoing

/-! ## Faults -/

/-- A header that may be sent. -/
def NamedValue.IsHeader (h : NamedValue) : Prop := IsName h.name ∧ IsValue h.value

instance (h : NamedValue) : Decidable h.IsHeader := inferInstanceAs (Decidable (_ ∧ _))

/-- What is wrong with a header: its name, or else its value. -/
inductive NamedValue.Fault (h : NamedValue) : ConnectorError → Prop
  | name (hname : ¬ IsName h.name) :
    h.Fault (.invalidRequest ("bad header name `" ++ h.name ++ "`"))
  | value (hname : IsName h.name) (hvalue : ¬ IsValue h.value) :
    h.Fault (.invalidRequest ("bad value for header `" ++ h.name ++ "`"))

namespace Request

/-- A request with nothing wrong in it. -/
structure Sound (r : Request) : Prop where
  method : IsMethod (Uppercase.ofString r.method)
  url : ∃ u, Url.parse r.url = .ok u
  headers : ∀ h ∈ r.headers, h.IsHeader

/-- The first fault of a request: the method comes first, then the address, then the headers in
order. -/
inductive FirstFault (r : Request) : ConnectorError → Prop
  | method (hmethod : ¬ IsMethod (Uppercase.ofString r.method)) :
    r.FirstFault (.invalidRequest ("bad method `" ++ r.method ++ "`"))
  | url {fault : UrlError} (hmethod : IsMethod (Uppercase.ofString r.method))
    (hurl : Url.parse r.url = .error fault) :
    r.FirstFault (.invalidRequest ("bad url `" ++ r.url ++ "`: " ++ fault.message))
  | header {u : Url} {before after : List NamedValue} {h : NamedValue} {e : ConnectorError}
    (hmethod : IsMethod (Uppercase.ofString r.method)) (hurl : Url.parse r.url = .ok u)
    (hsplit : r.headers = before ++ h :: after) (hbefore : ∀ x ∈ before, x.IsHeader)
    (hfault : h.Fault e) :
    r.FirstFault e

end Request

namespace Outgoing

theorem headerFault?_singleton (h : NamedValue) (e : ConnectorError) :
    headerFault? [h] = some e ↔ h.Fault e := by
  rw [headerFault?]
  split
  · rename_i hbad
    have hname : ¬ IsName h.name := fun hname => by simp [isHeaderName_iff.mpr hname] at hbad
    constructor
    · rintro ⟨⟩
      exact .name hname
    · intro hfault
      cases hfault with
      | name => rfl
      | value hgood => exact absurd hgood hname
  · rename_i hgood
    have hname : IsName h.name := isHeaderName_iff.mp (by simpa using hgood)
    split
    · rename_i hbad
      have hvalue : ¬ IsValue h.value := fun hvalue => by
        simp [isHeaderValue_iff.mpr hvalue] at hbad
      constructor
      · rintro ⟨⟩
        exact .value hname hvalue
      · intro hfault
        cases hfault with
        | name hbad => exact absurd hname hbad
        | value => rfl
    · rename_i hgood
      have hvalue : IsValue h.value := isHeaderValue_iff.mp (by simpa using hgood)
      constructor
      · nofun
      · intro hfault
        cases hfault with
        | name hbad => exact absurd hname hbad
        | value _ hbad => exact absurd hvalue hbad

theorem headerFault?_singleton_none (h : NamedValue) : headerFault? [h] = none ↔ h.IsHeader := by
  rw [NamedValue.IsHeader, ← isHeaderName_iff, ← isHeaderValue_iff, headerFault?]
  cases isHeaderName h.name <;> cases isHeaderValue h.value <;> simp [headerFault?]

theorem headerFault?_eq (headers : List NamedValue) :
    headerFault? headers = headers.findSome? fun h => headerFault? [h] := by
  induction headers with
  | nil => rfl
  | cons h rest ih =>
    rw [List.findSome?_cons, ← ih]
    simp only [headerFault?]
    split
    · rfl
    · split <;> rfl

theorem headerFault?_none_iff {headers : List NamedValue} :
    headerFault? headers = none ↔ ∀ h ∈ headers, h.IsHeader := by
  rw [headerFault?_eq, List.findSome?_eq_none_iff]
  exact forall₂_congr fun h _ => headerFault?_singleton_none h

/-- The fault that is found in a list of headers is the first one. -/
theorem headerFault?_some_iff {headers : List NamedValue} {e : ConnectorError} :
    headerFault? headers = some e ↔ ∃ before h after, headers = before ++ h :: after ∧
      (∀ x ∈ before, x.IsHeader) ∧ h.Fault e := by
  rw [headerFault?_eq, List.findSome?_eq_some_iff]
  simp only [headerFault?_singleton, headerFault?_singleton_none, and_comm]

variable {r : Request}

theorem readMethod?_of (h : IsMethod (Uppercase.ofString r.method)) :
    readMethod? r.method = some (Uppercase.ofString r.method) := by
  rw [readMethod?]
  exact if_pos (isToken_iff.mpr h)

theorem readMethod?_of_not (h : ¬ IsMethod (Uppercase.ofString r.method)) :
    readMethod? r.method = none := by
  rw [readMethod?]
  exact if_neg (mt isToken_iff.mp h)

theorem ofRequest_error {e : ConnectorError} (h : r.FirstFault e) : ofRequest r = .error e := by
  cases h with
  | method hmethod => rw [ofRequest, readMethod?_of_not hmethod]
  | url hmethod hurl =>
    rw [ofRequest, readMethod?_of hmethod]
    simp only [buildUrl, hurl]
    rfl
  | header hmethod hurl hsplit hbefore hfault =>
    have hfound := headerFault?_some_iff.mpr ⟨_, _, _, hsplit, hbefore, hfault⟩
    rw [ofRequest, readMethod?_of hmethod]
    simp only [buildUrl, hurl, buildHeaders, hfound]
    rfl

theorem ofRequest_ok (h : r.Sound) : ∃ url, buildUrl r = .ok url ∧
    ofRequest r = .ok ⟨Uppercase.ofString r.method, url, .ofList r.headers, r.body⟩ := by
  obtain ⟨u, hurl⟩ := h.url
  refine ⟨u.appendPairs (r.params.map fun p => (p.name, p.value)), by rw [buildUrl, hurl], ?_⟩
  rw [ofRequest, readMethod?_of h.method]
  simp only [buildUrl, hurl, buildHeaders, headerFault?_none_iff.mpr h.headers]
  rfl

end Outgoing

/-- What is sent for a request: its method in capitals, its address, its body, and under every name
the values it lists there. More stands only under names that it leaves out. -/
structure Sent.Carries (s : Sent) (r : Request) : Prop where
  method : s.method = Uppercase.ofString r.method
  url : ∃ u, Outgoing.buildUrl r = .ok u ∧
    s.url = if u.credentials?.isSome then u.withoutCredentials else u
  headers : ∀ name, valuesUnder name s.headers = valuesUnder name r.headers ∨
    valuesUnder name r.headers = [] ∧ HeaderMap.canonical name ∈ Outgoing.addedNames
  body : s.body = r.body

theorem Outgoing.sent_carries (config : ClientConfig) {r : Request} {url : Url}
    (h : buildUrl r = .ok url) :
    (sent config ⟨Uppercase.ofString r.method, url, .ofList r.headers, r.body⟩).Carries r where
  method := moveCredentials_method _
  url := ⟨url, h, url_moveCredentials _⟩
  headers name := by
    rw [← HeaderMap.values_ofList r.headers]
    exact valuesUnder_sent config (HeaderMap.kept_ofList r.headers) name
  body := moveCredentials_body _

namespace ClientConfig

variable {config : ClientConfig} {m : Type → Type} [Monad m] {r : Request}

theorem perform_of_error (hclient : config.check = .ok ()) {e : ConnectorError}
    (h : Outgoing.ofRequest r = .error e) (exchange : Sent → m Exchange) :
    config.perform exchange r = pure (.error e) := by
  simp only [perform, hclient, h]

theorem perform_of_ok (hclient : config.check = .ok ()) {o : Outgoing}
    (h : Outgoing.ofRequest r = .ok o) (exchange : Sent → m Exchange) :
    config.perform exchange r = config.send exchange o := by
  simp only [perform, hclient, h]

end ClientConfig

theorem Request.firstFault_or_sound (r : Request) : (∃ e, r.FirstFault e) ∨ r.Sound := by
  by_cases hmethod : IsMethod (Uppercase.ofString r.method)
  · cases hurl : Url.parse r.url with
    | error fault => exact .inl ⟨_, .url hmethod hurl⟩
    | ok u =>
      cases hfault : Outgoing.headerFault? r.headers with
      | none => exact .inr ⟨hmethod, ⟨u, hurl⟩, Outgoing.headerFault?_none_iff.mp hfault⟩
      | some e =>
        obtain ⟨before, h, after, hsplit, hbefore, hown⟩ := Outgoing.headerFault?_some_iff.mp hfault
        exact .inl ⟨e, .header hmethod hurl hsplit hbefore hown⟩
  · exact .inl ⟨_, .method hmethod⟩

theorem Request.FirstFault.message {r : Request} {e : ConnectorError} (h : r.FirstFault e) :
    ∃ message, e = .invalidRequest message := by
  cases h with
  | method hmethod => exact ⟨_, rfl⟩
  | url hmethod hurl => exact ⟨_, rfl⟩
  | header hmethod hurl hsplit hbefore hfault => cases hfault <;> exact ⟨_, rfl⟩

/-- A request in which something is wrong is refused for the first fault, and nothing is sent. For
any other the network is asked once, by what carries the whole of it, and the client answers what
comes of that; an address that cannot be asked for is refused without. -/
theorem requests_go_out_whole {config : ClientConfig} (hclient : config.check = .ok ())
    (r : Request) :
    (r.Sound ↔ ¬ ∃ e, r.FirstFault e) ∧
    (∀ e, r.FirstFault e → (∃ message, e = .invalidRequest message) ∧
      ∀ (m : Type → Type) [Monad m] (exchange : Sent → m Exchange),
        config.perform exchange r = pure (.error e)) ∧
    (r.Sound → ∃ o : Outgoing, Outgoing.ofRequest r = .ok o ∧
      (∀ name, o.headers.values name = valuesUnder name r.headers) ∧
      ∃ s : Sent, s.Carries r ∧
        ∀ (m : Type → Type) [Monad m] (exchange : Sent → m Exchange),
          config.perform exchange r =
            if Outgoing.canBeAsked s.url then exchange s >>= fun x => pure (config.outcome s x)
            else pure (.error (.network ("builder error for url (" ++ s.url.text ++ ")")))) := by
  have hrefused : ∀ e, r.FirstFault e → Outgoing.ofRequest r = .error e := fun e h =>
    Outgoing.ofRequest_error h
  refine ⟨⟨?_, ?_⟩, ?_, ?_⟩
  · rintro hsound ⟨e, hfault⟩
    obtain ⟨url, -, hsent⟩ := Outgoing.ofRequest_ok hsound
    rw [hrefused e hfault] at hsent
    cases hsent
  · intro hnone
    exact r.firstFault_or_sound.resolve_left hnone
  · intro e hfault
    refine ⟨hfault.message, fun m _ exchange => ?_⟩
    exact ClientConfig.perform_of_error hclient (hrefused e hfault) exchange
  · intro hsound
    obtain ⟨url, hurl, hsent⟩ := Outgoing.ofRequest_ok hsound
    refine ⟨_, hsent, HeaderMap.values_ofList r.headers, _, Outgoing.sent_carries config hurl,
      fun m _ exchange => ?_⟩
    rw [ClientConfig.perform_of_ok hclient hsent]
    rfl

/-- A request that names one header three times, in two ways of writing it, and an empty one that
has a default. -/
def namedThrice : Request where
  method := "put"
  url := "http://u:p@[::1]/"
  headers := [⟨"X-A", "1"⟩, ⟨"accept", ""⟩, ⟨"x-a", "é"⟩, ⟨"X-B", "2"⟩, ⟨"X-A", "3"⟩]
  params := []
  body := "b"

/-- A network that answers nothing and keeps what it is asked. -/
def recorder (s : Sent) : StateM (List Sent) Exchange := do
  modify (· ++ [s])
  return .broken

theorem requests_go_out_whole_thrice :
    ClientConfig.default.check = .ok () ∧ namedThrice.Sound ∧
      ∃ s : Sent, s.Carries namedThrice ∧
        ((ClientConfig.default.perform recorder namedThrice).run []).2 = [s] ∧
        (s.method, s.body) = ("PUT", "b") ∧ valuesUnder "x-A" s.headers = ["1", "é", "3"] ∧
        valuesUnder "accept" s.headers = [""] := by
  have hurl : Url.parse namedThrice.url = .ok ⟨"http".toList,
      some ⟨['u'], ['p'], some (.ipv6 [0, 0, 0, 0, 0, 0, 0, 1]), none⟩, ['/'], none, none⟩ := by rfl
  have hsound : namedThrice.Sound := ⟨by decide, ⟨_, hurl⟩, by decide⟩
  have hlisted : valuesUnder "x-A" namedThrice.headers = ["1", "é", "3"] := by decide
  have hempty : valuesUnder "accept" namedThrice.headers = [""] := by decide
  have hclient : ClientConfig.default.check = .ok () := rfl
  have hupper : Uppercase.ofString namedThrice.method = "PUT" := by decide
  obtain ⟨o, -, -, s, hcarries, hperform⟩ := (requests_go_out_whole hclient namedThrice).2.2 hsound
  obtain ⟨hmethod, ⟨u, hbuilt, haddress⟩, hheaders, hbody⟩ := hcarries
  refine ⟨hclient, hsound, s, ⟨hmethod, ⟨u, hbuilt, haddress⟩, hheaders, hbody⟩, ?_, ?_, ?_, ?_⟩
  · -- the address is the one that was read, and it can be asked for
    rw [Outgoing.buildUrl, hurl] at hbuilt
    obtain rfl := Except.ok.inj hbuilt
    have hasked : Outgoing.canBeAsked s.url = true := by
      rw [haddress]
      decide
    rw [hperform, if_pos hasked]
    rfl
  · rw [hmethod, hupper, hbody]
    rfl
  · exact ((hheaders "x-A").resolve_right fun h => by simp [hlisted] at h).trans hlisted
  · exact ((hheaders "accept").resolve_right fun h => by simp [hempty] at h).trans hempty

end ScriptBench
