import ScriptBench.Json.Untyped
import ScriptBench.Proofs.Json.Literals

/-!
The text of a value is read as that value.

A value is plain if it holds no double and its integers fit 64 bits, signed or unsigned.

1. In front of any text that does not go on with a number, the text of a plain value is read into a
   tree that shows the value, and reading stops at that text (`readNode_write`).
2. A tree that shows a value gives it back with its members in key order, if brackets may be nested
   as deep as they are in it, and else a fault (`toJson_of_shows`).
3. So a text gives its value back if it is nested at most 127 deep, and nothing otherwise
   (`parse?_text`).
-/
namespace ScriptBench

namespace Json

mutual

/-- A value without doubles whose integers fit 64 bits. -/
def Plain : Json → Prop
  | .int n => -(Nat.pow 2 63 : Int) ≤ n ∧ n < (Nat.pow 2 64 : Int)
  | .float _ => False
  | .arr items => PlainItems items
  | .obj members => PlainMembers members
  | _ => True

def PlainItems : List Json → Prop
  | [] => True
  | v :: rest => Plain v ∧ PlainItems rest

def PlainMembers : List (String × Json) → Prop
  | [] => True
  | (_, v) :: rest => Plain v ∧ PlainMembers rest

end

end Json

namespace Node

mutual

/-- A tree as the text of a value is read into it, wherever its parts stand. -/
inductive Shows : Node → Json → Prop where
  | null (start stop : Place) : Shows (.null start stop) .null
  | bool (start : Place) (b : Bool) (stop : Place) : Shows (.bool start b stop) (.bool b)
  | int {literal : Numeral} {n : Int} (start stop : Place) (h : literal.value? = some (.int n)) :
    Shows (.numeral start literal stop) (.int n)
  | str (start : Place) (s : String) (stop : Place) : Shows (.str start s stop) (.str s)
  | arr {items : Items} {vs : List Json} (start : Place) (h : ShowsItems items vs) :
    Shows (.array start items) (.arr vs)
  | obj {members : Members} {ms : List (String × Json)} (start : Place)
    (h : ShowsMembers members ms) :
    Shows (.object start members) (.obj ms)

inductive ShowsItems : Items → List Json → Prop where
  | closed (stop : Place) : ShowsItems (.closed stop) []
  | item {n : Node} {v : Json} {rest : Items} {vs : List Json} (h : Shows n v)
    (hrest : ShowsItems rest vs) : ShowsItems (.item n rest) (v :: vs)

inductive ShowsMembers : Members → List (String × Json) → Prop where
  | closed (stop : Place) : ShowsMembers (.closed stop) []
  | member {n : Node} {v : Json} {rest : Members} {ms : List (String × Json)}
    (here start : Place) (key : String) (stop after : Place) (h : Shows n v)
    (hrest : ShowsMembers rest ms) :
    ShowsMembers (.member here (.str start key stop) after n rest) ((key, v) :: ms)

end

end Node

open Node Json

/-! ## What a text starts with -/

theorem skipBlanks_cons {c : Char} (h : Cursor.isBlank c = false) (rest : List Char)
    (p : Position) :
    (⟨c :: rest, p⟩ : Cursor).skipBlanks = ⟨c :: rest, p⟩ := by
  simp [Cursor.skipBlanks, Cursor.skipBlanks.go, h]

theorem digit_ne {c : Char} (h : c.isDigit = true) :
    Cursor.isBlank c = false ∧ c ≠ '"' ∧ c ≠ '[' ∧ c ≠ ']' ∧ c ≠ '\x7b' ∧ c ≠ '-' := by
  refine ⟨?_, ?_, ?_, ?_, ?_, ?_⟩
  · simp only [Cursor.isBlank, Bool.or_eq_false_iff, decide_eq_false_iff_not]
    refine ⟨⟨⟨?_, ?_⟩, ?_⟩, ?_⟩ <;> rintro rfl <;> simp at h
  all_goals rintro rfl; simp at h

theorem decimalDigits_cons (n : Nat) : ∃ d ds, decimalDigits n = d :: ds ∧ d.isDigit = true := by
  obtain ⟨d, ds, h⟩ := List.exists_cons_of_ne_nil (Nat.toDigits_ne_nil (n := n) (b := 10))
  exact ⟨d, ds, h, isDigit_of_mem_decimalDigits (h ▸ List.mem_cons_self)⟩

namespace Json

/-- The text of a plain value starts neither with a blank nor with what ends an array. -/
theorem write_head {v : Json} (hv : v.Plain) (rest : List Char) :
    ∃ c cs, v.write rest = c :: cs ∧ Cursor.isBlank c = false ∧ c ≠ ']' := by
  cases v with
  | null => exact ⟨_, _, rfl, by decide, by decide⟩
  | bool b => cases b <;> exact ⟨_, _, rfl, by decide, by decide⟩
  | int n =>
    rw [write, writeInt]
    split
    · exact ⟨_, _, rfl, by decide, by decide⟩
    · obtain ⟨d, ds, hds, hd⟩ := decimalDigits_cons n.natAbs
      exact ⟨d, ds ++ rest, by rw [hds]; rfl, (digit_ne hd).1, (digit_ne hd).2.2.2.1⟩
  | float x => exact hv.elim
  | str s => exact ⟨_, _, rfl, by decide, by decide⟩
  | arr vs => cases vs <;> exact ⟨_, _, rfl, by decide, by decide⟩
  | obj ms => cases ms <;> exact ⟨_, _, rfl, by decide, by decide⟩

theorem writeItems_endsNumber (vs : List Json) (rest : List Char) :
    EndsNumber (writeItems vs rest) := by
  cases vs <;> simp [writeItems, EndsNumber]

theorem writeMembers_endsNumber (ms : List (String × Json)) (rest : List Char) :
    EndsNumber (writeMembers ms rest) := by
  cases ms with
  | nil => simp [writeMembers, EndsNumber]
  | cons m ms => simp [writeMembers, EndsNumber]

/-! ## How long a text is -/

theorem length_writeEscaped (cs rest : List Char) :
    rest.length ≤ (writeEscaped cs rest).length := by
  induction cs with
  | nil => exact Nat.le_refl _
  | cons c cs ih =>
    rw [writeEscaped, List.length_append]
    omega

theorem length_writeString (s : String) (rest : List Char) :
    rest.length + 2 ≤ (writeString s rest).length := by
  have h := length_writeEscaped s.toList ('"' :: rest)
  simp only [writeString, List.length_cons] at h ⊢
  omega

mutual

theorem length_write (v : Json) (hv : v.Plain) (rest : List Char) :
    rest.length < (v.write rest).length := by
  cases v with
  | null =>
    simp only [write, List.length_cons]
    omega
  | bool b =>
    cases b
    all_goals
      simp only [write, List.length_cons]
      omega
  | int n =>
    obtain ⟨d, ds, hds, -⟩ := decimalDigits_cons n.natAbs
    rw [write, writeInt]
    split
    · simp only [hds, List.length_cons, List.length_append]
      omega
    · simp only [hds, List.length_cons, List.length_append]
      omega
  | float x => exact hv.elim
  | str s => exact Nat.lt_of_lt_of_le (by omega) (length_writeString s rest)
  | arr vs =>
    cases vs with
    | nil =>
      simp only [write, List.length_cons]
      omega
    | cons v vs =>
      have h := length_write v hv.1 (writeItems vs rest)
      have h' := length_writeItems vs hv.2 rest
      simp only [write, List.length_cons]
      omega
  | obj ms =>
    cases ms with
    | nil =>
      simp only [write, List.length_cons]
      omega
    | cons m ms =>
      obtain ⟨k, v⟩ := m
      have h := length_write v hv.1 (writeMembers ms rest)
      have h' := length_writeMembers ms hv.2 rest
      have h'' := length_writeString k (':' :: v.write (writeMembers ms rest))
      simp only [write, List.length_cons] at h'' ⊢
      omega

theorem length_writeItems (vs : List Json) (hvs : PlainItems vs) (rest : List Char) :
    rest.length < (writeItems vs rest).length := by
  cases vs with
  | nil => simp [writeItems]
  | cons v vs =>
    have h := length_write v hvs.1 (writeItems vs rest)
    have h' := length_writeItems vs hvs.2 rest
    simp only [writeItems, List.length_cons]
    omega

theorem length_writeMembers (ms : List (String × Json)) (hms : PlainMembers ms) (rest : List Char) :
    rest.length < (writeMembers ms rest).length := by
  cases ms with
  | nil => simp [writeMembers]
  | cons m ms =>
    obtain ⟨k, v⟩ := m
    have h := length_write v hms.1 (writeMembers ms rest)
    have h' := length_writeMembers ms hms.2 rest
    have h'' := length_writeString k (':' :: v.write (writeMembers ms rest))
    simp only [writeMembers, List.length_cons] at h'' ⊢
    omega

end

end Json

/-! ## From a text to a tree -/

theorem literalNode_write (start : Place) (s : String) (rest : List Char) (p : Position) :
    ∃ q, literalNode start ⟨writeEscaped s.toList ('"' :: rest), p⟩ =
      (.str start s (some q), some ⟨rest, q⟩) := by
  obtain ⟨q, hq⟩ := readLiteral_writeEscaped s.toList rest p
  exact ⟨q, by simp [literalNode, hq]⟩

theorem readNode_int (n : Int) {fuel : Nat} (hfuel : 0 < fuel) {rest : List Char}
    (hrest : EndsNumber rest) (p : Position) :
    ∃ start q, readNode fuel ⟨writeInt n rest, p⟩ =
      (.numeral start (.ofInt n) (some q), some ⟨rest, q⟩) := by
  obtain ⟨fuel, rfl⟩ := Nat.exists_eq_succ_of_ne_zero (Nat.ne_of_gt hfuel)
  by_cases hn : n < 0
  · obtain ⟨q, hq⟩ := readNumber_decimalDigits (some p) true n.natAbs hrest (p.after '-')
    refine ⟨some p, q, ?_⟩
    rw [writeInt, if_pos hn, readNode, skipBlanks_cons (by decide)]
    simp [Cursor.next, hq, Numeral.ofInt, hn]
  · obtain ⟨d, ds, hds, hd⟩ := decimalDigits_cons n.natAbs
    obtain ⟨q, hq⟩ := readNumber_decimalDigits (some p) false n.natAbs hrest p
    obtain ⟨hblank, h1, h2, -, h3, h4⟩ := digit_ne hd
    refine ⟨some p, q, ?_⟩
    rw [hds, List.cons_append] at hq
    rw [writeInt, if_neg hn, hds, List.cons_append, readNode, skipBlanks_cons hblank]
    simp [h1, h2, h3, h4, hd, hq, Numeral.ofInt, hn]

theorem readNode_str (fuel : Nat) (s : String) (rest : List Char) (p : Position) :
    ∃ q, readNode (fuel + 1) ⟨writeString s rest, p⟩ =
      (.str (some p) s (some q), some ⟨rest, q⟩) := by
  obtain ⟨q, hq⟩ := literalNode_write (some p) s rest (p.after '"')
  refine ⟨q, ?_⟩
  rw [writeString, readNode, skipBlanks_cons (by decide)]
  simp [Cursor.next, hq]

theorem word_self (ws rest : List Char) (p : Position) :
    ∃ q, (⟨ws ++ rest, p⟩ : Cursor).word ws = .ok ⟨rest, q⟩ := by
  induction ws generalizing p with
  | nil => exact ⟨p, rfl⟩
  | cons w ws ih =>
    obtain ⟨q, hq⟩ := ih (p.after w)
    exact ⟨q, by simp [Cursor.word, hq]⟩

theorem readNode_null (fuel : Nat) (rest : List Char) (p : Position) :
    ∃ q, readNode (fuel + 1) ⟨Json.null.write rest, p⟩ =
      (.null (some p) (some q), some ⟨rest, q⟩) := by
  obtain ⟨q, hq⟩ := word_self ['u', 'l', 'l'] rest (p.after 'n')
  refine ⟨q, ?_⟩
  rw [write, readNode, skipBlanks_cons (by decide)]
  simp only [List.cons_append, List.nil_append] at hq
  simp [Cursor.next, hq]

theorem readNode_bool (fuel : Nat) (b : Bool) (rest : List Char) (p : Position) :
    ∃ q, readNode (fuel + 1) ⟨(Json.bool b).write rest, p⟩ =
      (.bool (some p) b (some q), some ⟨rest, q⟩) := by
  cases b with
  | true =>
    obtain ⟨q, hq⟩ := word_self ['r', 'u', 'e'] rest (p.after 't')
    refine ⟨q, ?_⟩
    rw [write, readNode, skipBlanks_cons (by decide)]
    simp only [List.cons_append, List.nil_append] at hq
    simp [Cursor.next, hq]
  | false =>
    obtain ⟨q, hq⟩ := word_self ['a', 'l', 's', 'e'] rest (p.after 'f')
    refine ⟨q, ?_⟩
    rw [write, readNode, skipBlanks_cons (by decide)]
    simp only [List.cons_append, List.nil_append] at hq
    simp [Cursor.next, hq]

theorem readNode_array (fuel : Nat) (more : List Char) (p : Position) :
    readNode (fuel + 1) ⟨'[' :: more, p⟩ =
      (.array (some p) (readItems fuel true ⟨more, p.after '['⟩).1,
        (readItems fuel true ⟨more, p.after '['⟩).2) := by
  rw [readNode, skipBlanks_cons (by decide)]
  simp [Cursor.next]

theorem readNode_object (fuel : Nat) (more : List Char) (p : Position) :
    readNode (fuel + 1) ⟨'\x7b' :: more, p⟩ =
      (.object (some p) (readMembers fuel true ⟨more, p.after '\x7b'⟩).1,
        (readMembers fuel true ⟨more, p.after '\x7b'⟩).2) := by
  rw [readNode, skipBlanks_cons (by decide)]
  simp [Cursor.next]

theorem readItems_close (fuel : Nat) (first : Bool) (rest : List Char) (p : Position) :
    readItems (fuel + 1) first ⟨']' :: rest, p⟩ =
      (.closed (some (p.after ']')), some ⟨rest, p.after ']'⟩) := by
  simp only [readItems, skipBlanks_cons (c := ']') (by decide), if_true, Cursor.next]

theorem readMembers_close (fuel : Nat) (first : Bool) (rest : List Char) (p : Position) :
    readMembers (fuel + 1) first ⟨'\x7d' :: rest, p⟩ =
      (.closed (some (p.after '\x7d')), some ⟨rest, p.after '\x7d'⟩) := by
  simp only [readMembers, skipBlanks_cons (c := '\x7d') (by decide), if_true, Cursor.next]

/-- Wherever the text stands, reading it gives a tree of this kind and stops at `rest`. -/
def Reads {α : Type} (read : Cursor → α × Option Cursor) (tree : α → Prop)
    (text rest : List Char) : Prop :=
  ∀ p, ∃ a q, read ⟨text, p⟩ = (a, some ⟨rest, q⟩) ∧ tree a

section

variable {v : Json} {vs : List Json} {ms : List (String × Json)} {fuel : Nat}
  {more after rest : List Char}

theorem reads_item (hv : Reads (readNode fuel) (Shows · v) more after)
    (hvs : Reads (readItems fuel false) (ShowsItems · vs) after rest) :
    Reads (readItem (fuel + 1)) (ShowsItems · (v :: vs)) more rest := by
  intro p
  obtain ⟨n, q, hq, hn⟩ := hv p
  obtain ⟨items, r, hr, hitems⟩ := hvs q
  exact ⟨.item n items, r, by simp only [readItem, hq, hr], .item hn hitems⟩

theorem reads_member (hv : Reads (readNode fuel) (Shows · v) more after)
    (hms : Reads (readMembers (fuel + 1) false) (ShowsMembers · ms) after rest)
    (here : Place) (key : String) :
    Reads (readMember (fuel + 2) here) (ShowsMembers · ((key, v) :: ms))
      (writeString key (':' :: more)) rest := by
  intro p
  obtain ⟨q, hq⟩ := literalNode_write (some p) key (':' :: more) (p.after '"')
  obtain ⟨n, r, hr, hn⟩ := hv (q.after ':')
  obtain ⟨members, u, hu, hmembers⟩ := hms r
  have hcolon : readColon (fuel + 1) ⟨':' :: more, q⟩ = (n, some ⟨after, r⟩) := by
    simp [readColon, Cursor.next, hr]
  refine ⟨_, u, ?_, .member here (some p) key (some q) (some q) hn hmembers⟩
  simp only [readMember, writeString, Cursor.next, hq, if_true,
    skipBlanks_cons (c := ':') (by decide),
    hcolon, hu]
  rfl

/-- Behind an opening bracket, and behind a comma, the text of a plain value is read as an item. -/
theorem readItems_of_readItem (hv : v.Plain) (p : Position) :
    readItems (fuel + 1) true ⟨v.write after, p⟩ = readItem fuel ⟨v.write after, p⟩ ∧
      readItems (fuel + 1) false ⟨',' :: v.write after, p⟩ =
        readItem fuel ⟨v.write after, p.after ','⟩ := by
  obtain ⟨c, cs, hc, hblank, hne⟩ := write_head hv after
  rw [hc]
  refine ⟨?_, ?_⟩
  · simp [readItems, skipBlanks_cons hblank, hne]
  · simp [readItems, skipBlanks_cons (c := ',') (by decide), skipBlanks_cons hblank, Cursor.next,
      Cursor.startsWith, hne]

/-- Behind an opening brace, and behind a comma, a string literal is read as a key. -/
theorem readMembers_of_readMember (key : String) (p : Position) :
    readMembers (fuel + 1) true ⟨writeString key more, p⟩ =
        readMember fuel (some p) ⟨writeString key more, p⟩ ∧
      readMembers (fuel + 1) false ⟨',' :: writeString key more, p⟩ =
        readMember fuel (some p) ⟨writeString key more, p.after ','⟩ := by
  rw [writeString]
  refine ⟨?_, ?_⟩
  · simp [readMembers, skipBlanks_cons (c := '"') (by decide)]
  · simp [readMembers, skipBlanks_cons (c := ',') (by decide),
      skipBlanks_cons (c := '"') (by decide),
      Cursor.next]

end

mutual

/-- The text of a plain value is read into a tree that shows it. -/
theorem readNode_write (v : Json) (hv : v.Plain) (fuel : Nat) (rest : List Char)
    (hrest : EndsNumber rest) (hfuel : 4 * (v.write rest).length ≤ fuel) :
    Reads (readNode fuel) (Shows · v) (v.write rest) rest := by
  have hlen := length_write v hv rest
  obtain ⟨fuel, rfl⟩ : ∃ k, fuel = k + 1 := ⟨fuel - 1, by omega⟩
  intro p
  cases v with
  | null =>
    obtain ⟨q, hq⟩ := readNode_null fuel rest p
    exact ⟨_, q, hq, .null _ _⟩
  | bool b =>
    obtain ⟨q, hq⟩ := readNode_bool fuel b rest p
    exact ⟨_, q, hq, .bool _ b _⟩
  | int n =>
    obtain ⟨start, q, hq⟩ := readNode_int n (Nat.succ_pos fuel) hrest p
    exact ⟨_, q, hq, .int start _ (value?_ofInt hv.1 hv.2)⟩
  | float x => exact hv.elim
  | str s =>
    obtain ⟨q, hq⟩ := readNode_str fuel s rest p
    exact ⟨_, q, hq, .str _ s _⟩
  | arr vs =>
    cases vs with
    | nil =>
      simp only [write, List.length_cons] at hfuel ⊢
      obtain ⟨fuel, rfl⟩ : ∃ k, fuel = k + 1 := ⟨fuel - 1, by omega⟩
      exact ⟨_, _, by rw [readNode_array, readItems_close], .arr _ (.closed _)⟩
    | cons v vs =>
      -- a bracket is one character, worth four units of fuel, and two are spent before the item
      have hlen' := length_write v hv.1 (writeItems vs rest)
      simp only [write, List.length_cons] at hfuel ⊢
      obtain ⟨fuel, rfl⟩ : ∃ k, fuel = k + 2 := ⟨fuel - 2, by omega⟩
      have ih := readNode_write v hv.1 fuel _ (writeItems_endsNumber vs rest) (by omega)
      have ih' := readItems_write vs hv.2 fuel rest (by omega)
      obtain ⟨items, q, hq, hitems⟩ := reads_item ih ih' (p.after '[')
      exact ⟨_, q, by rw [readNode_array, (readItems_of_readItem hv.1 _).1, hq], .arr _ hitems⟩
  | obj ms =>
    cases ms with
    | nil =>
      simp only [write, List.length_cons] at hfuel ⊢
      obtain ⟨fuel, rfl⟩ : ∃ k, fuel = k + 1 := ⟨fuel - 1, by omega⟩
      exact ⟨_, _, by rw [readNode_object, readMembers_close], .obj _ (.closed _)⟩
    | cons m ms =>
      obtain ⟨k, v⟩ := m
      -- three units are spent before the value, and the quotes of its key alone are worth eight
      have hlen' := length_write v hv.1 (writeMembers ms rest)
      have hkey := length_writeString k (':' :: v.write (writeMembers ms rest))
      simp only [write, List.length_cons] at hfuel hkey ⊢
      obtain ⟨fuel, rfl⟩ : ∃ k, fuel = k + 3 := ⟨fuel - 3, by omega⟩
      have ih := readNode_write v hv.1 fuel _ (writeMembers_endsNumber ms rest) (by omega)
      have ih' := readMembers_write ms hv.2 (fuel + 1) rest (by omega)
      obtain ⟨members, q, hq, hmembers⟩ :=
        reads_member ih ih' (some (p.after '\x7b')) k (p.after '\x7b')
      exact ⟨_, q, by rw [readNode_object, (readMembers_of_readMember k _).1, hq], .obj _ hmembers⟩

theorem readItems_write (vs : List Json) (hvs : PlainItems vs) (fuel : Nat) (rest : List Char)
    (hfuel : 4 * (writeItems vs rest).length ≤ fuel) :
    Reads (readItems fuel false) (ShowsItems · vs) (writeItems vs rest) rest := by
  have hlen := length_writeItems vs hvs rest
  intro p
  cases vs with
  | nil =>
    obtain ⟨fuel, rfl⟩ : ∃ k, fuel = k + 1 := ⟨fuel - 1, by omega⟩
    exact ⟨_, _, readItems_close fuel false rest p, .closed _⟩
  | cons v vs =>
    have hlen' := length_write v hvs.1 (writeItems vs rest)
    simp only [writeItems, List.length_cons] at hfuel ⊢
    obtain ⟨fuel, rfl⟩ : ∃ k, fuel = k + 2 := ⟨fuel - 2, by omega⟩
    have ih := readNode_write v hvs.1 fuel _ (writeItems_endsNumber vs rest) (by omega)
    have ih' := readItems_write vs hvs.2 fuel rest (by omega)
    rw [(readItems_of_readItem hvs.1 p).2]
    exact reads_item ih ih' (p.after ',')

theorem readMembers_write (ms : List (String × Json)) (hms : PlainMembers ms) (fuel : Nat)
    (rest : List Char) (hfuel : 4 * (writeMembers ms rest).length ≤ fuel) :
    Reads (readMembers fuel false) (ShowsMembers · ms) (writeMembers ms rest) rest := by
  have hlen := length_writeMembers ms hms rest
  intro p
  cases ms with
  | nil =>
    obtain ⟨fuel, rfl⟩ : ∃ k, fuel = k + 1 := ⟨fuel - 1, by omega⟩
    exact ⟨_, _, readMembers_close fuel false rest p, .closed _⟩
  | cons m ms =>
    obtain ⟨k, v⟩ := m
    have hlen' := length_write v hms.1 (writeMembers ms rest)
    have hkey := length_writeString k (':' :: v.write (writeMembers ms rest))
    simp only [writeMembers, List.length_cons] at hfuel hkey ⊢
    obtain ⟨fuel, rfl⟩ : ∃ k, fuel = k + 3 := ⟨fuel - 3, by omega⟩
    have ih := readNode_write v hms.1 fuel _ (writeMembers_endsNumber ms rest) (by omega)
    have ih' := readMembers_write ms hms.2 (fuel + 1) rest (by omega)
    rw [(readMembers_of_readMember k p).2]
    exact reads_member ih ih' (some p) k (p.after ',')

end

namespace Node

/-! ## From a tree to its value -/

theorem toOption_bind {α β : Type} (x : Except Fault α) (f : α → Except Fault β) :
    (x >>= f).toOption = x.toOption.bind fun a => (f a).toOption := by
  cases x <;> rfl

theorem toOption_map {α β : Type} (x : Except Fault α) (f : α → β) :
    (x.map f).toOption = x.toOption.map f := by
  cases x <;> rfl

mutual

/-- A tree that shows a value gives it back if its brackets are not nested too deep. -/
theorem toJson_of_shows (v : Json) {n : Node} (budget : Nat) (hn : Shows n v) :
    (n.toJson budget).toOption = if v.depth ≤ budget then some v.sorted else none := by
  cases v with
  | arr vs =>
    cases hn with
    | arr start h =>
      cases budget with
      | zero => rfl
      | succ budget =>
        rw [toJson, toOption_map, toItems_of_shows vs budget h]
        simp only [Json.depth, Json.sorted, Nat.add_le_add_iff_right]
        split <;> rfl
  | obj ms =>
    cases hn with
    | obj start h =>
      cases budget with
      | zero => rfl
      | succ budget =>
        rw [toJson, toOption_map, toMembers_of_shows ms budget h]
        simp only [Json.depth, Json.sorted, Nat.add_le_add_iff_right]
        split <;> rfl
  | int n =>
    cases hn with
    | int start stop h => simp [toJson, h, Json.depth, Json.sorted, Except.toOption]
  | _ => cases hn <;> simp [toJson, Json.depth, Json.sorted, Except.toOption]

theorem toItems_of_shows (vs : List Json) {items : Items} (budget : Nat)
    (hitems : ShowsItems items vs) :
    (toItems budget items).toOption =
      if Json.depthItems vs ≤ budget then some (Json.sortedItems vs) else none := by
  cases vs with
  | nil =>
    cases hitems with
    | closed stop => simp [toItems, Json.depthItems, Json.sortedItems, Except.toOption]
  | cons v vs =>
    cases hitems with
    | item h hrest =>
      rw [toItems, toOption_bind, toJson_of_shows v budget h]
      simp only [toOption_bind, toItems_of_shows vs budget hrest, Json.depthItems, Json.sortedItems,
        Nat.max_le]
      by_cases hv : v.depth ≤ budget <;> by_cases hvs : Json.depthItems vs ≤ budget <;>
        simp [hv, hvs, Except.toOption, pure, Except.pure]

theorem toMembers_of_shows (ms : List (String × Json)) {members : Members} (budget : Nat)
    (hmembers : ShowsMembers members ms) :
    (toMembers budget members).toOption =
      if Json.depthMembers ms ≤ budget then some (Json.sortedValues ms) else none := by
  cases ms with
  | nil =>
    cases hmembers with
    | closed stop => simp [toMembers, Json.depthMembers, Json.sortedValues, Except.toOption]
  | cons m ms =>
    obtain ⟨k, v⟩ := m
    cases hmembers with
    | member here start _ stop after h hrest =>
      simp only [toMembers]
      rw [toOption_bind, toJson_of_shows v budget h]
      simp only [toOption_bind, toMembers_of_shows ms budget hrest, Json.depthMembers,
        Json.sortedValues, Nat.max_le]
      by_cases hv : v.depth ≤ budget <;> by_cases hms : Json.depthMembers ms ≤ budget <;>
        simp [hv, hms, Except.toOption, pure, Except.pure]

end

end Node

/-! ## Members in key order -/

namespace KeyMap

variable {α : Type}

theorem insert_last {key : String} (value : α) {m : KeyMap α} (h : ∀ e ∈ m, e.1 < key) :
    insert key value m = m ++ [(key, value)] := by
  induction m with
  | nil => rfl
  | cons e rest ih =>
    obtain ⟨k, v⟩ := e
    have hk : k < key := h _ List.mem_cons_self
    have hne : key ≠ k := fun heq => String.lt_irrefl k (heq ▸ hk)
    have hnot : ¬ key < k := String.lt_asymm hk
    rw [insert, if_neg hne, if_neg hnot, ih fun e he => h e (List.mem_cons_of_mem _ he),
      List.cons_append]

/-- Entries in key order are a map as they stand. -/
theorem ofList_of_pairwise {m : KeyMap α} (h : m.Pairwise fun a b => a.1 < b.1) : ofList m = m := by
  have hfold : ∀ (before rest : KeyMap α), (before ++ rest).Pairwise (fun a b => a.1 < b.1) →
      rest.foldl (fun m e => insert e.1 e.2 m) before = before ++ rest := by
    intro before rest
    induction rest generalizing before with
    | nil => simp
    | cons e rest ih =>
      intro hpair
      have hlast : ∀ e' ∈ before, e'.1 < e.1 := fun e' he' =>
        (List.pairwise_append.mp hpair).2.2 e' he' e List.mem_cons_self
      -- each entry in turn comes after all those put in before it
      rw [List.foldl_cons, insert_last e.2 hlast, ih _ (by simpa using hpair), List.append_assoc]
      rfl
  exact hfold [] m h

end KeyMap

namespace Json

mutual

/-- The members of every object are in key order, each key once. -/
def InKeyOrder : Json → Prop
  | .arr items => ItemsInKeyOrder items
  | .obj members => (members.Pairwise fun a b => a.1 < b.1) ∧ MembersInKeyOrder members
  | _ => True

def ItemsInKeyOrder : List Json → Prop
  | [] => True
  | v :: rest => InKeyOrder v ∧ ItemsInKeyOrder rest

def MembersInKeyOrder : List (String × Json) → Prop
  | [] => True
  | (_, v) :: rest => InKeyOrder v ∧ MembersInKeyOrder rest

end

mutual

theorem sorted_of_inKeyOrder (v : Json) (h : v.InKeyOrder) : v.sorted = v := by
  cases v with
  | arr vs => rw [sorted, sortedItems_of_inKeyOrder vs h]
  | obj ms => rw [sorted, sortedValues_of_inKeyOrder ms h.2, KeyMap.ofList_of_pairwise h.1]
  | _ => rfl

theorem sortedItems_of_inKeyOrder (vs : List Json) (h : ItemsInKeyOrder vs) :
    sortedItems vs = vs := by
  cases vs with
  | nil => rfl
  | cons v vs => rw [sortedItems, sorted_of_inKeyOrder v h.1, sortedItems_of_inKeyOrder vs h.2]

theorem sortedValues_of_inKeyOrder (ms : List (String × Json)) (h : MembersInKeyOrder ms) :
    sortedValues ms = ms := by
  cases ms with
  | nil => rfl
  | cons m ms =>
    obtain ⟨k, v⟩ := m
    rw [sortedValues, sorted_of_inKeyOrder v h.1, sortedValues_of_inKeyOrder ms h.2]

end

/-! ## Whole texts -/

theorem read_text {v : Json} (hv : v.Plain) :
    ∃ root, Document.read v.text = ⟨root, none⟩ ∧ root.Shows v := by
  obtain ⟨root, q, hq, hroot⟩ := readNode_write v hv (4 * (v.write []).length + 4) []
    (by simp [EndsNumber]) (by omega) .start
  refine ⟨root, ?_, hroot⟩
  rw [Document.read, text, String.toList_ofList]
  simp [hq, Cursor.skipBlanks, Cursor.skipBlanks.go]

/-- The text of a plain value gives it back with its members in key order, unless it is nested
deeper than texts may be. -/
theorem parse?_text {v : Json} (hv : v.Plain) :
    parse? v.text = if v.depth ≤ maxNesting then some v.sorted else none := by
  obtain ⟨root, hread, hroot⟩ := read_text hv
  rw [parse?, parse, hread, Document.readAs, Node.toOption_bind,
    Node.toJson_of_shows v maxNesting hroot]
  split <;> rfl

theorem parse_text {v : Json} (hv : v.Plain) (hdepth : v.depth ≤ maxNesting) :
    parse v.text = .ok v.sorted := by
  have hparse := parse?_text hv
  rw [if_pos hdepth, parse?] at hparse
  cases h : parse v.text with
  | error fault =>
    rw [h] at hparse
    cases hparse
  | ok w =>
    rw [h] at hparse
    cases hparse
    rfl

end Json

end ScriptBench
