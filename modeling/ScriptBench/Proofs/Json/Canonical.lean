import ScriptBench.Proofs.Json.Records
import ScriptBench.Proofs.Shared.Snapshot

/-!
What reading a text gives.

1. Every number in the tree of a text is a literal of the text (`written_readNode`, `written_read`).
2. So the value of a text has integers of 64 bits only, and its objects have their members in key
   order (`canonical_toJson`, `canonical_of_parse`).
3. A value like that without doubles is plain: its text gives it back as it is (`Canonical.plain`,
   `Canonical.sorted_eq`).
-/
namespace ScriptBench

namespace KeyMap

variable {α : Type}

theorem ordered_ofList (entries : List (String × α)) : Ordered (ofList entries) := by
  have hfold : ∀ (rest : List (String × α)) (m : KeyMap α), Ordered m →
      Ordered (rest.foldl (fun m e => insert e.1 e.2 m) m) := by
    intro rest
    induction rest with
    | nil => exact fun m hm => hm
    | cons e rest ih => exact fun m hm => ih _ (ordered_insert hm e.1 e.2)
  exact hfold entries [] .nil

end KeyMap

/-! ## Trees of texts -/

namespace Node

mutual

/-- A tree whose numbers are literals. -/
def Written : Node → Prop
  | .number _ => False
  | .array _ items => WrittenItems items
  | .object _ members => WrittenMembers members
  | _ => True

def WrittenItems : Items → Prop
  | .item v rest => Written v ∧ WrittenItems rest
  | _ => True

def WrittenMembers : Members → Prop
  | .member _ _ _ v rest => Written v ∧ WrittenMembers rest
  | _ => True

end

theorem written_readExponent (start : Place) (negative : Bool) (whole fraction : List Nat)
    (c : Cursor) :
    (readExponent start negative whole fraction c).1.Written := by
  unfold readExponent
  split
  · dsimp only
    split <;> trivial
  · trivial

theorem written_readFraction (start : Place) (negative : Bool) (whole : List Nat) (c : Cursor) :
    (readFraction start negative whole c).1.Written := by
  unfold readFraction
  split
  · dsimp only
    split
    · trivial
    · exact written_readExponent _ _ _ _ _
  · exact written_readExponent _ _ _ _ _

theorem written_readNumber (start : Place) (negative : Bool) (c : Cursor) :
    (readNumber start negative c).1.Written := by
  unfold readNumber
  split
  · trivial
  · split
    · trivial
    · exact written_readFraction _ _ _ _

theorem written_literalNode (start : Place) (c : Cursor) : (literalNode start c).1.Written := by
  unfold literalNode
  dsimp only
  split <;> trivial

mutual

theorem written_readNode (fuel : Nat) (c : Cursor) : (readNode fuel c).1.Written := by
  cases fuel with
  | zero => trivial
  | succ fuel =>
    unfold readNode
    dsimp only
    split
    · trivial
    · split
      · exact written_literalNode _ _
      split
      · exact written_readItems fuel true _
      split
      · exact written_readMembers fuel true _
      split
      · exact written_readNumber _ _ _
      split
      · exact written_readNumber _ _ _
      split
      · split <;> trivial
      split
      · split <;> trivial
      split
      · split <;> trivial
      · trivial

theorem written_readItems (fuel : Nat) (first : Bool) (c : Cursor) :
    WrittenItems (readItems fuel first c).1 := by
  cases fuel with
  | zero => trivial
  | succ fuel =>
    unfold readItems
    dsimp only
    split
    · trivial
    · split
      · trivial
      split
      · exact written_readItem fuel _
      split
      · split
        · trivial
        split
        · trivial
        · exact written_readItem fuel _
      · trivial

theorem written_readItem (fuel : Nat) (c : Cursor) : WrittenItems (readItem fuel c).1 := by
  cases fuel with
  | zero => trivial
  | succ fuel =>
    have hnode := written_readNode fuel c
    unfold readItem
    split
    · rename_i v hread
      rw [hread] at hnode
      exact ⟨hnode, trivial⟩
    · rename_i v c' hread
      rw [hread] at hnode
      exact ⟨hnode, written_readItems fuel false c'⟩

theorem written_readMembers (fuel : Nat) (first : Bool) (c : Cursor) :
    WrittenMembers (readMembers fuel first c).1 := by
  cases fuel with
  | zero => trivial
  | succ fuel =>
    unfold readMembers
    dsimp only
    split
    · trivial
    · split
      · trivial
      split
      · exact written_readMember fuel _ _
      split
      · exact written_readMember fuel _ _
      · trivial

theorem written_readMember (fuel : Nat) (here : Place) (c : Cursor) :
    WrittenMembers (readMember fuel here c).1 := by
  cases fuel with
  | zero => trivial
  | succ fuel =>
    unfold readMember
    split
    · trivial
    · split
      · dsimp only
        split
        · exact ⟨trivial, trivial⟩
        · rename_i key c' hkey
          have hvalue := written_readColon fuel c'.skipBlanks
          split
          · rename_i v hread
            rw [hread] at hvalue
            exact ⟨hvalue, trivial⟩
          · rename_i v c'' hread
            rw [hread] at hvalue
            exact ⟨hvalue, written_readMembers fuel false c''⟩
      split <;> trivial

theorem written_readColon (fuel : Nat) (c : Cursor) : (readColon fuel c).1.Written := by
  cases fuel with
  | zero => trivial
  | succ fuel =>
    unfold readColon
    split
    · trivial
    · split
      · exact written_readNode fuel _
      · trivial

end

theorem written_read (text : String) : (Document.read text).root.Written := by
  have hroot := written_readNode (4 * text.toList.length + 4) ⟨text.toList, .start⟩
  unfold Document.read
  dsimp only
  split
  · rename_i root hread
    rw [hread] at hroot
    exact hroot
  · rename_i root c hread
    rw [hread] at hroot
    exact hroot

end Node

/-! ## Values of texts -/

namespace Json

mutual

/-- A value whose integers fit 64 bits, signed or unsigned, and whose objects have their members in
key order. -/
def Canonical : Json → Prop
  | .int n => -(Nat.pow 2 63 : Int) ≤ n ∧ n < (Nat.pow 2 64 : Int)
  | .arr items => CanonicalItems items
  | .obj members => KeyMap.Ordered members ∧ CanonicalMembers members
  | _ => True

def CanonicalItems : List Json → Prop
  | [] => True
  | v :: rest => Canonical v ∧ CanonicalItems rest

def CanonicalMembers : List (String × Json) → Prop
  | [] => True
  | (_, v) :: rest => Canonical v ∧ CanonicalMembers rest

end

mutual

/-- A value that holds no double. -/
def Floatless : Json → Prop
  | .float _ => False
  | .arr items => FloatlessItems items
  | .obj members => FloatlessMembers members
  | _ => True

def FloatlessItems : List Json → Prop
  | [] => True
  | v :: rest => Floatless v ∧ FloatlessItems rest

def FloatlessMembers : List (String × Json) → Prop
  | [] => True
  | (_, v) :: rest => Floatless v ∧ FloatlessMembers rest

end

theorem canonicalMembers_iff {ms : List (String × Json)} :
    CanonicalMembers ms ↔ ∀ m ∈ ms, m.2.Canonical := by
  induction ms with
  | nil => simp [CanonicalMembers]
  | cons m ms ih => simp [CanonicalMembers, ih]

theorem canonical_ofMembers {ms : List (String × Json)} (h : CanonicalMembers ms) :
    (ofMembers ms).Canonical :=
  ⟨KeyMap.ordered_ofList ms,
    canonicalMembers_iff.mpr fun m hm => canonicalMembers_iff.mp h m (KeyMap.mem_of_mem_ofList hm)⟩

mutual

theorem Canonical.inKeyOrder : ∀ v : Json, v.Canonical → v.InKeyOrder
  | .arr vs, h => Canonical.itemsInKeyOrder vs h
  | .obj ms, h => ⟨h.1, Canonical.membersInKeyOrder ms h.2⟩
  | .null, _ | .bool _, _ | .int _, _ | .float _, _ | .str _, _ => trivial

theorem Canonical.itemsInKeyOrder : ∀ vs : List Json, CanonicalItems vs → ItemsInKeyOrder vs
  | [], _ => trivial
  | v :: vs, h => ⟨Canonical.inKeyOrder v h.1, Canonical.itemsInKeyOrder vs h.2⟩

theorem Canonical.membersInKeyOrder :
    ∀ ms : List (String × Json), CanonicalMembers ms → MembersInKeyOrder ms
  | [], _ => trivial
  | (_, v) :: ms, h => ⟨Canonical.inKeyOrder v h.1, Canonical.membersInKeyOrder ms h.2⟩

end

theorem Canonical.sorted_eq {v : Json} (h : v.Canonical) : v.sorted = v :=
  sorted_of_inKeyOrder v (Canonical.inKeyOrder v h)

mutual

theorem Canonical.plain : ∀ v : Json, v.Canonical → v.Floatless → v.Plain
  | .arr vs, h, hv => Canonical.plainItems vs h hv
  | .obj ms, h, hv => Canonical.plainMembers ms h.2 hv
  | .int _, h, _ => h
  | .null, _, _ | .bool _, _, _ | .str _, _, _ => trivial

theorem Canonical.plainItems :
    ∀ vs : List Json, CanonicalItems vs → FloatlessItems vs → PlainItems vs
  | [], _, _ => trivial
  | v :: vs, h, hv => ⟨Canonical.plain v h.1 hv.1, Canonical.plainItems vs h.2 hv.2⟩

theorem Canonical.plainMembers :
    ∀ ms : List (String × Json), CanonicalMembers ms → FloatlessMembers ms → PlainMembers ms
  | [], _, _ => trivial
  | (_, v) :: ms, h, hv => ⟨Canonical.plain v h.1 hv.1, Canonical.plainMembers ms h.2 hv.2⟩

end

end Json

open Json (Canonical CanonicalItems CanonicalMembers canonical_ofMembers)

theorem Numeral.gather_le {limit acc : Nat} (h : acc ≤ limit) (ds : List Nat) :
    (gather limit acc ds).1 ≤ limit := by
  induction ds generalizing acc with
  | nil => exact h
  | cons d rest ih =>
    rw [gather]
    split
    · rename_i hfits
      exact ih hfits
    · exact h

/-- A literal is a double, or an integer of 64 bits. -/
theorem Numeral.canonical_value? {n : Numeral} {v : Json} (h : n.value? = some v) :
    v.Canonical := by
  have hdouble : n.double?.map Json.float = some v → v.Canonical := by
    intro h
    obtain ⟨x, -, rfl⟩ := Option.map_eq_some_iff.mp h
    trivial
  unfold value? at h
  split at h
  · split at h
    · rename_i w hgather
      have hw : w ≤ maxSignificand := by
        have hle := gather_le (Nat.zero_le maxSignificand) n.whole
        rwa [hgather] at hle
      simp only [maxSignificand, Nat.pow_eq] at hw
      split at h
      · split at h
        · cases h
          trivial
        · rename_i hrange
          cases h
          simp only [Canonical, Nat.pow_eq] at hrange ⊢
          omega
      · cases h
        simp only [Canonical, Nat.pow_eq]
        omega
    · exact hdouble h
  · exact hdouble h

namespace Node

mutual

theorem canonical_toJson (n : Node) (budget : Nat) {v : Json} (hn : n.Written)
    (h : n.toJson budget = .ok v) : v.Canonical := by
  cases n with
  | number v => exact hn.elim
  | numeral start literal stop =>
    rw [toJson] at h
    split at h
    · rename_i w hvalue
      cases h
      exact Numeral.canonical_value? hvalue
    · cases h
  | array start items =>
    cases budget with
    | zero => cases h
    | succ budget =>
      obtain ⟨vs, hvs, rfl⟩ := map_eq_ok_iff.mp h
      exact canonical_toItems items budget hn hvs
  | object start members =>
    cases budget with
    | zero => cases h
    | succ budget =>
      obtain ⟨ms, hms, rfl⟩ := map_eq_ok_iff.mp h
      exact canonical_ofMembers (canonical_toMembers members budget hn hms)
  | broken start fault skipped => cases h
  | _ =>
    cases h
    trivial

theorem canonical_toItems (items : Items) (budget : Nat) {vs : List Json}
    (hitems : WrittenItems items) (h : toItems budget items = .ok vs) : CanonicalItems vs := by
  cases items with
  | closed stop =>
    cases h
    trivial
  | item n rest =>
    obtain ⟨v, hv, h⟩ := bind_eq_ok_iff.mp h
    obtain ⟨vs, hvs, h⟩ := bind_eq_ok_iff.mp h
    cases h
    exact ⟨canonical_toJson n budget hitems.1 hv, canonical_toItems rest budget hitems.2 hvs⟩
  | broken here fault skipped => cases h

theorem canonical_toMembers (members : Members) (budget : Nat) {ms : List (String × Json)}
    (hmembers : WrittenMembers members) (h : toMembers budget members = .ok ms) :
    CanonicalMembers ms := by
  cases members with
  | closed stop =>
    cases h
    trivial
  | member here key after n rest =>
    cases key with
    | str keyStart k stop =>
      obtain ⟨v, hv, h⟩ := bind_eq_ok_iff.mp h
      obtain ⟨ms, hms, h⟩ := bind_eq_ok_iff.mp h
      cases h
      exact ⟨canonical_toJson n budget hmembers.1 hv,
        canonical_toMembers rest budget hmembers.2 hms⟩
    | broken keyStart fault skipped => cases h
    | _ => exact canonical_toMembers rest budget hmembers.2 h
  | stray here n => cases h
  | broken here fault skipped => cases h

end

end Node

namespace Json

/-- Every value that is read from a text has integers of 64 bits only and its members in key
order. -/
theorem canonical_of_parse {text : String} {v : Json} (h : parse text = .ok v) : v.Canonical := by
  rw [parse, Document.readAs] at h
  obtain ⟨w, hw, h⟩ := bind_eq_ok_iff.mp h
  split at h
  · cases h
  · cases h
    exact Node.canonical_toJson _ _ (Node.written_read text) hw

end Json

end ScriptBench
