import Mathlib.Data.List.Forall2
import Mathlib.Data.List.Nodup
import ScriptBench.Json.Decoder

/-!
What a decoder reads from an untyped value, said without the walk through the tree.

A decoder reads a relation (`ReadsAs`) if what it gives for a value is exactly what the relation
allows for it. Strings and lists read the obvious ones (`string_reads`, `list_reads`).

A record is a list of slots, each with its name, the relation its decoder reads and its place in the
value (`Slot`, `Layout`). Given as an object, a record is read slot by slot: each is told by the
only member of its name, or keeps what it had where there is none and it may be left out
(`record_object`). The order of the members does not matter, nor do members of other names. Given as
an array, a record without optional fields is read item by item (`record_array`).

The nesting limit plays no part: it is enough that as many brackets may be opened as the value has.
-/
namespace ScriptBench

/-! ## Computations that may fail -/

theorem bind_eq_ok_iff {ε α β : Type} {x : Except ε α} {f : α → Except ε β} {b : β} :
    x >>= f = .ok b ↔ ∃ a, x = .ok a ∧ f a = .ok b := by
  cases x <;> simp [bind, Except.bind]

theorem map_eq_ok_iff {ε α β : Type} {x : Except ε α} {f : α → β} {b : β} :
    x.map f = .ok b ↔ ∃ a, x = .ok a ∧ f a = b := by
  cases x <;> simp [Except.map]

theorem map_eq_error_iff {ε α β : Type} {x : Except ε α} {f : α → β} {e : ε} :
    x.map f = .error e ↔ x = .error e := by
  cases x <;> simp [Except.map]

/-! ## Depth -/

theorem Json.depthItems_cons_le {v : Json} {rest : List Json} {n : Nat} :
    depthItems (v :: rest) ≤ n ↔ v.depth ≤ n ∧ depthItems rest ≤ n := by
  rw [depthItems, Nat.max_le]

theorem Json.depthMembers_cons_le {k : String} {v : Json} {rest : List (String × Json)} {n : Nat} :
    depthMembers ((k, v) :: rest) ≤ n ↔ v.depth ≤ n ∧ depthMembers rest ≤ n := by
  rw [depthMembers, Nat.max_le]

/-! ## Members by name -/

/-- Of the members of a name there is one, and its value denotes `x`; or there is none, and `x` is
what is taken then. -/
def Member {β : Type} (ms : List (String × Json)) (name : String) (Denotes : Json → β → Prop)
    (default : Option β) (x : β) : Prop :=
  match ms.filter (·.1 = name) with
  | [] => default = some x
  | [(_, v)] => Denotes v x
  | _ => False

namespace Node

mutual

theorem skip_ofJson : ∀ v : Json, (ofJson v).skip = none
  | .arr items => by simpa only [ofJson, skip] using skipItems_ofItems items
  | .obj ms => by simpa only [ofJson, skip] using skipMembers_ofMembers ms
  | .null | .bool _ | .int _ | .float _ | .str _ => rfl

theorem skipItems_ofItems : ∀ items : List Json, skipItems (ofItems items) = none
  | [] => rfl
  | v :: rest => by simp [ofItems, skipItems, skip_ofJson v, skipItems_ofItems rest]

theorem skipMembers_ofMembers : ∀ ms : List (String × Json), skipMembers (ofMembers ms) = none
  | [] => rfl
  | (k, v) :: rest => by
    simp [ofMembers, skipMembers, skip, skip_ofJson v, skipMembers_ofMembers rest]

end

theorem mismatch_ne_ok {α : Type} (n : Node) (expected : String) (x : α) :
    n.mismatch expected ≠ .ok x := by
  intro h
  cases n with
  | numeral start literal stop =>
    simp only [mismatch] at h
    split at h <;> cases h
  | _ => cases h

end Node

namespace Decoder

variable {α β : Type}

theorem locate_eq_ok_iff {place : Place} {r : Except Fault α} {x : α} :
    locate place r = .ok x ↔ r = .ok x := by
  unfold locate
  split <;> simp

/-- What the decoder gives for an untyped value is what the relation allows, if there are brackets
enough to open. -/
def ReadsAs (read : Decoder α) (Denotes : Json → α → Prop) : Prop :=
  ∀ v budget, v.depth ≤ budget → ∀ x, read budget (Node.ofJson v) = .ok x ↔ Denotes v x

/-! ## Strings and lists -/

theorem string_reads : ReadsAs string fun v s => v = .str s := by
  intro v budget _ s
  cases v with
  | str t => simp [string, Node.ofJson]
  | _ => simp [string, Node.ofJson, Node.mismatch_ne_ok]

theorem items_ok_iff {read : Decoder α} {Denotes : Json → α → Prop} (h : ReadsAs read Denotes)
    {budget : Nat} :
    ∀ vs, Json.depthItems vs ≤ budget → ∀ xs,
      items read budget (Node.ofItems vs) = .ok xs ↔ List.Forall₂ Denotes vs xs := by
  intro vs
  induction vs with
  | nil => intro _ xs; simp [Node.ofItems, items, eq_comm]
  | cons v rest ih =>
    intro hdepth xs
    obtain ⟨hv, hrest⟩ := Json.depthItems_cons_le.mp hdepth
    simp only [Node.ofItems, items, bind_eq_ok_iff, locate_eq_ok_iff, h v budget hv, ih hrest, pure,
      Except.pure, Except.ok.injEq, List.forall₂_cons_left_iff]
    constructor
    · rintro ⟨x, hx, xs, hxs, rfl⟩
      exact ⟨x, xs, hx, hxs, rfl⟩
    · rintro ⟨x, xs, hx, hxs, rfl⟩
      exact ⟨x, hx, xs, hxs, rfl⟩

theorem enter_of_lt {n budget : Nat} (h : n + 1 ≤ budget) (start : Place) :
    ∃ inner, enter budget start = .ok inner ∧ n ≤ inner := by
  obtain _ | inner := budget
  · omega
  · exact ⟨inner, rfl, by omega⟩

theorem list_reads {read : Decoder α} {Denotes : Json → α → Prop} (h : ReadsAs read Denotes) :
    ReadsAs (list read) fun v xs => ∃ vs, v = .arr vs ∧ List.Forall₂ Denotes vs xs := by
  intro v budget hdepth xs
  cases v with
  | arr vs =>
    obtain ⟨inner, henter, hinner⟩ := enter_of_lt (n := Json.depthItems vs) hdepth none
    simp [list, Node.ofJson, henter, bind, Except.bind, items_ok_iff h vs hinner]
  | _ => simp [list, Node.ofJson, Node.mismatch_ne_ok]

/-! ## Records -/

/-- A field of a record: what its decoder reads, and its place in the value. -/
structure Slot (α : Type) where
  {β : Type}
  name : String
  required : Bool
  read : Decoder β
  get : α → β
  set : β → α → α
  Denotes : Json → β → Prop
  reads : ReadsAs read Denotes
  get_set : ∀ x a, get (set x a) = x

namespace Slot

def field (s : Slot α) : Field α :=
  ⟨s.name, s.required, fun budget n => (s.read budget n).map s.set⟩

/-- What is taken where the field is left out. -/
def default (s : Slot α) (acc : α) : Option s.β := if s.required then none else some (s.get acc)

/-- What further members say of the field: nothing if it was met before, else its value in `r`. -/
def Filled (s : Slot α) (seen : List String) (acc : α) (ms : List (String × Json)) (r : α) : Prop :=
  if s.name ∈ seen then ms.filter (·.1 = s.name) = [] ∧ s.get r = s.get acc
  else Member ms s.name s.Denotes (s.default acc) (s.get r)

variable {s : Slot α} {seen seen' : List String} {acc acc' r : α} {ms rest : List (String × Json)}
  {k : String} {v : Json}

theorem filled_cons_of_ne (h : k ≠ s.name) :
    s.Filled seen acc ((k, v) :: rest) r ↔ s.Filled seen acc rest r := by
  have hfilter : ((k, v) :: rest).filter (·.1 = s.name) = rest.filter (·.1 = s.name) := by simp [h]
  simp only [Filled, Member, hfilter]

theorem filled_cons_self (h : s.name ∉ seen) :
    s.Filled seen acc ((s.name, v) :: rest) r ↔
      s.Denotes v (s.get r) ∧ rest.filter (·.1 = s.name) = [] := by
  have hfilter : ((s.name, v) :: rest).filter (·.1 = s.name) =
      (s.name, v) :: rest.filter (·.1 = s.name) := by
    simp
  simp only [Filled, if_neg h, Member, hfilter]
  cases rest.filter (·.1 = s.name) <;> simp

theorem not_filled_cons_self (h : s.name ∈ seen) : ¬ s.Filled seen acc ((s.name, v) :: rest) r := by
  simp [Filled, h]

/-- Only the name among those met and the own place matter. -/
theorem filled_congr (hseen : s.name ∈ seen ↔ s.name ∈ seen') (hget : s.get acc = s.get acc') :
    s.Filled seen acc ms r ↔ s.Filled seen' acc' ms r := by
  simp only [Filled, default, hseen, hget]

end Slot

/-- The fields do not share names or places, and there is nothing in the value but them. -/
structure Layout (slots : List (Slot α)) : Prop where
  names : (slots.map (·.name)).Nodup
  apart : ∀ s ∈ slots, ∀ t ∈ slots, t.name ≠ s.name → ∀ x a, t.get (s.set x a) = t.get a
  whole : ∀ a b, (∀ s ∈ slots, s.get a = s.get b) → a = b

namespace Layout

variable {slots : List (Slot α)} {seen : List String} {acc r : α} {ms rest : List (String × Json)}

theorem eq_of_name_eq (h : Layout slots) {s t : Slot α} (hs : s ∈ slots) (ht : t ∈ slots)
    (hname : s.name = t.name) : s = t :=
  List.inj_on_of_nodup_map h.names hs ht hname

theorem name_ne_of_mem {done left : List (Slot α)} {s t : Slot α} (h : Layout (done ++ s :: left))
    (ht : t ∈ done) : t.name ≠ s.name := by
  have hnames := h.names
  simp only [List.map_append, List.map_cons, List.nodup_append] at hnames
  exact hnames.2.2 t.name (List.mem_map_of_mem ht) s.name List.mem_cons_self

theorem find?_field (h : Layout slots) {s : Slot α} (hs : s ∈ slots) :
    (slots.map Slot.field).find? (·.name == s.name) = some s.field := by
  have hfound : (slots.find? (·.name == s.name)).isSome := List.find?_isSome.mpr ⟨s, hs, by simp⟩
  obtain ⟨t, ht⟩ := Option.isSome_iff_exists.mp hfound
  have hname : t.name = s.name := by simpa using List.find?_some ht
  obtain rfl := h.eq_of_name_eq (List.mem_of_find?_eq_some ht) hs hname
  rw [List.find?_map]
  exact congrArg (Option.map Slot.field) ht

theorem filled_nil (h : Layout slots) :
    (∀ s ∈ slots, s.Filled seen acc [] r) ↔
      (∀ s ∈ slots, s.required → s.name ∈ seen) ∧ acc = r := by
  have hslot (s : Slot α) :
      s.Filled seen acc [] r ↔ (s.required → s.name ∈ seen) ∧ s.get acc = s.get r := by
    by_cases hseen : s.name ∈ seen
    · simp [Slot.Filled, hseen, eq_comm (a := s.get r)]
    · cases hrequired : s.required <;> simp [Slot.Filled, Slot.default, Member, hseen, hrequired]
  simp only [hslot]
  constructor
  · intro hall
    exact ⟨fun s hs => (hall s hs).1, h.whole acc r fun s hs => (hall s hs).2⟩
  · rintro ⟨hmet, rfl⟩ s hs
    exact ⟨hmet s hs, rfl⟩

theorem filled_cons (h : Layout slots) {s : Slot α} (hs : s ∈ slots) (hseen : s.name ∉ seen)
    {v : Json} :
    (∀ t ∈ slots, t.Filled seen acc ((s.name, v) :: rest) r) ↔
      ∃ x, s.Denotes v x ∧ ∀ t ∈ slots, t.Filled (s.name :: seen) (s.set x acc) rest r := by
  have hown (x : s.β) : s.Filled (s.name :: seen) (s.set x acc) rest r ↔
      rest.filter (·.1 = s.name) = [] ∧ s.get r = x := by
    simp [Slot.Filled, s.get_set]
  have hother (x : s.β) {t : Slot α} (ht : t ∈ slots) (hne : t.name ≠ s.name) :
      t.Filled seen acc ((s.name, v) :: rest) r ↔
          t.Filled (s.name :: seen) (s.set x acc) rest r := by
    rw [Slot.filled_cons_of_ne hne.symm]
    exact Slot.filled_congr (by simp [hne]) (h.apart s hs t ht hne x acc).symm
  constructor
  · intro hall
    obtain ⟨hdenotes, hlast⟩ := (Slot.filled_cons_self hseen).mp (hall s hs)
    refine ⟨s.get r, hdenotes, fun t ht => ?_⟩
    by_cases hname : t.name = s.name
    · obtain rfl := h.eq_of_name_eq ht hs hname
      exact (hown _).mpr ⟨hlast, rfl⟩
    · exact (hother _ ht hname).mp (hall t ht)
  · rintro ⟨x, hdenotes, hall⟩ t ht
    by_cases hname : t.name = s.name
    · obtain rfl := h.eq_of_name_eq ht hs hname
      obtain ⟨hlast, rfl⟩ := (hown x).mp (hall t ht)
      exact (Slot.filled_cons_self hseen).mpr ⟨hdenotes, hlast⟩
    · exact (hother x ht hname).mpr (hall t ht)

/-- Reading members fills every slot with what the members say of it. -/
theorem fieldMembers_ok_iff (h : Layout slots) {budget : Nat} :
    ∀ ms seen acc, Json.depthMembers ms ≤ budget → ∀ r,
      fieldMembers (slots.map Slot.field) budget seen acc (Node.ofMembers ms) = .ok r ↔
        ∀ s ∈ slots, s.Filled seen acc ms r := by
  intro ms
  induction ms with
  | nil =>
    intro seen acc _ r
    rw [h.filled_nil]
    simp only [Node.ofMembers, fieldMembers]
    cases hfind : (slots.map Slot.field).find? fun f => f.required && !seen.contains f.name with
    | some f =>
      simp only [List.find?_map, Option.map_eq_some_iff] at hfind
      obtain ⟨s, hs, rfl⟩ := hfind
      obtain ⟨hrequired, hunmet⟩ : s.required ∧ ¬ seen.contains s.name := by
        simpa [-List.contains_eq_mem, Slot.field] using List.find?_some hs
      refine iff_of_false (by simp) fun hall => ?_
      exact hunmet (List.contains_iff_mem.mpr (hall.1 s (List.mem_of_find?_eq_some hs) hrequired))
    | none =>
      have hmet : ∀ s ∈ slots, s.required → s.name ∈ seen := by
        intro s hs hrequired
        simpa [Slot.field, hrequired] using List.find?_eq_none.mp hfind s.field
          (List.mem_map_of_mem hs)
      simp only [Except.ok.injEq, iff_and_self]
      exact fun _ => hmet
  | cons member rest ih =>
    obtain ⟨k, v⟩ := member
    intro seen acc hdepth r
    obtain ⟨hv, hrest⟩ := Json.depthMembers_cons_le.mp hdepth
    simp only [Node.ofMembers, fieldMembers, bind_eq_ok_iff, string, Except.ok.injEq,
      exists_eq_left']
    by_cases hk : ∃ s ∈ slots, s.name = k
    · obtain ⟨s, hs, rfl⟩ := hk
      rw [h.find?_field hs]
      by_cases hseen : s.name ∈ seen
      · have htwice : ¬ ∀ t ∈ slots, t.Filled seen acc ((s.name, v) :: rest) r :=
          fun hall => Slot.not_filled_cons_self hseen (hall s hs)
        simp [hseen, htwice]
      · rw [h.filled_cons hs hseen]
        simp only [Slot.field, List.contains_eq_mem, hseen, decide_false, Bool.false_eq_true,
          if_false, bind_eq_ok_iff, locate_eq_ok_iff, map_eq_ok_iff, s.reads v budget hv,
          ih _ _ hrest]
        constructor
        · rintro ⟨_, ⟨x, hx, rfl⟩, hall⟩
          exact ⟨x, hx, hall⟩
        · rintro ⟨x, hx, hall⟩
          exact ⟨_, ⟨x, hx, rfl⟩, hall⟩
    · have hunknown : (slots.map Slot.field).find? (·.name == k) = none := by
        simpa [Slot.field] using hk
      rw [hunknown]
      simp only [Node.skip_ofJson, ih _ _ hrest]
      refine forall₂_congr fun t ht => (Slot.filled_cons_of_ne ?_).symm
      exact fun hname => hk ⟨t, ht, hname.symm⟩

/-- A record given as an object. -/
theorem record_object (h : Layout slots) {name : String} {blank : α} {budget : Nat}
    (hdepth : Json.depth (.obj ms) ≤ budget) :
    record name blank (slots.map Slot.field) budget (Node.ofJson (.obj ms)) = .ok r ↔
      ∀ s ∈ slots, Member ms s.name s.Denotes (s.default blank) (s.get r) := by
  obtain ⟨inner, henter, hinner⟩ := enter_of_lt (n := Json.depthMembers ms) hdepth none
  simp [record, Node.ofJson, henter, bind, Except.bind, h.fieldMembers_ok_iff ms [] blank hinner,
    Slot.Filled]

/-- Reading items fills the slots that are left in their order and leaves those before them. -/
theorem fieldItems_ok_iff (whole : String) {budget : Nat} :
    ∀ (left done : List (Slot α)), Layout (done ++ left) → (∀ s ∈ left, s.required) →
      ∀ vs count acc, Json.depthItems vs ≤ budget → ∀ r,
        fieldItems whole budget count (left.map Slot.field) acc (Node.ofItems vs) = .ok r ↔
          List.Forall₂ (fun v s => s.Denotes v (s.get r)) vs left ∧
            ∀ s ∈ done, s.get acc = s.get r := by
  intro left
  induction left with
  | nil =>
    intro done h _ vs count acc _ r
    cases vs with
    | nil =>
      have hwhole : (∀ s ∈ done, s.get acc = s.get r) ↔ acc = r :=
        ⟨h.whole acc r ∘ fun hall s hs => hall s (by simpa using hs), by rintro rfl _ _; rfl⟩
      simp [Node.ofItems, fieldItems, noFurther, hwhole, bind, Except.bind, pure, Except.pure]
    | cons v rest =>
      obtain ⟨fault, hfurther⟩ :
          ∃ fault, noFurther count (.item (Node.ofJson v) (Node.ofItems rest)) = .error fault := by
        simp only [noFurther]
        split <;> exact ⟨_, rfl⟩
      simp [Node.ofItems, fieldItems, hfurther, bind, Except.bind]
  | cons s left ih =>
    intro done h hrequired vs count acc hdepth r
    cases vs with
    | nil => simp [Node.ofItems, fieldItems, Slot.field, hrequired s List.mem_cons_self]
    | cons v rest =>
      obtain ⟨hv, hrest⟩ := Json.depthItems_cons_le.mp hdepth
      have happend : (done ++ [s]) ++ left = done ++ s :: left := by simp
      have hleft :=
        ih (done ++ [s]) (happend ▸ h) (fun t ht => hrequired t (List.mem_cons_of_mem _ ht))
          rest (count + 1)
      -- what was done stays, and the slot just filled holds what was read
      have hdone (x : s.β) : (∀ t ∈ done ++ [s], t.get (s.set x acc) = t.get r) ↔
          (∀ t ∈ done, t.get acc = t.get r) ∧ x = s.get r := by
        have hapart : ∀ t ∈ done, t.get (s.set x acc) = t.get acc := fun t ht =>
          h.apart s (by simp) t (by simp [ht]) (h.name_ne_of_mem ht) x acc
        simp only [List.mem_append, List.mem_singleton, or_imp, forall_and, forall_eq, s.get_set]
        exact and_congr_left fun _ => forall₂_congr fun t ht => by rw [hapart t ht]
      simp only [Node.ofItems, List.map_cons, fieldItems, bind_eq_ok_iff, locate_eq_ok_iff,
        Slot.field, map_eq_ok_iff, s.reads v budget hv, List.forall₂_cons]
      constructor
      · rintro ⟨_, ⟨x, hx, rfl⟩, hok⟩
        obtain ⟨hitems, hkept⟩ := (hleft _ hrest r).mp hok
        obtain ⟨hstay, rfl⟩ := (hdone x).mp hkept
        exact ⟨⟨hx, hitems⟩, hstay⟩
      · rintro ⟨⟨hx, hitems⟩, hkept⟩
        exact ⟨_, ⟨_, hx, rfl⟩, (hleft _ hrest r).mpr ⟨hitems, (hdone _).mpr ⟨hkept, rfl⟩⟩⟩

/-- A record given as an array, if none of its fields may be left out. -/
theorem record_array (h : Layout slots) (hrequired : ∀ s ∈ slots, s.required) {name : String}
    {blank : α} {vs : List Json} {budget : Nat} (hdepth : Json.depth (.arr vs) ≤ budget) :
    record name blank (slots.map Slot.field) budget (Node.ofJson (.arr vs)) = .ok r ↔
      List.Forall₂ (fun v s => s.Denotes v (s.get r)) vs slots := by
  obtain ⟨inner, henter, hinner⟩ := enter_of_lt (n := Json.depthItems vs) hdepth none
  have hitems :=
    fieldItems_ok_iff ("struct " ++ name ++ " with " ++ elements slots.length) slots [] h
      hrequired vs 0 blank hinner r
  simpa [record, Node.ofJson, henter, bind, Except.bind] using hitems

end Layout

end Decoder

end ScriptBench
