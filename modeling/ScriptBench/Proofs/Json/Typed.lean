import Mathlib.Data.List.Perm.Basic
import ScriptBench.Json.Decoder
import ScriptBench.Proofs.Json.ReadBack

/-!
Typed values are read from what they are written as.

A decoder accepts a value if it makes the same thing of every tree that shows it, as long as there
are brackets enough to open (`Accepts`); it is bounded by the value if it fails on all these trees
when there are not (`Bounded`).

1. Strings, truth values, numbers, words out of a list, untyped values, values that may be missing
   and lists are accepted (`accepts_string` to `accepts_list`).
2. A record is accepted as it is written, and with its members in key order (`acceptsBoth_record`).
3. What is accepted in both orders is read back from its text, at once or through the untyped value
   of the text (`read_back`), unless the text is nested too deep; then both ways fail
   (`not_read_back`).
-/
namespace ScriptBench

open Node (ShowsItems ShowsMembers)

/-! ## Entries and their order -/

namespace KeyMap

variable {α β : Type}

theorem perm_insert {key : String} {value : α} {m : KeyMap α} (h : key ∉ m.map (·.1)) :
    (insert key value m).Perm ((key, value) :: m) := by
  induction m with
  | nil => exact .refl _
  | cons e rest ih =>
    obtain ⟨k, v⟩ := e
    simp only [List.map_cons, List.mem_cons, not_or] at h
    rw [insert, if_neg h.1]
    split
    · exact .refl _
    · exact ((ih h.2).cons _).trans (.swap _ _ _)

theorem perm_ofList {entries : List (String × α)} (h : (entries.map (·.1)).Nodup) :
    (ofList entries).Perm entries := by
  have hfold : ∀ (rest : List (String × α)) (m : KeyMap α), ((m ++ rest).map (·.1)).Nodup →
      (rest.foldl (fun m e => insert e.1 e.2 m) m).Perm (m ++ rest) := by
    intro rest
    induction rest with
    | nil => intro m _; simp
    | cons e rest ih =>
      intro m hm
      have hnot : e.1 ∉ m.map (·.1) := by
        rw [List.map_append, List.nodup_append] at hm
        intro he
        exact hm.2.2 _ he _ (List.mem_map_of_mem List.mem_cons_self) rfl
      have hinsert : (insert e.1 e.2 m ++ rest).Perm (m ++ e :: rest) :=
        ((perm_insert hnot).append_right rest).trans List.perm_middle.symm
      rw [List.foldl_cons]
      exact (ih _ ((hinsert.map _).nodup_iff.mpr hm)).trans hinsert
  exact hfold entries [] (by simpa using h)

theorem mem_insert {key : String} {value : α} {m : KeyMap α} {e : String × α}
    (h : e ∈ insert key value m) :
    e = (key, value) ∨ e ∈ m := by
  induction m with
  | nil => exact .inl (List.mem_singleton.mp h)
  | cons d rest ih =>
    obtain ⟨k, v⟩ := d
    unfold insert at h
    split at h
    · rcases List.mem_cons.mp h with h | h
      · exact .inl h
      · exact .inr (List.mem_cons_of_mem _ h)
    · split at h
      · exact List.mem_cons.mp h
      · rcases List.mem_cons.mp h with h | h
        · exact .inr (h ▸ List.mem_cons_self)
        · exact (ih h).imp_right (List.mem_cons_of_mem _)

theorem mem_of_mem_ofList {entries : List (String × α)} {e : String × α} (h : e ∈ ofList entries) :
    e ∈ entries := by
  have hfold : ∀ (rest : List (String × α)) (m : KeyMap α),
      e ∈ rest.foldl (fun m e => insert e.1 e.2 m) m → e ∈ m ∨ e ∈ rest := by
    intro rest
    induction rest with
    | nil => exact fun m he => .inl he
    | cons d rest ih =>
      intro m he
      rcases ih _ he with he | he
      · rcases mem_insert he with rfl | he
        · exact .inr List.mem_cons_self
        · exact .inl he
      · exact .inr (List.mem_cons_of_mem _ he)
  simpa using hfold entries [] h

theorem map_ofList (f : α → β) (entries : List (String × α)) :
    (ofList entries).map (fun e => (e.1, f e.2)) = ofList (entries.map fun e => (e.1, f e.2)) := by
  have hinsert : ∀ (key : String) (value : α) (m : KeyMap α),
      (insert key value m).map (fun e => (e.1, f e.2)) =
          insert key (f value) (m.map fun e => (e.1, f e.2)) := by
    intro key value m
    induction m with
    | nil => rfl
    | cons e rest ih =>
      obtain ⟨k, v⟩ := e
      simp only [insert, List.map_cons]
      split
      · rfl
      · split
        · rfl
        · rw [List.map_cons, ih]
  have hfold : ∀ (rest : List (String × α)) (m : KeyMap α),
      (rest.foldl (fun m e => insert e.1 e.2 m) m).map (fun e => (e.1, f e.2)) =
        (rest.map fun e => (e.1, f e.2)).foldl (fun m e => insert e.1 e.2 m)
            (m.map fun e => (e.1, f e.2)) := by
    intro rest
    induction rest with
    | nil => exact fun m => rfl
    | cons e rest ih =>
      intro m
      rw [List.foldl_cons, ih, hinsert]
      rfl
  exact hfold entries []

end KeyMap

namespace Json

theorem sortedItems_eq_map (vs : List Json) : sortedItems vs = vs.map sorted := by
  induction vs with
  | nil => rfl
  | cons v vs ih => rw [sortedItems, ih, List.map_cons]

theorem sortedValues_eq_map (ms : List (String × Json)) :
    sortedValues ms = ms.map fun m => (m.1, m.2.sorted) := by
  induction ms with
  | nil => rfl
  | cons m ms ih =>
    obtain ⟨k, v⟩ := m
    rw [sortedValues, ih, List.map_cons]

theorem depthMembers_perm {ms ms' : List (String × Json)} (h : ms.Perm ms') :
    depthMembers ms = depthMembers ms' := by
  induction h with
  | nil => rfl
  | cons m _ ih => rw [depthMembers, depthMembers, ih]
  | swap m m' ms =>
    simp only [depthMembers]
    omega
  | trans _ _ ih ih' => exact ih.trans ih'

/-- Putting members with different names in order nests nothing deeper or less deep. -/
theorem depth_sorted_obj {ms : List (String × Json)} (h : (ms.map (·.1)).Nodup) :
    (Json.obj ms).sorted.depth = depthMembers (sortedValues ms) + 1 := by
  have hkeys : (sortedValues ms).map (·.1) = ms.map (·.1) := by
    rw [sortedValues_eq_map, List.map_map]
    rfl
  rw [sorted, depth, depthMembers_perm (KeyMap.perm_ofList (hkeys ▸ h))]

/-! ## Values without numbers -/

mutual

/-- A value that holds no number. -/
def Unnumbered : Json → Prop
  | .int _ => False
  | .float _ => False
  | .arr items => UnnumberedItems items
  | .obj members => UnnumberedMembers members
  | _ => True

def UnnumberedItems : List Json → Prop
  | [] => True
  | v :: rest => Unnumbered v ∧ UnnumberedItems rest

def UnnumberedMembers : List (String × Json) → Prop
  | [] => True
  | (_, v) :: rest => Unnumbered v ∧ UnnumberedMembers rest

end

theorem unnumberedItems_iff {vs : List Json} : UnnumberedItems vs ↔ ∀ v ∈ vs, v.Unnumbered := by
  induction vs with
  | nil => simp [UnnumberedItems]
  | cons v vs ih => simp [UnnumberedItems, ih]

theorem unnumberedMembers_iff {ms : List (String × Json)} :
    UnnumberedMembers ms ↔ ∀ m ∈ ms, m.2.Unnumbered := by
  induction ms with
  | nil => simp [UnnumberedMembers]
  | cons m ms ih => simp [UnnumberedMembers, ih]

mutual

theorem Unnumbered.plain : ∀ v : Json, v.Unnumbered → v.Plain
  | .arr vs, h => Unnumbered.plainItems vs h
  | .obj ms, h => Unnumbered.plainMembers ms h
  | .null, _ | .bool _, _ | .str _, _ => trivial

theorem Unnumbered.plainItems : ∀ vs : List Json, UnnumberedItems vs → PlainItems vs
  | [], _ => trivial
  | v :: vs, h => ⟨Unnumbered.plain v h.1, Unnumbered.plainItems vs h.2⟩

theorem Unnumbered.plainMembers :
    ∀ ms : List (String × Json), UnnumberedMembers ms → PlainMembers ms
  | [], _ => trivial
  | (_, v) :: ms, h => ⟨Unnumbered.plain v h.1, Unnumbered.plainMembers ms h.2⟩

end

mutual

theorem Unnumbered.sorted : ∀ v : Json, v.Unnumbered → v.sorted.Unnumbered
  | .arr vs, h => Unnumbered.sortedItems vs h
  | .obj ms, h => by
    have hvalues := unnumberedMembers_iff.mp (Unnumbered.sortedValues ms h)
    exact unnumberedMembers_iff.mpr fun m hm => hvalues m (KeyMap.mem_of_mem_ofList hm)
  | .null, _ | .bool _, _ | .str _, _ => trivial

theorem Unnumbered.sortedItems :
    ∀ vs : List Json, UnnumberedItems vs → UnnumberedItems (sortedItems vs)
  | [], _ => trivial
  | v :: vs, h => ⟨Unnumbered.sorted v h.1, Unnumbered.sortedItems vs h.2⟩

theorem Unnumbered.sortedValues :
    ∀ ms : List (String × Json), UnnumberedMembers ms → UnnumberedMembers (sortedValues ms)
  | [], _ => trivial
  | (_, v) :: ms, h => ⟨Unnumbered.sorted v h.1, Unnumbered.sortedValues ms h.2⟩

end

end Json

namespace Node

open Json (Unnumbered UnnumberedItems UnnumberedMembers)

mutual

theorem shows_ofJson : ∀ v : Json, v.Unnumbered → Shows (ofJson v) v
  | .null, _ => .null none none
  | .bool b, _ => .bool none b none
  | .str s, _ => .str none s none
  | .arr vs, h => .arr none (showsItems_ofItems vs h)
  | .obj ms, h => .obj none (showsMembers_ofMembers ms h)

theorem showsItems_ofItems : ∀ vs : List Json, UnnumberedItems vs → ShowsItems (ofItems vs) vs
  | [], _ => .closed none
  | v :: vs, h => .item (shows_ofJson v h.1) (showsItems_ofItems vs h.2)

theorem showsMembers_ofMembers :
    ∀ ms : List (String × Json), UnnumberedMembers ms → ShowsMembers (ofMembers ms) ms
  | [], _ => .closed none
  | (k, v) :: ms, h =>
    .member none none k none none (shows_ofJson v h.1) (showsMembers_ofMembers ms h.2)

end

end Node

namespace Decoder

variable {α β : Type} {read : Decoder α} {v : Json} {x : α}

/-- The decoder makes `x` of every tree that shows the value, if there are brackets enough to
open. -/
def Accepts (read : Decoder α) (v : Json) (x : α) : Prop :=
  ∀ n, n.Shows v → ∀ budget, v.depth ≤ budget → read budget n = .ok x

/-- The decoder fails on every tree that shows the value, if there are not. -/
def Bounded (read : Decoder α) (v : Json) : Prop :=
  ∀ n, n.Shows v → ∀ budget, budget < v.depth → ∃ fault, read budget n = .error fault

/-! ## Scalars -/

theorem accepts_string (s : String) : Accepts string (.str s) s := by
  intro n hn budget _
  cases hn
  rfl

theorem accepts_bool (b : Bool) : Accepts bool (.bool b) b := by
  intro n hn budget _
  cases hn
  rfl

theorem accepts_choice {choices : List (String × α)} {name : String}
    (h : choices.lookup name = some x) :
    Accepts (choice choices) (.str name) x := by
  intro n hn budget _
  cases hn
  simp [choice, choose, h]

theorem accepts_parsed {parse : String → Except String α} {s : String} (h : parse s = .ok x)
    (expected : String) : Accepts (parsed expected parse) (.str s) x := by
  intro n hn budget _
  cases hn
  simp [parsed, h]

theorem accepts_any (h : v.sorted = v) : Accepts any v v := by
  intro n hn budget hdepth
  have hvalue := Node.toJson_of_shows v budget hn
  rw [if_pos hdepth, h] at hvalue
  show n.toJson budget = .ok v
  cases hread : n.toJson budget with
  | error fault => rw [hread] at hvalue; cases hvalue
  | ok w => rw [hread] at hvalue; cases hvalue; rfl

theorem accepts_natural (name : String) {limit k : Nat} (h : k ≤ limit) :
    Accepts (natural name limit) (.int k) k := by
  intro n hn budget _
  cases hn with
  | int start stop hvalue => simp [natural, Node.number?, hvalue, h]

theorem accepts_option_null (read : Decoder α) : Accepts (option read) .null none := by
  intro n hn budget _
  cases hn
  rfl

theorem accepts_option (h : Accepts read v x) (hv : v ≠ .null) :
    Accepts (option read) v (some x) := by
  intro n hn budget hdepth
  have hread := h n hn budget hdepth
  cases hn with
  | null start stop => exact absurd rfl hv
  | _ => rw [option, hread, Except.map]; exact fun _ _ hnull => nomatch hnull

theorem bounded_of_depth_eq_zero (h : v.depth = 0) : Bounded read v := by
  intro n _ budget hbudget
  omega

/-! ## Lists -/

theorem items_of_accepts {vs : List Json} {xs : List α} (h : List.Forall₂ (Accepts read) vs xs)
    {items : Items} (hitems : ShowsItems items vs) {budget : Nat}
    (hdepth : Json.depthItems vs ≤ budget) :
    Decoder.items read budget items = .ok xs := by
  induction h generalizing items with
  | nil =>
    cases hitems
    rfl
  | cons hread _ ih =>
    cases hitems with
    | item hn hrest =>
      rw [Json.depthItems, Nat.max_le] at hdepth
      rw [Decoder.items, hread _ hn budget hdepth.1]
      show (Decoder.items read budget _ >>= _) = _
      rw [ih hrest hdepth.2]
      rfl

theorem items_of_bounded {vs : List Json} (h : ∀ v ∈ vs, Bounded read v) {items : Items}
    (hitems : ShowsItems items vs) {budget : Nat} (hdepth : budget < Json.depthItems vs) :
    ∃ fault, Decoder.items read budget items = .error fault := by
  induction vs generalizing items with
  | nil => exact absurd hdepth (Nat.not_lt_zero _)
  | cons v vs ih =>
    cases hitems with
    | @item n _ rest _ hn hrest =>
      have hdepth : budget < v.depth ∨ budget < Json.depthItems vs := by
        rw [Json.depthItems] at hdepth
        omega
      rw [Decoder.items]
      -- the item is too deep, or fails anyway, or one of the others is too deep
      cases hread : read budget n with
      | error fault => exact (exists_locate_error rest.here fault).imp fun f hf => by rw [hf]; rfl
      | ok x =>
        have hv : ¬ budget < v.depth := by
          intro hlt
          obtain ⟨fault, hfault⟩ := h v List.mem_cons_self n hn budget hlt
          rw [hread] at hfault
          cases hfault
        obtain ⟨fault, hfault⟩ := ih (fun w hw => h w (List.mem_cons_of_mem _ hw)) hrest
          (hdepth.resolve_left hv)
        exact ⟨fault, by show (Decoder.items read budget rest >>= _) = _; rw [hfault]; rfl⟩
where
  exists_locate_error (place : Place) (fault : Fault) :
      ∃ fault', locate place (.error fault : Except Fault α) = .error fault' := by
    obtain ⟨reason, at_⟩ := fault
    cases at_ <;> exact ⟨_, rfl⟩

theorem accepts_list {vs : List Json} {xs : List α} (h : List.Forall₂ (Accepts read) vs xs) :
    Accepts (list read) (.arr vs) xs := by
  intro n hn budget hdepth
  cases hn with
  | arr start hitems =>
    rw [Json.depth] at hdepth
    obtain ⟨inner, rfl⟩ : ∃ k, budget = k + 1 := ⟨budget - 1, by omega⟩
    exact items_of_accepts h hitems (Nat.le_of_succ_le_succ hdepth)

theorem bounded_list {vs : List Json} (h : ∀ v ∈ vs, Bounded read v) :
    Bounded (list read) (.arr vs) := by
  intro n hn budget hdepth
  cases hn with
  | arr start hitems =>
    rw [Json.depth] at hdepth
    cases budget with
    | zero => exact ⟨_, rfl⟩
    | succ inner => exact items_of_bounded h hitems (Nat.lt_of_succ_lt_succ hdepth)

/-! ## Records -/

/-- A member of a record: its name, its value, and what its value does to the record. -/
abbrev Entry (α : Type) := String × Json × (α → α)

/-- The members as they are written. -/
def written (entries : List (Entry α)) : List (String × Json) := entries.map fun e => (e.1, e.2.1)

/-- The record that members make of another one. -/
def filled (entries : List (Entry α)) (blank : α) : α :=
  entries.foldl (fun acc e => e.2.2 acc) blank

/-- Every member is one that a field accepts. -/
def Fit (fields : List (Field α)) (entries : List (Entry α)) : Prop :=
  ∀ e ∈ entries, ∃ f, fields.find? (·.name == e.1) = some f ∧ Accepts f.read e.2.1 e.2.2

theorem fieldMembers_of_fit {fields : List (Field α)} {entries : List (Entry α)}
    (hfit : Fit fields entries) (hnames : (entries.map (·.1)).Nodup) {members : Members}
    (hmembers : ShowsMembers members (written entries)) {budget : Nat}
    (hdepth : Json.depthMembers (written entries) ≤ budget) {seen : List String}
    (hseen : ∀ e ∈ entries, e.1 ∉ seen)
    (hall : ∀ f ∈ fields, f.required = true → f.name ∈ seen ∨ f.name ∈ entries.map (·.1))
    (acc : α) :
    fieldMembers fields budget seen acc members = .ok (filled entries acc) := by
  induction entries generalizing members seen acc with
  | nil =>
    cases hmembers with
    | closed stop =>
      have hnone : fields.find? (fun f => f.required && !seen.contains f.name) = none := by
        rw [List.find?_eq_none]
        intro f hf hopen
        simp only [Bool.and_eq_true, Bool.not_eq_true'] at hopen
        rcases hall f hf hopen.1 with hmet | hmet
        · simp [hmet] at hopen
        · cases hmet
      rw [fieldMembers, hnone]
      rfl
  | cons e rest ih =>
    obtain ⟨k, v, set⟩ := e
    rw [written, List.map_cons] at hmembers
    cases hmembers with
    | member here start _ stop after hn hrest =>
      rw [written, List.map_cons, Json.depthMembers, Nat.max_le] at hdepth
      obtain ⟨f, hf, hread⟩ := hfit _ List.mem_cons_self
      have hnew : seen.contains k = false := by simpa using hseen _ List.mem_cons_self
      rw [List.map_cons, List.nodup_cons] at hnames
      have hfresh : ∀ d ∈ rest, d.1 ∉ k :: seen := by
        intro d hd hmet
        rcases List.mem_cons.mp hmet with heq | hmet
        · have hmem : d.1 ∈ rest.map (·.1) := List.mem_map_of_mem hd
          exact hnames.1 (heq ▸ hmem)
        · exact hseen d (List.mem_cons_of_mem _ hd) hmet
      have hleft : ∀ f ∈ fields, f.required = true → f.name ∈ k :: seen ∨
          f.name ∈ rest.map (·.1) := by
        intro f hf hrequired
        rcases hall f hf hrequired with hmet | hmet
        · exact .inl (List.mem_cons_of_mem _ hmet)
        · rcases List.mem_cons.mp hmet with heq | hmet
          · exact .inl (heq ▸ List.mem_cons_self)
          · exact .inr hmet
      have hrun : fieldMembers fields budget (k :: seen) (set acc) _ =
          .ok (filled rest (set acc)) :=
        ih (fun d hd => hfit d (List.mem_cons_of_mem _ hd)) hnames.2 hrest hdepth.2
          hfresh hleft (set acc)
      rw [fieldMembers]
      simp only [string, bind, Except.bind, hf, hnew, hread _ hn budget hdepth.1, locate,
        Bool.false_eq_true, if_false]
      exact hrun

/-- A member that is too deep, or an earlier one, makes the record fail. -/
theorem fieldMembers_of_bounded {fields : List (Field α)} {ms : List (String × Json)}
    (h : ∀ m ∈ ms, ∃ f, fields.find? (·.name == m.1) = some f ∧ Bounded f.read m.2)
    {members : Members} (hmembers : ShowsMembers members ms) {budget : Nat}
    (hdepth : budget < Json.depthMembers ms) (seen : List String) (acc : α) :
    ∃ fault, fieldMembers fields budget seen acc members = .error fault := by
  induction ms generalizing members seen acc with
  | nil => exact absurd hdepth (Nat.not_lt_zero _)
  | cons m ms ih =>
    obtain ⟨k, v⟩ := m
    cases hmembers with
    | @member n _ rest _ here start _ stop after hn hrest =>
      have hdepth : budget < v.depth ∨ budget < Json.depthMembers ms := by
        rw [Json.depthMembers] at hdepth
        omega
      obtain ⟨f, hf, hbounded⟩ := h _ List.mem_cons_self
      rw [fieldMembers]
      simp only [string, bind, Except.bind, hf]
      split
      · exact ⟨_, rfl⟩
      · cases hread : f.read budget n with
        | error fault =>
          obtain ⟨reason, place⟩ := fault
          cases place <;> exact ⟨_, rfl⟩
        | ok set =>
          have hv : ¬ budget < v.depth := by
            intro hlt
            obtain ⟨fault, hfault⟩ := hbounded n hn budget hlt
            rw [hread] at hfault
            cases hfault
          exact ih (fun m hm => h m (List.mem_cons_of_mem _ hm)) hrest
            (hdepth.resolve_left hv) (k :: seen) (set acc)

theorem accepts_need {name : String} {set : α → β → β} (h : Accepts read v x) :
    Accepts (Field.need name read set).read v (set x) := by
  intro n hn budget hdepth
  simp [Field.need, h n hn budget hdepth, Except.map]

theorem accepts_opt {name : String} {set : α → β → β} (h : Accepts read v x) :
    Accepts (Field.opt name read set).read v (set x) :=
  @accepts_need α β read v x name set h

theorem bounded_need {name : String} {set : α → β → β} (h : Bounded read v) :
    Bounded (Field.need name read set).read v := by
  intro n hn budget hdepth
  obtain ⟨fault, hfault⟩ := h n hn budget hdepth
  exact ⟨fault, by simp [Field.need, hfault, Except.map]⟩

/-- The fields of a record are given by members in their order; each accepts its value as it is
written and with all objects in it in key order. -/
inductive Matches : List (Field α) → List (Entry α) → Prop where
  | nil : Matches [] []
  | cons {f : Field α} {fields : List (Field α)} {v : Json} {set : α → α} {entries : List (Entry α)}
    (h : Accepts f.read v set) (hsorted : Accepts f.read v.sorted set)
    (hrest : Matches fields entries) :
    Matches (f :: fields) ((f.name, v, set) :: entries)

/-- The fields of a record are given by members in their order, each bounded by its value. -/
def MatchesBounded (fields : List (Field α)) (ms : List (String × Json)) : Prop :=
  List.Forall₂ (fun f m => f.name = m.1 ∧ Bounded f.read m.2) fields ms

/-- The entries of a record with their values in key order. -/
def sortedEntries (entries : List (Entry α)) : List (Entry α) :=
  entries.map fun e => (e.1, e.2.1.sorted, e.2.2)

namespace Matches

variable {fields : List (Field α)} {entries : List (Entry α)}

theorem names (h : Matches fields entries) : entries.map (·.1) = fields.map (·.name) := by
  induction h with
  | nil => rfl
  | cons _ _ _ ih => exact congrArg _ ih

/-- With different names every member is met by its own field. -/
theorem fit (h : Matches fields entries) (hnames : (fields.map (·.name)).Nodup) :
    Fit fields entries ∧ Fit fields (sortedEntries entries) := by
  -- each entry is met by a field of its name, which is the first of this name
  have hfound : ∀ {fs : List (Field α)} {es : List (Entry α)}, Matches fs es →
    (fs.map (·.name)).Nodup →
      ∀ e ∈ es, ∃ f, fs.find? (·.name == e.1) = some f ∧ Accepts f.read e.2.1 e.2.2 ∧
        Accepts f.read e.2.1.sorted e.2.2 := by
    intro fs es hmatches hdistinct
    induction hmatches with
    | nil => intro e he; cases he
    | @cons f fields v set entries hread hsorted hrest ih =>
      rw [List.map_cons, List.nodup_cons] at hdistinct
      intro e he
      rcases List.mem_cons.mp he with rfl | he
      · exact ⟨f, by simp, hread, hsorted⟩
      · obtain ⟨g, hg, haccepts⟩ := ih hdistinct.2 e he
        have hne : (f.name == e.1) = false := by
          rw [beq_eq_false_iff_ne]
          intro heq
          have hmem : e.1 ∈ fields.map (·.name) := hrest.names ▸ List.mem_map_of_mem he
          exact hdistinct.1 (heq ▸ hmem)
        exact ⟨g, by rw [List.find?_cons, hne]; exact hg, haccepts⟩
  refine ⟨fun e he => ?_, fun e he => ?_⟩
  · obtain ⟨f, hf, haccepts, -⟩ := hfound h hnames e he
    exact ⟨f, hf, haccepts⟩
  · obtain ⟨d, hd, rfl⟩ := List.mem_map.mp he
    obtain ⟨f, hf, -, haccepts⟩ := hfound h hnames d hd
    exact ⟨f, hf, haccepts⟩

end Matches

/-- What two members do to a record does not depend on which comes first. -/
def Commute (entries : List (Entry α)) : Prop :=
  ∀ d ∈ entries, ∀ e ∈ entries, ∀ acc, e.2.2 (d.2.2 acc) = d.2.2 (e.2.2 acc)

theorem filled_perm {entries entries' : List (Entry α)} (h : entries.Perm entries')
    (hcomm : Commute entries) (blank : α) : filled entries blank = filled entries' blank :=
  h.foldl_eq' (fun d hd e he acc => hcomm d hd e he acc) blank

/-- A record whose members fit is accepted in any order of its members. -/
theorem accepts_of_fit {name : String} {blank : α} {fields : List (Field α)}
    {entries : List (Entry α)} (hfit : Fit fields entries) (hnames : (entries.map (·.1)).Nodup)
    (hall : ∀ f ∈ fields, f.required = true → f.name ∈ entries.map (·.1)) :
    Accepts (record name blank fields) (.obj (written entries)) (filled entries blank) := by
  intro n hn budget hdepth
  cases hn with
  | obj start hmembers =>
    rw [Json.depth] at hdepth
    obtain ⟨inner, rfl⟩ : ∃ k, budget = k + 1 := ⟨budget - 1, by omega⟩
    exact fieldMembers_of_fit hfit hnames hmembers (Nat.le_of_succ_le_succ hdepth) (by simp)
      (fun f hf hrequired => .inr (hall f hf hrequired)) blank

/-- Accepted as it is written, and with all objects in it in key order. -/
def AcceptsBoth (read : Decoder α) (v : Json) (x : α) : Prop :=
  Accepts read v x ∧ Accepts read v.sorted x

theorem acceptsBoth_of_sorted (h : Accepts read v x) (hv : v.sorted = v) : AcceptsBoth read v x :=
  ⟨h, hv.symm ▸ h⟩

theorem Matches.need {fields : List (Field β)} {entries : List (Entry β)} {name : String}
    {set : α → β → β} (h : AcceptsBoth read v x) (hrest : Matches fields entries) :
    Matches (.need name read set :: fields) ((name, v, set x) :: entries) :=
  .cons (accepts_need h.1) (accepts_need h.2) hrest

theorem MatchesBounded.need {fields : List (Field β)} {ms : List (String × Json)} {name : String}
    {set : α → β → β} (h : Bounded read v) (hrest : MatchesBounded fields ms) :
    MatchesBounded (.need name read set :: fields) ((name, v) :: ms) :=
  .cons ⟨rfl, bounded_need h⟩ hrest

theorem acceptsBoth_record {name : String} {blank : α} {fields : List (Field α)}
    {entries : List (Entry α)} (h : Matches fields entries) (hnames : (fields.map (·.name)).Nodup)
    (hcomm : Commute entries) (hv : v = .obj (written entries)) (hx : x = filled entries blank) :
    AcceptsBoth (record name blank fields) v x := by
  subst hv hx
  have hentries : (entries.map (·.1)).Nodup := h.names ▸ hnames
  have hall : ∀ f ∈ fields, f.required = true → f.name ∈ entries.map (·.1) := fun f hf _ =>
    h.names ▸ List.mem_map_of_mem hf
  have hfit := h.fit hnames
  refine ⟨accepts_of_fit hfit.1 hentries hall, ?_⟩
  -- in key order the same entries stand in another order
  let ordered : List (Entry α) := KeyMap.ofList (sortedEntries entries)
  have hkeys : (sortedEntries entries).map (·.1) = entries.map (·.1) := by
    simp [sortedEntries, Function.comp_def]
  have hperm : ordered.Perm (sortedEntries entries) := KeyMap.perm_ofList (hkeys ▸ hentries)
  have hordered : (ordered.map (·.1)).Perm (entries.map (·.1)) := hkeys ▸ hperm.map _
  have hwritten : (Json.obj (written entries)).sorted = .obj (written ordered) := by
    have hmap := KeyMap.map_ofList (fun e : Json × (α → α) => e.1) (sortedEntries entries)
    rw [Json.sorted, Json.sortedValues_eq_map]
    refine congrArg Json.obj (Eq.trans ?_ hmap.symm)
    simp [written, sortedEntries, Function.comp_def]
  have hsame : filled ordered blank = filled entries blank := by
    have hcomm' : Commute (sortedEntries entries) := by
      intro d hd e he acc
      obtain ⟨d₀, hd₀, rfl⟩ := List.mem_map.mp hd
      obtain ⟨e₀, he₀, rfl⟩ := List.mem_map.mp he
      exact hcomm d₀ hd₀ e₀ he₀ acc
    rw [← filled_perm hperm.symm hcomm' blank]
    simp [filled, sortedEntries, List.foldl_map]
  rw [hwritten, ← hsame]
  exact accepts_of_fit (fun e he => hfit.2 e (hperm.mem_iff.mp he))
    (hordered.nodup_iff.mpr hentries)
    fun f hf hrequired => hordered.mem_iff.mpr (hall f hf hrequired)

theorem acceptsBoth_list {vs : List Json} {xs : List α}
    (h : List.Forall₂ (AcceptsBoth read) vs xs) :
    AcceptsBoth (list read) (.arr vs) xs := by
  refine ⟨accepts_list (h.imp fun _ _ hboth => hboth.1), ?_⟩
  rw [Json.sorted, Json.sortedItems_eq_map]
  exact accepts_list (List.forall₂_map_left_iff.mpr (h.imp fun _ _ hboth => hboth.2))

theorem MatchesBounded.find {fields : List (Field α)} {ms : List (String × Json)}
    (h : MatchesBounded fields ms) (hnames : (fields.map (·.name)).Nodup) :
    ∀ m ∈ ms, ∃ f, fields.find? (·.name == m.1) = some f ∧ Bounded f.read m.2 := by
  induction h with
  | nil => intro m hm; cases hm
  | @cons f m fields ms hf hrest ih =>
    rw [List.map_cons, List.nodup_cons] at hnames
    intro m' hm'
    rcases List.mem_cons.mp hm' with rfl | hm'
    · exact ⟨f, by simp [hf.1], hf.2⟩
    · obtain ⟨g, hg, hbounded⟩ := ih hnames.2 m' hm'
      have hmem : m'.1 ∈ fields.map (·.name) := by
        have hname : g.name = m'.1 := by simpa using List.find?_some hg
        exact hname ▸ List.mem_map_of_mem (List.mem_of_find?_eq_some hg)
      have hne : (f.name == m'.1) = false := by
        rw [beq_eq_false_iff_ne]
        intro heq
        exact hnames.1 (heq ▸ hmem)
      exact ⟨g, by rw [List.find?_cons, hne]; exact hg, hbounded⟩

theorem bounded_record {name : String} {blank : α} {fields : List (Field α)}
    {ms : List (String × Json)} (h : MatchesBounded fields ms)
    (hnames : (fields.map (·.name)).Nodup) :
    Bounded (record name blank fields) (.obj ms) := by
  intro n hn budget hdepth
  cases hn with
  | obj start hmembers =>
    rw [Json.depth] at hdepth
    cases budget with
    | zero => exact ⟨_, rfl⟩
    | succ inner =>
      exact fieldMembers_of_bounded (h.find hnames) hmembers
        (Nat.lt_of_succ_lt_succ hdepth) [] blank

/-! ## Lists that are written one by one -/

section Map

variable {write : α → Json}

theorem acceptsBoth_map (h : ∀ x, AcceptsBoth read (write x) x) (xs : List α) :
    AcceptsBoth (list read) (.arr (xs.map write)) xs :=
  acceptsBoth_list (List.forall₂_map_left_iff.mpr (List.forall₂_same.mpr fun x _ => h x))

theorem bounded_map (h : ∀ x, Bounded read (write x)) (xs : List α) :
    Bounded (list read) (.arr (xs.map write)) :=
  bounded_list (List.forall_mem_map.mpr fun x _ => h x)

theorem unnumbered_map (h : ∀ x, (write x).Unnumbered) (xs : List α) :
    Json.UnnumberedItems (xs.map write) :=
  Json.unnumberedItems_iff.mpr (List.forall_mem_map.mpr fun x _ => h x)

theorem depthItems_map {limit : Nat} (h : ∀ x, (write x).depth ≤ limit) (xs : List α) :
    Json.depthItems (xs.map write) ≤ limit := by
  induction xs with
  | nil => exact Nat.zero_le _
  | cons x xs ih => exact Nat.max_le.mpr ⟨h x, ih⟩

end Map

/-! ## Texts -/

/-- What is accepted is read back from its text. -/
theorem ofText_of_accepts (hv : v.Plain) (hread : Accepts read v x)
    (hdepth : v.depth ≤ maxNesting) :
    ofText read v.text = .ok x := by
  obtain ⟨root, hdocument, hroot⟩ := Json.read_text hv
  rw [ofText, hdocument, Document.readAs, hread root hroot maxNesting hdepth]
  rfl

/-- What is accepted in both orders is read back from its text, at once or through the untyped value
of the text. -/
theorem read_back (hv : v.Unnumbered) (hread : AcceptsBoth read v x)
    (hdepth : v.depth ≤ maxNesting) :
    ofText read v.text = .ok x ∧ ∃ w, Json.parse v.text = .ok w ∧ ofJson read w = .ok x := by
  refine ⟨ofText_of_accepts hv.plain hread.1 hdepth, v.sorted, Json.parse_text hv.plain hdepth, ?_⟩
  exact hread.2 _ (Node.shows_ofJson _ hv.sorted) _ (Nat.le_refl _)

/-- A text that is nested too deep is read neither way. -/
theorem not_read_back (hv : v.Unnumbered) (hread : Bounded read v) (hdepth : maxNesting < v.depth) :
    (∃ fault, ofText read v.text = .error fault) ∧ ∃ fault, Json.parse v.text = .error fault := by
  obtain ⟨root, hdocument, hroot⟩ := Json.read_text hv.plain
  refine ⟨?_, ?_⟩
  · obtain ⟨fault, hfault⟩ := hread root hroot maxNesting hdepth
    exact ⟨fault, by rw [ofText, hdocument, Document.readAs, hfault]; rfl⟩
  · have hparse := Json.parse?_text hv.plain
    rw [if_neg (Nat.not_le_of_lt hdepth), Json.parse?] at hparse
    cases h : Json.parse v.text with
    | error fault => exact ⟨fault, rfl⟩
    | ok w => rw [h] at hparse; cases hparse

end Decoder

end ScriptBench
