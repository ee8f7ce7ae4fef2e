import ScriptBench.Call
import ScriptBench.Proofs.Http.Requests

/-!
Which untyped values are arguments of which kind.

`Denotes` relates an untyped value to the argument it stands for. Reading an argument of a kind
gives what the value denotes, if that is of the kind (`Kind.read_ok_iff`), and else says what is
wanted in this place (`Kind.complains_of_read`). Of several arguments, read one after the other, the
first that does not fit is the one reported (`readAll_ok_iff`, `readAll_error`).
-/
namespace ScriptBench

namespace Argument

/-- What an operation wants in one place. -/
inductive Kind where
  | text
  | boolean
  | number
  | count
  | texts
  | request
  | any
  deriving DecidableEq, Repr

/-- How a kind is named to a caller who gave something else. -/
def Kind.wanted : Kind → String
  | .text => "a string"
  | .boolean => "a boolean"
  | .number => "a number"
  | .count => "a non-negative number"
  | .texts => "an array of strings"
  | .request => "a request object"
  | .any => "any value"

/-- An argument as a call carries it. -/
inductive Given where
  | text (s : String)
  | boolean (b : Bool)
  | number (x : Binary64)
  | count (n : Nat)
  | texts (ss : List String)
  | request (r : Request)
  | any (v : Json)

def Given.kind : Given → Kind
  | .text _ => .text
  | .boolean _ => .boolean
  | .number _ => .number
  | .count _ => .count
  | .texts _ => .texts
  | .request _ => .request
  | .any _ => .any

/-- An untyped value, and the argument it stands for. A number is taken as a double, a count as the
whole part, up to `maxCount`, of one that is not negative; a double that is not finite is no
number. -/
inductive Denotes : Json → Given → Prop
  | text (s : String) : Denotes (.str s) (.text s)
  | boolean (b : Bool) : Denotes (.bool b) (.boolean b)
  | wholeNumber (n : Int) : Denotes (.int n) (.number (.ofInt n))
  | number {x : Binary64} (h : x.isFinite) : Denotes (.float x) (.number x)
  | wholeCount (n : Nat) : Denotes (.int n) (.count n)
  | count {x : Binary64} {units : Nat} (h : x.signedUnits? = some (units : Int)) :
    Denotes (.float x) (.count (x.truncate maxCount))
  | texts (ss : List String) : Denotes (.arr (ss.map .str)) (.texts ss)
  | request {ms : List (String × Json)} {r : Request} (h : Request.Described ms r) :
    Denotes (.obj ms) (.request r)
  | any (v : Json) : Denotes v (.any v)

/-- A value may stand in a place of the kind. -/
def Kind.Fits (k : Kind) (v : Json) : Prop := ∃ g, Denotes v g ∧ g.kind = k

/-- What is said of a value that does not fit: what is wanted in its place or, of an object that is
no request, why it is none. -/
inductive Kind.Complains (place : Nat) : Kind → Json → ArgumentFault → Prop
  | wanted {k : Kind} {v : Json} (h : ∀ ms, k = .request → v ≠ .obj ms) :
    k.Complains place v (.wrongType place k.wanted)
  | badRequest {ms : List (String × Json)} {fault : Fault}
    (h : Decoder.ofJson Request.decoder (.obj ms) = .error fault) :
    Kind.Complains place .request (.obj ms) (.badRequest fault)

/-- Any value, as it is. -/
def untyped (_ : Nat) (v : Json) : Except ArgumentFault Json := .ok v

theorem Kind.Complains.of_ne {k : Kind} (h : k ≠ .request) {place : Nat} {v : Json} :
    k.Complains place v (.wrongType place k.wanted) :=
  .wanted fun _ hk => absurd hk h

/-- The first place whose value does not fit. -/
structure FirstUnfit (ks : List Kind) (vs : List Json) (place : Nat) (k : Kind) (v : Json) :
    Prop where
  wanted : ks[place]? = some k
  got : vs[place]? = some v
  unfit : ¬ k.Fits v
  lower : ∀ j < place, ∀ k' v', ks[j]? = some k' → vs[j]? = some v' → k'.Fits v'

/-- Reads an argument of a kind. -/
def Kind.read (place : Nat) (v : Json) : Kind → Except ArgumentFault Given
  | .text => (Argument.string place v).map .text
  | .boolean => (Argument.boolean place v).map .boolean
  | .number => (Argument.number place v).map .number
  | .count => (Argument.count place v).map .count
  | .texts => (Argument.strings place v).map .texts
  | .request => (Argument.request place v).map .request
  | .any => (untyped place v).map .any

variable {place : Nat} {v : Json} {k : Kind}

theorem string_ok_iff {s : String} : string place v = .ok s ↔ Denotes v (.text s) := by
  constructor
  · intro h
    cases v <;> simp [string] at h
    exact h ▸ .text _
  · rintro ⟨⟩
    rfl

theorem boolean_ok_iff {b : Bool} : boolean place v = .ok b ↔ Denotes v (.boolean b) := by
  constructor
  · intro h
    cases v <;> simp [boolean] at h
    exact h ▸ .boolean _
  · rintro ⟨⟩
    rfl

theorem number_ok_iff {x : Binary64} : number place v = .ok x ↔ Denotes v (.number x) := by
  constructor
  · intro h
    cases v with
    | int n =>
      obtain rfl : Binary64.ofInt n = x := by simpa [number] using h
      exact .wholeNumber n
    | float y =>
      simp only [number] at h
      split at h
      next hfinite =>
        obtain rfl : y = x := by simpa using h
        exact .number hfinite
      next => cases h
    | _ => cases h
  · rintro (_ | _ | _ | h)
    · rfl
    · exact if_pos h

/-- A finite double that is not below zero is a natural number of units. -/
theorem isFinite_and_zero_le_iff {x : Binary64} :
    (x.isFinite && Binary64.zero.le x) = true ↔ ∃ units : Nat, x.signedUnits? =
      some (units : Int) := by
  cases x with
  | nan | infinite => simp [Binary64.isFinite, Binary64.signedUnits?]
  | finite negative units =>
    have hzero : Binary64.zero.le (.finite negative units) = (!negative || units == 0) := by
      cases negative <;> cases units <;> simp [Binary64.le, Binary64.zero, Binary64.lt,
        Binary64.same]
    cases negative with
    | false => simp [Binary64.isFinite, hzero, Binary64.signedUnits?]
    | true =>
      simp only [Binary64.isFinite, hzero, Binary64.signedUnits?, Option.some.injEq]
      constructor
      · intro h
        exact ⟨0, by simpa using h⟩
      · rintro ⟨n, hn⟩
        obtain rfl : units = 0 := by omega
        rfl

theorem count_ok_iff {n : Nat} : Argument.count place v = .ok n ↔ Denotes v (.count n) := by
  constructor
  · intro h
    cases v with
    | int i =>
      simp only [Argument.count] at h
      split at h
      next hnonneg =>
        obtain ⟨m, rfl⟩ := Int.eq_ofNat_of_zero_le hnonneg
        obtain rfl : m = n := by simpa using h
        exact .wholeCount m
      next => cases h
    | float x =>
      simp only [Argument.count] at h
      split at h
      next hle =>
        obtain ⟨units, hunits⟩ := isFinite_and_zero_le_iff.mp hle
        obtain rfl : x.truncate maxCount = n := by simpa using h
        exact .count hunits
      next => cases h
    | _ => cases h
  · rintro (_ | _ | _ | _ | _ | hunits)
    · simp [Argument.count]
    · exact if_pos (isFinite_and_zero_le_iff.mpr ⟨_, hunits⟩)

theorem strings_ok_iff {ss : List String} : strings place v = .ok ss ↔ Denotes v (.texts ss) := by
  have hitems (vs : List Json) (ss : List String) : strings place (.arr vs) = .ok ss ↔
      vs = ss.map .str := by
    induction vs generalizing ss with
    | nil => cases ss <;> simp [strings, pure, Except.pure]
    | cons v rest ih =>
      simp only [strings] at ih
      cases v with
      | str t =>
        simp only [strings, List.mapM_cons, bind_eq_ok_iff, ih, pure, Except.pure, Except.ok.injEq]
        cases ss <;> simp [and_comm]
      | _ => cases ss <;> simp [strings, List.mapM_cons, bind, Except.bind]
  constructor
  · intro h
    cases v with
    | arr vs =>
      obtain rfl := (hitems vs ss).mp h
      exact .texts ss
    | _ => cases h
  · rintro ⟨⟩
    exact (hitems _ ss).mpr rfl

theorem request_ok_iff {r : Request} :
    Argument.request place v = .ok r ↔ Denotes v (.request r) := by
  cases v with
  | obj ms =>
    have hdecoder := Request.decoder_object ms r
    simp only [Argument.request]
    constructor
    · intro h
      split at h
      next r' hr =>
        obtain rfl : r' = r := by simpa using h
        exact .request (hdecoder.mp hr)
      next => cases h
    · rintro (_ | _ | _ | _ | _ | _ | _ | hr)
      rw [hdecoder.mpr hr]
  | _ => exact iff_of_false (fun h => by cases h) fun h => by cases h

theorem Kind.read_ok_iff {g : Given} : k.read place v = .ok g ↔ Denotes v g ∧ g.kind = k := by
  constructor
  · intro h
    cases k with
    | text => obtain ⟨s, hs, rfl⟩ := map_eq_ok_iff.mp h; exact ⟨string_ok_iff.mp hs, rfl⟩
    | boolean => obtain ⟨b, hb, rfl⟩ := map_eq_ok_iff.mp h; exact ⟨boolean_ok_iff.mp hb, rfl⟩
    | number => obtain ⟨x, hx, rfl⟩ := map_eq_ok_iff.mp h; exact ⟨number_ok_iff.mp hx, rfl⟩
    | count => obtain ⟨n, hn, rfl⟩ := map_eq_ok_iff.mp h; exact ⟨count_ok_iff.mp hn, rfl⟩
    | texts => obtain ⟨ss, hss, rfl⟩ := map_eq_ok_iff.mp h; exact ⟨strings_ok_iff.mp hss, rfl⟩
    | request => obtain ⟨r, hr, rfl⟩ := map_eq_ok_iff.mp h; exact ⟨request_ok_iff.mp hr, rfl⟩
    | any => cases h; exact ⟨.any v, rfl⟩
  · rintro ⟨h, rfl⟩
    cases g with
    | text s => exact map_eq_ok_iff.mpr ⟨s, string_ok_iff.mpr h, rfl⟩
    | boolean b => exact map_eq_ok_iff.mpr ⟨b, boolean_ok_iff.mpr h, rfl⟩
    | number x => exact map_eq_ok_iff.mpr ⟨x, number_ok_iff.mpr h, rfl⟩
    | count n => exact map_eq_ok_iff.mpr ⟨n, count_ok_iff.mpr h, rfl⟩
    | texts ss => exact map_eq_ok_iff.mpr ⟨ss, strings_ok_iff.mpr h, rfl⟩
    | request r => exact map_eq_ok_iff.mpr ⟨r, request_ok_iff.mpr h, rfl⟩
    | any => cases h; rfl

theorem strings_error {fault : ArgumentFault} (h : strings place v = .error fault) :
    fault = .wrongType place "an array of strings" := by
  cases v with
  | arr vs =>
    induction vs with
    | nil => cases h
    | cons v rest ih =>
      simp only [strings] at ih
      cases v with
      | str s =>
        simp only [strings, List.mapM_cons, bind, Except.bind] at h
        split at h
        next hrest => exact ih (hrest.trans h)
        next => cases h
      | _ => cases h; rfl
  | _ => cases h; rfl

theorem Kind.complains_of_read {fault : ArgumentFault} (h : k.read place v = .error fault) :
    k.Complains place v fault := by
  cases k with
  | any => cases h
  | text | boolean => cases v <;> cases h <;> exact .of_ne (by decide)
  | number =>
    replace h := map_eq_error_iff.mp h
    unfold Argument.number at h
    split at h
    next => cases h
    next => split at h <;> cases h; exact .of_ne (by decide)
    next => cases h; exact .of_ne (by decide)
  | count =>
    replace h := map_eq_error_iff.mp h
    unfold Argument.count at h
    split at h
    next => split at h <;> cases h; exact .of_ne (by decide)
    next => split at h <;> cases h; exact .of_ne (by decide)
    next => cases h; exact .of_ne (by decide)
  | texts =>
    obtain rfl := strings_error (map_eq_error_iff.mp h)
    exact .of_ne (by decide)
  | request =>
    replace h := map_eq_error_iff.mp h
    unfold Argument.request at h
    split at h
    next ms =>
      split at h
      next => cases h
      next fault hfault => cases h; exact .badRequest hfault
    next hobj => cases h; exact .wanted fun ms _ hv => hobj ms hv

/-! ## Reading one after the other -/

/-- Reads arguments of these kinds, the first of them in a given place. -/
def readAll (place : Nat) : List Kind → List Json → Except ArgumentFault (List Given)
  | k :: ks, v :: vs => do
    let g ← k.read place v
    let gs ← readAll (place + 1) ks vs
    return g :: gs
  | _, _ => .ok []

theorem readAll_ok_iff {ks : List Kind} {vs : List Json} (hlength : vs.length = ks.length)
    {place : Nat} {gs : List Given} :
    readAll place ks vs = .ok gs ↔ List.Forall₂ Denotes vs gs ∧ gs.map Given.kind = ks := by
  induction ks generalizing vs place gs with
  | nil =>
    obtain rfl : vs = [] := List.length_eq_zero_iff.mp hlength
    simp [readAll, eq_comm]
  | cons k ks ih =>
    obtain _ | ⟨v, vs⟩ := vs
    · cases hlength
    simp only [readAll, bind_eq_ok_iff, Kind.read_ok_iff, ih (Nat.succ.inj hlength), pure,
      Except.pure, Except.ok.injEq, List.forall₂_cons_left_iff]
    constructor
    · rintro ⟨g, ⟨hg, rfl⟩, gs, ⟨hgs, rfl⟩, rfl⟩
      exact ⟨⟨g, gs, hg, hgs, rfl⟩, rfl⟩
    · rintro ⟨⟨g, gs, hg, hgs, rfl⟩, hkinds⟩
      obtain ⟨rfl, rfl⟩ := List.cons.inj hkinds
      exact ⟨g, ⟨hg, rfl⟩, gs, ⟨hgs, rfl⟩, rfl⟩

theorem forall₂_fits_iff {ks : List Kind} {vs : List Json} :
    List.Forall₂ Kind.Fits ks vs ↔ ∃ gs, List.Forall₂ Denotes vs gs ∧ gs.map Given.kind = ks := by
  induction ks generalizing vs with
  | nil =>
    constructor
    · rintro ⟨⟩
      exact ⟨[], .nil, rfl⟩
    · rintro ⟨gs, hgs, hkinds⟩
      obtain rfl := List.map_eq_nil_iff.mp hkinds
      cases hgs
      exact .nil
  | cons k ks ih =>
    constructor
    · rintro (_ | ⟨⟨g, hg, rfl⟩, hrest⟩)
      obtain ⟨gs, hgs, rfl⟩ := ih.mp hrest
      exact ⟨g :: gs, .cons hg hgs, rfl⟩
    · rintro ⟨gs, hgs, hkinds⟩
      obtain ⟨g, gs, rfl, rfl, rfl⟩ := List.map_eq_cons_iff.mp hkinds
      obtain _ | ⟨hg, hrest⟩ := hgs
      exact .cons ⟨g, hg, rfl⟩ (ih.mpr ⟨gs, hrest, rfl⟩)

/-- The first argument that does not fit is the one reported. -/
theorem readAll_error {ks : List Kind} {vs : List Json} {place : Nat} {fault : ArgumentFault}
    (h : readAll place ks vs = .error fault) :
    ∃ i k v, FirstUnfit ks vs i k v ∧ k.Complains (place + i) v fault := by
  induction ks generalizing vs place with
  | nil => cases h
  | cons k ks ih =>
    obtain _ | ⟨v, vs⟩ := vs
    · cases h
    cases hread : k.read place v with
    | error e =>
      obtain rfl : e = fault := by simpa [readAll, hread, bind, Except.bind] using h
      refine ⟨0, k, v, ⟨rfl, rfl, ?_, fun _ hj => absurd hj (Nat.not_lt_zero _)⟩,
        Kind.complains_of_read hread⟩
      rintro ⟨g, hg⟩
      have hok : k.read place v = .ok g := Kind.read_ok_iff.mpr hg
      cases hread.symm.trans hok
    | ok g =>
      have hrest : readAll (place + 1) ks vs = .error fault := by
        simp only [readAll, hread, bind, Except.bind] at h
        split at h
        next hrest => exact hrest.trans h
        next => cases h
      obtain ⟨i, k', v', hunfit, hcomplains⟩ := ih hrest
      refine ⟨i + 1, k', v', ⟨hunfit.wanted, hunfit.got, hunfit.unfit, ?_⟩, ?_⟩
      · rintro (_ | j) hj k₁ v₁ hk₁ hv₁
        · obtain rfl := Option.some.inj hk₁
          obtain rfl := Option.some.inj hv₁
          exact ⟨g, Kind.read_ok_iff.mp hread⟩
        · exact hunfit.lower j (Nat.lt_of_succ_lt_succ hj) k₁ v₁ hk₁ hv₁
      · rwa [Nat.add_assoc, Nat.add_comm 1 i] at hcomplains

end Argument

end ScriptBench
