import ScriptBench.Http.Message
import ScriptBench.Proofs.Json.Records

/-!
Which untyped values are pairs and requests.

A pair is an object with a name and a value that are strings, or an array of the two
(`NamedValue.decoder_reads`). A request is any object whose `method`, `url` and `body` are strings
and whose `headers` and `params` are arrays of pairs, as far as it has them; what it leaves out is
that of the blank request, and further members are passed over (`Request.decoder_object`).
-/
namespace ScriptBench

open Decoder

/-- A string, and the text it stands for. -/
def IsText (v : Json) (s : String) : Prop := v = .str s

/-- A field that is a string. -/
def textSlot {α : Type} (name : String) (required : Bool) (get : α → String) (set : String → α → α)
    (h : ∀ x a, get (set x a) = x) : Slot α :=
  ⟨name, required, .string, get, set, IsText, string_reads, h⟩

/-! ## Pairs -/

namespace NamedValue

/-- The values that stand for a pair. -/
inductive Denoted : Json → NamedValue → Prop
  | object {ms : List (String × Json)} {p : NamedValue} (name : Member ms "name" IsText none p.name)
    (value : Member ms "value" IsText none p.value) : Denoted (.obj ms) p
  | array (name value : String) : Denoted (.arr [.str name, .str value]) ⟨name, value⟩

/-- An array of such values, and the pairs they stand for. -/
def AllDenoted (v : Json) (ps : List NamedValue) : Prop :=
  ∃ vs, v = .arr vs ∧ List.Forall₂ Denoted vs ps

def slots : List (Slot NamedValue) :=
  [textSlot "name" true (·.name) (fun x p => { p with name := x }) fun _ _ => rfl,
   textSlot "value" true (·.value) (fun x p => { p with value := x }) fun _ _ => rfl]

theorem layout : Layout slots where
  names := by decide
  apart := by simp [slots, textSlot]
  whole := by
    rintro ⟨n, v⟩ ⟨n', v'⟩ h
    simpa [slots, textSlot] using h

theorem decoder_eq : decoder = record "KeyValue" ⟨"", ""⟩ (slots.map Slot.field) := rfl

theorem decoder_reads : ReadsAs decoder Denoted := by
  intro v budget hdepth p
  rw [decoder_eq]
  cases v with
  | obj ms =>
    rw [layout.record_object hdepth]
    constructor
    · intro h
      have hname := h _ List.mem_cons_self
      have hvalue := h _ (List.mem_cons_of_mem _ List.mem_cons_self)
      exact .object hname hvalue
    · rintro ⟨hname, hvalue⟩
      simpa [slots] using ⟨hname, hvalue⟩
  | arr vs =>
    rw [layout.record_array (by simp [slots, textSlot]) hdepth]
    constructor
    · rintro (_ | ⟨hname, _ | ⟨hvalue, _ | _⟩⟩)
      rw [show _ = Json.str p.name from hname, show _ = Json.str p.value from hvalue]
      exact .array p.name p.value
    · rintro ⟨⟩
      exact .cons rfl (.cons rfl .nil)
  | _ =>
    refine iff_of_false ?_ fun h => by cases h
    simp [record, Node.ofJson, Node.mismatch_ne_ok]

end NamedValue

/-! ## Requests -/

namespace Request

/-- Members that describe a request. -/
structure Described (ms : List (String × Json)) (r : Request) : Prop where
  method : Member ms "method" IsText (some "GET") r.method
  url : Member ms "url" IsText (some "") r.url
  headers : Member ms "headers" NamedValue.AllDenoted (some []) r.headers
  params : Member ms "params" NamedValue.AllDenoted (some []) r.params
  body : Member ms "body" IsText (some "") r.body

/-- A field that is a list of pairs. -/
def pairsSlot (name : String) (get : Request → List NamedValue)
    (set : List NamedValue → Request → Request) (h : ∀ x r, get (set x r) = x) : Slot Request :=
  ⟨name, false, .list NamedValue.decoder, get, set, NamedValue.AllDenoted,
    list_reads NamedValue.decoder_reads, h⟩

def slots : List (Slot Request) :=
  [textSlot "method" false (·.method) (fun x r => { r with method := x }) fun _ _ => rfl,
   textSlot "url" false (·.url) (fun x r => { r with url := x }) fun _ _ => rfl,
   pairsSlot "headers" (·.headers) (fun x r => { r with headers := x }) fun _ _ => rfl,
   pairsSlot "params" (·.params) (fun x r => { r with params := x }) fun _ _ => rfl,
   textSlot "body" false (·.body) (fun x r => { r with body := x }) fun _ _ => rfl]

theorem layout : Layout slots where
  names := by decide
  apart := by simp [slots, textSlot, pairsSlot]
  whole := by
    rintro ⟨m, u, hs, ps, b⟩ ⟨m', u', hs', ps', b'⟩ h
    simpa [slots, textSlot, pairsSlot] using h

theorem decoder_eq : decoder = record "HttpRequestSpec" blank (slots.map Slot.field) := rfl

theorem decoder_object (ms : List (String × Json)) (r : Request) :
    ofJson decoder (.obj ms) = .ok r ↔ Described ms r := by
  rw [ofJson, decoder_eq, layout.record_object (Nat.le_refl _)]
  constructor
  · intro h
    simp only [slots, List.forall_mem_cons] at h
    obtain ⟨hmethod, hurl, hheaders, hparams, hbody, -⟩ := h
    exact ⟨hmethod, hurl, hheaders, hparams, hbody⟩
  · rintro ⟨hmethod, hurl, hheaders, hparams, hbody⟩
    simp only [slots, List.forall_mem_cons]
    exact ⟨hmethod, hurl, hheaders, hparams, hbody, by simp⟩

end Request

end ScriptBench
