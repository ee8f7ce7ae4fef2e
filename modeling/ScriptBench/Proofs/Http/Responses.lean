import ScriptBench.Http.Message
import ScriptBench.Proofs.Json.Canonical

/-!
Responses in their written form.

1. The reader of responses takes the members a response is written with, and makes nothing of a
   `null` in the place of a decoded body (`Response.accepts`).
2. So a normalized response is read back from its text, unless its body is the text of `null`: that
   body was decoded, and it is written, but it is not there in what is read
   (`normalized_response_read_back`, `null_body_is_dropped`).
-/
namespace ScriptBench

open Decoder (Accepts AcceptsBoth Entry Fit)

theorem NamedValue.acceptsBoth (p : NamedValue) : AcceptsBoth decoder p.toJson p := by
  refine Decoder.acceptsBoth_record
    (.need (Decoder.acceptsBoth_of_sorted (Decoder.accepts_string p.name) rfl)
      (.need (Decoder.acceptsBoth_of_sorted (Decoder.accepts_string p.value) rfl) .nil))
        (by decide) ?_ rfl rfl
  simp [Decoder.Commute]

theorem NamedValue.unnumbered (p : NamedValue) : p.toJson.Unnumbered := ⟨trivial, trivial, trivial⟩

theorem NamedValue.depth_toJson (p : NamedValue) : p.toJson.depth = 1 := rfl

namespace Response

/-- A decoded body as it is read: null is no body. -/
def readBody : Json → Option Json
  | .null => none
  | v => some v

theorem readBody_of_ne {v : Json} (h : v ≠ .null) : readBody v = some v := by
  cases v with
  | null => exact absurd rfl h
  | _ => rfl

/-- The members of a response, and what each does to the one that is read. -/
def entries (r : Response) : List (Entry Response) :=
  [("status", .int r.status, fun x => { x with status := r.status }),
   ("headers", .arr (r.headers.map NamedValue.toJson), fun x => { x with headers := r.headers }),
   ("text", .str r.text, fun x => { x with text := r.text })] ++
    (r.json.map fun v => ("json", v, fun x => { x with json := readBody v })).toList

theorem toJson_eq (r : Response) : r.toJson = .obj (Decoder.written r.entries) := by
  obtain ⟨status, headers, text, json⟩ := r
  cases json <;> rfl

theorem filled_entries (r : Response) :
    Decoder.filled r.entries ⟨0, [], "", none⟩ = { r with json := r.json.bind readBody } := by
  obtain ⟨status, headers, text, json⟩ := r
  cases json <;> rfl

theorem accepts_body {v : Json} (hv : v.sorted = v) : Accepts (.option .any) v (readBody v) := by
  cases v with
  | null => exact Decoder.accepts_option_null .any
  | _ => exact Decoder.accepts_option (Decoder.accepts_any hv) (by simp)

variable {r : Response}

theorem fit_entries (hstatus : r.status ≤ 65535) (hjson : ∀ v, r.json = some v → v.sorted = v) :
    ∃ fields, decoder = .record "HttpResponse" ⟨0, [], "", none⟩ fields ∧ Fit fields r.entries ∧
      ∀ f ∈ fields, f.required = true → f.name ∈ r.entries.map (·.1) := by
  refine ⟨_, rfl, ?_, ?_⟩
  · intro e he
    rcases List.mem_append.mp he with he | he
    · simp only [List.mem_cons, List.not_mem_nil, or_false] at he
      obtain rfl | rfl | rfl := he
      · exact ⟨_, rfl, Decoder.accepts_need (Decoder.accepts_natural "u16" hstatus)⟩
      · exact ⟨_, rfl,
          Decoder.accepts_need (Decoder.acceptsBoth_map NamedValue.acceptsBoth r.headers).1⟩
      · exact ⟨_, rfl, Decoder.accepts_need (Decoder.accepts_string r.text)⟩
    · rw [Option.mem_toList, Option.map_eq_some_iff] at he
      obtain ⟨v, hv, rfl⟩ := he
      exact ⟨_, rfl, Decoder.accepts_opt (accepts_body (hjson v hv))⟩
  · simp [entries, Decoder.Field.need, Decoder.Field.opt]

/-- A response is read as it was written, but for a body that is null. -/
theorem accepts (hstatus : r.status ≤ 65535) (hjson : ∀ v, r.json = some v → v.sorted = v) :
    Accepts decoder r.toJson { r with json := r.json.bind readBody } := by
  obtain ⟨fields, hdecoder, hfit, hall⟩ := fit_entries hstatus hjson
  have hnames : (r.entries.map (·.1)).Nodup := by
    cases hbody : r.json <;> simp [entries, hbody]
  rw [toJson_eq, ← filled_entries, hdecoder]
  exact Decoder.accepts_of_fit hfit hnames hall

theorem plain_toJson (hstatus : r.status ≤ 65535) (hjson : ∀ v, r.json = some v → v.Plain) :
    r.toJson.Plain := by
  have hrange : -(Nat.pow 2 63 : Int) ≤ r.status ∧ (r.status : Int) < (Nat.pow 2 64 : Int) := by
    simp only [Nat.pow_eq]
    omega
  obtain ⟨status, headers, text, json⟩ := r
  have hheaders : Json.PlainItems (headers.map NamedValue.toJson) :=
    Json.Unnumbered.plainItems _ (Decoder.unnumbered_map NamedValue.unnumbered headers)
  cases json with
  | none => exact ⟨hrange, hheaders, trivial, trivial⟩
  | some v => exact ⟨hrange, hheaders, trivial, hjson v rfl, trivial⟩

/-- The members of a response open one bracket more than its body, and three for its headers. -/
theorem depth_toJson {limit : Nat} (hlimit : 2 ≤ limit)
    (hjson : ∀ v, r.json = some v → v.depth ≤ limit) :
    r.toJson.depth ≤ limit + 1 := by
  obtain ⟨status, headers, text, json⟩ := r
  have hheaders : Json.depthItems (headers.map NamedValue.toJson) ≤ 1 :=
    Decoder.depthItems_map (fun p => Nat.le_of_eq p.depth_toJson) headers
  cases json with
  | none =>
    simp only [toJson, Option.map_none, Option.toList_none, List.append_nil, Json.depth,
      Json.depthMembers]
    omega
  | some v =>
    have hv := hjson v rfl
    simp only [toJson, Option.map_some, Option.toList_some, List.cons_append, List.nil_append,
      Json.depth, Json.depthMembers]
    omega

theorem member?_json (r : Response) : r.toJson.member? "json" = r.json := by
  obtain ⟨status, headers, text, json⟩ := r
  cases json <;> rfl

end Response

/-- A normalized response is read from its text as it is, but for a body that is null. -/
theorem Response.ofText_normalize (r : Response) (hstatus : r.status ≤ 65535)
    (hbody : ∀ v, decodeBody r.text = some v → v.Floatless ∧ v.depth ≤ 126) :
    Decoder.ofText decoder r.normalize.toJson.text =
      .ok { r.normalize with json := (decodeBody r.text).bind readBody } := by
  have hcanonical : ∀ v, decodeBody r.text = some v → v.Canonical := by
    intro v hv
    cases hparse : Json.parse r.text with
    | error fault => simp [decodeBody, Json.parse?, hparse, Except.toOption] at hv
    | ok w =>
      obtain rfl : w = v := by simpa [decodeBody, Json.parse?, hparse, Except.toOption] using hv
      exact Json.canonical_of_parse hparse
  have hplain : r.normalize.toJson.Plain :=
    plain_toJson hstatus fun v hv => Json.Canonical.plain v (hcanonical v hv) (hbody v hv).1
  have hdepth : r.normalize.toJson.depth ≤ maxNesting :=
    depth_toJson (by decide) fun v hv => (hbody v hv).2
  exact Decoder.ofText_of_accepts hplain (accepts hstatus fun v hv =>
    (hcanonical v hv).sorted_eq) hdepth

/-- A normalized response has the decoded body in its written form if its text is JSON, and is read
back from it as it was, or without its body if that is null. -/
theorem normalized_response_read_back (r : Response) (hstatus : r.status ≤ 65535)
    (hbody : ∀ v, Response.decodeBody r.text = some v → v.Floatless ∧ v.depth ≤ 126) :
    let n := r.normalize
    (n.status, n.headers, n.text, n.json) =
      (r.status, r.headers, r.text, Response.decodeBody r.text) ∧
      n.toJson.member? "json" = Response.decodeBody r.text ∧
      (Response.decodeBody r.text ≠ some .null →
        Decoder.ofText Response.decoder n.toJson.text = .ok n) ∧
      (Response.decodeBody r.text = some .null →
        Decoder.ofText Response.decoder n.toJson.text = .ok { n with json := none }) := by
  intro n
  have hread := Response.ofText_normalize r hstatus hbody
  refine ⟨rfl, Response.member?_json n, fun hnull => ?_, fun hnull => ?_⟩
  · have hsame : (Response.decodeBody r.text).bind Response.readBody = n.json := by
      show (Response.decodeBody r.text).bind Response.readBody = Response.decodeBody r.text
      cases hjson : Response.decodeBody r.text with
      | none => rfl
      | some v => exact Response.readBody_of_ne fun hv => hnull (hv ▸ hjson)
    rw [hread, hsame]
  · rw [hread, hnull]
    rfl

/-- A response with a header and a list for a body. -/
theorem normalized_response_read_back_list :
    let r : Response := ⟨200, [⟨"name", "value"⟩], "[1]", none⟩
    Response.decodeBody r.text = some (.arr [.int 1]) ∧
      Decoder.ofText Response.decoder r.normalize.toJson.text = .ok r.normalize := by
  intro r
  have hdecode : Response.decodeBody "[1]" = some (.arr [.int 1]) := by rfl
  have hread := normalized_response_read_back r (by decide) fun v hv => by
    obtain rfl := Option.some.inj (hdecode.symm.trans hv)
    exact ⟨⟨trivial, trivial⟩, by decide⟩
  exact ⟨hdecode, hread.2.2.1 fun hnull => by cases hdecode.symm.trans hnull⟩

/-- The text of `null` is JSON, and a response with this body is not read back as it was. -/
theorem null_body_is_dropped :
    ¬ ∀ r : Response, r.status ≤ 65535 →
      (∀ v, Response.decodeBody r.text = some v → v.Floatless ∧ v.depth ≤ 126) →
        Decoder.ofText Response.decoder r.normalize.toJson.text = .ok r.normalize := by
  intro h
  have hdecode : Response.decodeBody "null" = some .null := by rfl
  have hbody : ∀ v, Response.decodeBody "null" = some v → v.Floatless ∧ v.depth ≤ 126 := by
    intro v hv
    obtain rfl := Option.some.inj (hdecode.symm.trans hv)
    exact ⟨trivial, by decide⟩
  have hread := h ⟨200, [], "null", none⟩ (by decide) hbody
  rw [Response.ofText_normalize _ (by decide) hbody] at hread
  have hjson := congrArg Response.json (Except.ok.inj hread)
  simp only [Response.normalize, hdecode] at hjson
  cases hjson

end ScriptBench
