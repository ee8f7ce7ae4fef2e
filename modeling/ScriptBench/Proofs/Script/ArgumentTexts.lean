import ScriptBench.Proofs.Call.Grammar
import ScriptBench.Proofs.Http.Responses
import ScriptBench.Proofs.Script.Descriptions

/-!
How the arguments of host operations are written, and how they are read.

1. Strings, flags and arrays are written as the untyped values they stand for, and so is an object
   whose members all have a text (`written_text`, `written_array`, `written_object`).
2. What is sent for an argument is written as an untyped value that denotes this argument
   (`exists_written`). A request without a body has one member less than others.
3. So the call an operation stands for with some arguments is read from the text of what is sent for
   them (`readCall_of_sends`).
-/
namespace ScriptBench

open Json Value Text16

namespace Value

/-- The text of the value is that of an untyped one, in front of anything. -/
def Written (v : Value) (j : Json) : Prop :=
  ∃ cs, v.jsonChars? = some cs ∧ ∀ rest, cs ++ rest = j.write rest

theorem quoted_ofString (s : String) (rest : List Char) :
    quoted (.ofString s) ++ rest = writeString s rest := by
  rw [quoted_eq, points_ofString, List.flatMap_map]
  show '"' :: ((s.toList.flatMap escaped ++ ['"']) ++ rest) =
    '"' :: writeEscaped s.toList ('"' :: rest)
  rw [writeEscaped_eq, List.append_assoc]
  rfl

theorem written_text (s : String) : Written (.text s) (.str s) := ⟨_, rfl, quoted_ofString s⟩

theorem written_bool (b : Bool) : Written (.bool b) (.bool b) := by
  refine ⟨_, rfl, fun rest => ?_⟩
  cases b <;> rfl

theorem commas_items {v : Value} {j : Json} {vs : List Value} {js : List Json} (hv : Written v j)
    (hvs : List.Forall₂ Written vs js) (rest : List Char) :
    commas (jsonItems (v :: vs)) ++ ']' :: rest = j.write (writeItems js rest) := by
  induction hvs generalizing v j with
  | nil =>
    obtain ⟨cs, hcs, hwrite⟩ := hv
    rw [jsonItems, hcs, jsonItems]
    exact hwrite _
  | @cons v' j' vs js hv' hvs ih =>
    obtain ⟨cs, hcs, hwrite⟩ := hv
    have hrest := ih hv'
    rw [jsonItems, hcs, Option.getD_some]
    obtain ⟨cs', hcs', -⟩ := hv'
    rw [jsonItems, hcs'] at hrest ⊢
    show (cs ++ ',' :: commas (cs' :: jsonItems vs)) ++ ']' :: rest = _
    rw [List.append_assoc, hwrite]
    exact congrArg (fun more => j.write (',' :: more)) hrest

theorem written_array {vs : List Value} {js : List Json} (h : List.Forall₂ Written vs js) :
    Written (.array vs) (.arr js) := by
  refine ⟨_, rfl, fun rest => ?_⟩
  cases h with
  | nil => rfl
  | @cons v j vs js hv hvs =>
    show '[' :: ((commas (jsonItems (v :: vs)) ++ [']']) ++ rest) =
      '[' :: j.write (writeItems js rest)
    rw [List.append_assoc]
    exact congrArg _ (commas_items hv hvs rest)

/-- A member is written as one of an untyped object. -/
def WrittenMember (m : Text16 × Value) (k : String × Json) : Prop :=
  m.1 = .ofString k.1 ∧ Written m.2 k.2

theorem commas_members {m : Text16 × Value} {k : String × Json} {ms : List (Text16 × Value)}
    {ks : List (String × Json)} (hm : WrittenMember m k) (hms : List.Forall₂ WrittenMember ms ks)
    (rest : List Char) :
    commas (jsonMembers (m :: ms)) ++ '\x7d' :: rest =
      writeString k.1 (':' :: k.2.write (writeMembers ks rest)) := by
  induction hms generalizing m k with
  | nil =>
    obtain ⟨n, v⟩ := m
    obtain ⟨rfl, cs, hcs, hwrite⟩ := hm
    simp only at hcs
    rw [jsonMembers, hcs, jsonMembers]
    show (quoted _ ++ ':' :: cs) ++ _ = _
    rw [List.append_assoc, quoted_ofString, List.cons_append, hwrite]
    rfl
  | @cons m' k' ms ks hm' hms ih =>
    have hrest := ih hm'
    obtain ⟨n, v⟩ := m
    obtain ⟨n', v'⟩ := m'
    obtain ⟨rfl, cs, hcs, hwrite⟩ := hm
    obtain ⟨-, cs', hcs', -⟩ := hm'
    simp only at hcs hcs'
    rw [jsonMembers, hcs]
    rw [jsonMembers, hcs'] at hrest ⊢
    show ((quoted _ ++ ':' :: cs) ++ ',' :: commas _) ++ _ = _
    rw [List.append_assoc, List.append_assoc, quoted_ofString, List.cons_append, hwrite]
    exact congrArg (fun more => writeString k.1 (':' :: k.2.write (',' :: more))) hrest

theorem written_object {ms : List (Text16 × Value)} {ks : List (String × Json)}
    (hplain : writesNothing ms = false) (h : List.Forall₂ WrittenMember ms ks) :
    Written (.object ms) (.obj ks) := by
  refine ⟨'\x7b' :: commas (jsonMembers ms) ++ ['\x7d'], ?_, fun rest => ?_⟩
  · rw [jsonChars?, hplain]
    rfl
  cases h with
  | nil => rfl
  | @cons m k ms ks hm hms =>
    show '\x7b' :: ((commas (jsonMembers (m :: ms)) ++ ['\x7d']) ++ rest) = '\x7b' :: _
    rw [List.append_assoc]
    exact congrArg _ (commas_members hm hms rest)

/-- A member without a text is left out. -/
theorem jsonMembers_append_undefined (ms : List (Text16 × Value)) (n : Text16) :
    jsonMembers (ms ++ [(n, .undefined)]) = jsonMembers ms := by
  induction ms with
  | nil => rfl
  | cons m ms ih =>
    obtain ⟨n', v⟩ := m
    rw [List.cons_append, jsonMembers, jsonMembers, ih]

/-! ## What is sent for arguments -/

/-- The value sent for an argument of a host operation. -/
inductive Sends : Value → Argument.Given → Prop
  | text (s : String) : Sends (.text s) (.text s)
  | boolean (b : Bool) : Sends (.bool b) (.boolean b)
  | texts (ss : List String) : Sends (.array (ss.map Value.text)) (.texts ss)
  | request {w : Value} {r : Request} (h : IsRequest w r) : Sends w (.request r)

theorem written_ofPair (p : NamedValue) : Written (ofPair p) p.toJson :=
  written_object rfl (.cons ⟨rfl, written_text p.name⟩ (.cons ⟨rfl, written_text p.value⟩ .nil))

theorem written_pairs {v : Value} {ps : List NamedValue} (h : IsPairs v ps) :
    Written v (.arr (ps.map NamedValue.toJson)) := by
  obtain rfl | ⟨rfl, rfl⟩ := h
  · refine written_array ?_
    rw [List.forall₂_map_left_iff, List.forall₂_map_right_iff]
    exact List.forall₂_same.mpr fun p _ => written_ofPair p
  · exact ⟨_, rfl, fun rest => rfl⟩

end Value

/-! ## Requests as untyped values -/

namespace NamedValue

theorem sorted_toJson (p : NamedValue) : p.toJson.sorted = p.toJson := by
  simp only [toJson, sorted, sortedValues, KeyMap.ofList, KeyMap.insert, List.foldl_cons,
    List.foldl_nil, String.reduceEq, String.reduceLT, if_false]

theorem allDenoted (ps : List NamedValue) : AllDenoted (sorted (.arr (ps.map toJson))) ps := by
  refine ⟨ps.map toJson, ?_, ?_⟩
  · rw [sorted, sortedItems_eq_map, List.map_map]
    exact congrArg Json.arr (List.map_congr_left fun p _ => p.sorted_toJson)
  · rw [List.forall₂_map_left_iff]
    exact List.forall₂_same.mpr fun p _ => .object rfl rfl

end NamedValue

namespace Request

/-- The members of a request, with its body or without. -/
def members (r : Request) (bare : Bool) : List (String × Json) :=
  [("method", .str r.method), ("url", .str r.url),
    ("headers", .arr (r.headers.map NamedValue.toJson)),
    ("params", .arr (r.params.map NamedValue.toJson))] ++ if bare then []
      else [("body", .str r.body)]

theorem unnumbered_members (r : Request) (bare : Bool) :
    (Json.obj (r.members bare)).Unnumbered := by
  have hpairs (ps : List NamedValue) : (Json.arr (ps.map NamedValue.toJson)).Unnumbered :=
    Decoder.unnumbered_map NamedValue.unnumbered ps
  cases bare with
  | true => exact ⟨trivial, trivial, hpairs _, hpairs _, trivial⟩
  | false => exact ⟨trivial, trivial, hpairs _, hpairs _, trivial, trivial⟩

theorem depth_members (r : Request) (bare : Bool) : (Json.obj (r.members bare)).depth ≤ 3 := by
  have hpairs (ps : List NamedValue) : depthItems (ps.map NamedValue.toJson) ≤ 1 :=
    Decoder.depthItems_map (fun p => Nat.le_of_eq p.depth_toJson) ps
  have hheaders := hpairs r.headers
  have hparams := hpairs r.params
  cases bare
  all_goals
    simp only [members, if_true, if_false, Bool.false_eq_true, List.append_nil, List.cons_append,
      List.nil_append, depth, depthMembers]
    omega

/-- Sorted, the members stand in the order of their names. -/
theorem sorted_members (r : Request) (bare : Bool) :
    sorted (.obj (r.members bare)) = .obj ((if bare then [] else [("body", .str r.body)]) ++
      [("headers", sorted (.arr (r.headers.map NamedValue.toJson))), ("method", .str r.method),
        ("params", sorted (.arr (r.params.map NamedValue.toJson))), ("url", .str r.url)]) := by
  cases bare
  all_goals
    simp only [members, sorted, sortedValues, KeyMap.ofList, KeyMap.insert, List.foldl_cons,
      List.foldl_nil, String.reduceEq, String.reduceLT, if_true, if_false, Bool.false_eq_true,
      List.append_nil, List.cons_append, List.nil_append]

/-- The members of a request describe it; a body left out is the empty one. -/
theorem described_members (r : Request) (bare : Bool) (hbody : bare = true → r.body = "") :
    Argument.Denotes (sorted (.obj (r.members bare))) (.request r) := by
  rw [sorted_members]
  cases bare with
  | true =>
    exact .request
      { method := rfl
        url := rfl
        headers := NamedValue.allDenoted r.headers
        params := NamedValue.allDenoted r.params
        body := congrArg some (hbody rfl).symm }
  | false =>
    exact .request
      { method := rfl
        url := rfl
        headers := NamedValue.allDenoted r.headers
        params := NamedValue.allDenoted r.params
        body := rfl }

end Request

/-! ## Reading what is sent -/

namespace Value

open Argument

/-- A request is sent as its members; without a body it has one less. -/
theorem written_request {w : Value} {r : Request} (h : IsRequest w r) :
    ∃ bare, (bare = true → r.body = "") ∧ Written w (.obj (r.members bare)) := by
  obtain ⟨headers, params, body, hheaders, hparams, hbody, rfl⟩ := h
  have hmembers : List.Forall₂ WrittenMember [(.ofString "method", .text r.method),
    (.ofString "url", .text r.url),
      (.ofString "headers", headers), (.ofString "params", params)] (r.members true) :=
    .cons ⟨rfl, written_text _⟩ (.cons ⟨rfl, written_text _⟩
      (.cons ⟨rfl, written_pairs hheaders⟩ (.cons ⟨rfl, written_pairs hparams⟩ .nil)))
  obtain rfl | ⟨rfl, hempty⟩ := hbody
  · exact ⟨false, nofun,
      written_object rfl (List.rel_append hmembers (.cons ⟨rfl, written_text _⟩ .nil))⟩
  · refine ⟨true, fun _ => hempty, ?_⟩
    obtain ⟨cs, hcs, hwrite⟩ := written_object rfl hmembers
    refine ⟨cs, ?_, hwrite⟩
    have hdropped := jsonMembers_append_undefined [(.ofString "method", .text r.method),
      (.ofString "url", .text r.url),
      (.ofString "headers", headers), (.ofString "params", params)] (.ofString "body")
    rw [← hcs, jsonChars?, jsonChars?, ← hdropped]
    rfl

/-- What is sent for an argument is written as an untyped value that denotes it. -/
theorem exists_written {v : Value} {given : Given} (h : Sends v given) :
    ∃ j, Written v j ∧ j.Unnumbered ∧ j.depth ≤ 3 ∧ Denotes j.sorted given := by
  cases h with
  | text s => exact ⟨.str s, written_text s, trivial, Nat.zero_le 3, .text s⟩
  | boolean b => exact ⟨.bool b, written_bool b, trivial, Nat.zero_le 3, .boolean b⟩
  | texts ss =>
    refine ⟨.arr (ss.map .str), ?_, ?_, ?_, ?_⟩
    · refine written_array ?_
      rw [List.forall₂_map_left_iff, List.forall₂_map_right_iff]
      exact List.forall₂_same.mpr fun s _ => written_text s
    · exact Decoder.unnumbered_map (fun s => show (Json.str s).Unnumbered from trivial) ss
    · have hdepth : depthItems (ss.map Json.str) ≤ 0 :=
        Decoder.depthItems_map (fun _ => Nat.le_refl 0) ss
      rw [depth]
      omega
    · rw [sorted, sortedItems_eq_map, List.map_map]
      exact .texts ss
  | @request w r h =>
    obtain ⟨bare, hbody, hwritten⟩ := written_request h
    exact ⟨_, hwritten, r.unnumbered_members bare, r.depth_members bare,
      r.described_members bare hbody⟩

/-- What is sent for arguments is read as values that denote them. -/
theorem parse_argumentText {vs : List Value} {gs : List Given} (h : List.Forall₂ Sends vs gs) :
    ∃ values, Json.parse (argumentText vs) = .ok (.arr values) ∧
      List.Forall₂ Denotes values gs := by
  have hitems : ∃ js, List.Forall₂ Written vs js ∧ UnnumberedItems js ∧ depthItems js ≤ 3 ∧
      List.Forall₂ Denotes (js.map sorted) gs := by
    induction h with
    | nil => exact ⟨[], .nil, trivial, Nat.zero_le _, .nil⟩
    | cons hv _ ih =>
      obtain ⟨j, hwritten, hplain, hdepth, hdenotes⟩ := exists_written hv
      obtain ⟨js, hwritten', hplain', hdepth', hdenotes'⟩ := ih
      exact ⟨j :: js, .cons hwritten hwritten', ⟨hplain, hplain'⟩, Nat.max_le.mpr ⟨hdepth, hdepth'⟩,
        .cons hdenotes hdenotes'⟩
  obtain ⟨js, hwritten, hplain, hdepth, hdenotes⟩ := hitems
  have htext : argumentText vs = (Json.arr js).text := by
    obtain ⟨cs, hcs, hwrite⟩ := written_array hwritten
    obtain rfl := Option.some.inj hcs
    have hrest := hwrite []
    rw [List.append_nil] at hrest
    exact congrArg String.ofList hrest
  have hlimit : (Json.arr js).depth ≤ maxNesting := by
    have : maxNesting = 127 := rfl
    rw [depth]
    omega
  refine ⟨js.map sorted, ?_, hdenotes⟩
  rw [htext, parse_text (Unnumbered.plain (.arr js) hplain) hlimit, sorted, sortedItems_eq_map]

/-- A call is read from what is sent for its arguments. -/
theorem readCall_of_sends {c : Call} {vs : List Value} (h : List.Forall₂ Sends vs c.given) :
    Host.readCall c.operation.name (argumentText vs) = .ok c := by
  obtain ⟨values, hparse, hdenotes⟩ := parse_argumentText h
  rw [Host.readCall, Host.readArguments, hparse]
  exact Call.parse_ok_iff.mpr ⟨rfl, values, rfl, hdenotes⟩

end Value

end ScriptBench
