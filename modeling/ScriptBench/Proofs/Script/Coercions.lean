import ScriptBench.Proofs.Call.Arguments
import ScriptBench.Proofs.Script.Endings
import ScriptBench.Proofs.Script.Texts

/-!
What values become on their way to the host.

1. A computation tells of something if whatever it gives carries something that is meant, and
   whatever is meant is carried by what it gives. What is done one after the other, and to each of a
   list, tells what its parts tell (`Tells.bind`, `Tells.mapM`).
2. Conversions are calls by global names. Where a name still stands for what it stood for at the
   start, they are those of the language (`Globals.text_eq`, `Globals.jsonText_eq`,
   `Globals.request_eq`).
3. Then whole values become the strings, lines and bodies that they are said to become, all of them
   texts (`tells_text`, `tells_line`, `tells_body`).
-/
namespace ScriptBench

open Value Text16

/-! ## Computations and what they tell -/

theorem map_eq_bind {ε α β : Type} (x : Except ε α) (f : α → β) :
    x.map f = x >>= fun a => .ok (f a) := by
  cases x <;> rfl

/-- Whatever the computation gives carries something that is meant, and whatever is meant is carried
by what it gives. -/
structure Tells {ε α β : Type} (x : Except ε α) (Carries : α → β → Prop) (Means : β → Prop) :
    Prop where
  sound : ∀ a, x = .ok a → ∃ b, Means b ∧ Carries a b
  complete : ∀ b, Means b → ∃ a, x = .ok a ∧ Carries a b

namespace Tells

variable {ε α α' β β' : Type} {x : Except ε α} {Carries : α → β → Prop} {Carries' : α' → β' → Prop}
  {Means : β → Prop}

theorem of_iff {Means : α → Prop} (h : ∀ a, x = .ok a ↔ Means a) : Tells x Eq Means where
  sound a ha := ⟨a, (h a).mp ha, rfl⟩
  complete a ha := ⟨a, (h a).mpr ha, rfl⟩

theorem value (x : Except ε α) : Tells x Eq (x = .ok ·) := of_iff fun _ => Iff.rfl

theorem ok {a : α} {b : β} (h : Carries a b) (hmeans : ∀ b', Means b' ↔ b' = b) :
    Tells (.ok a : Except ε α) Carries Means where
  sound _ ha := by
    cases ha
    exact ⟨b, (hmeans b).mpr rfl, h⟩
  complete b' hb' := by
    obtain rfl := (hmeans b').mp hb'
    exact ⟨a, rfl, h⟩

theorem reindex {Carries' : α → β' → Prop} {Means' : β' → Prop} (h : β → β')
    (hx : Tells x Carries Means) (hcarries : ∀ a b, Means b → Carries a b → Carries' a (h b))
    (hmeans : ∀ b', Means' b' ↔ ∃ b, Means b ∧ h b = b') :
    Tells x Carries' Means' where
  sound a ha := by
    obtain ⟨b, hb, hab⟩ := hx.sound a ha
    exact ⟨h b, (hmeans _).mpr ⟨b, hb, rfl⟩, hcarries a b hb hab⟩
  complete b' hb' := by
    obtain ⟨b, hb, rfl⟩ := (hmeans b').mp hb'
    obtain ⟨a, ha, hab⟩ := hx.complete b hb
    exact ⟨a, ha, hcarries a b hb hab⟩

theorem bind {f : α → Except ε α'} {Means' : β' → Prop} (Next : β → β' → Prop)
    (hx : Tells x Carries Means)
    (hf : ∀ a b, x = .ok a → Means b → Carries a b → Tells (f a) Carries' (Next b))
    (hmeans : ∀ b', Means' b' ↔ ∃ b, Means b ∧ Next b b') : Tells (x >>= f) Carries' Means' where
  sound a' ha' := by
    obtain ⟨a, ha, ha'⟩ := bind_eq_ok_iff.mp ha'
    obtain ⟨b, hb, hab⟩ := hx.sound a ha
    obtain ⟨b', hb', hab'⟩ := (hf a b ha hb hab).sound a' ha'
    exact ⟨b', (hmeans b').mpr ⟨b, hb, hb'⟩, hab'⟩
  complete b' hb' := by
    obtain ⟨b, hb, hb'⟩ := (hmeans b').mp hb'
    obtain ⟨a, ha, hab⟩ := hx.complete b hb
    obtain ⟨a', ha', hab'⟩ := (hf a b ha hb hab).complete b' hb'
    exact ⟨a', bind_eq_ok_iff.mpr ⟨a, ha, ha'⟩, hab'⟩

theorem map {f : α → α'} {Means' : β' → Prop} (h : β → β') (hx : Tells x Carries Means)
    (hf : ∀ a b, Means b → Carries a b → Carries' (f a) (h b))
    (hmeans : ∀ b', Means' b' ↔ ∃ b, Means b ∧ h b = b') :
    Tells (x.map f) Carries' Means' := by
  rw [map_eq_bind]
  exact bind (fun b b' => h b = b') hx
    (fun a b _ hb hab => ok (hf a b hb hab) fun _ => eq_comm) hmeans

theorem mapM {γ : Type} {cs : List γ} {f : γ → Except ε α} {Each : γ → β → Prop}
    (h : ∀ c ∈ cs, Tells (f c) Carries (Each c)) :
    Tells (cs.mapM f) (List.Forall₂ Carries) (List.Forall₂ Each cs) := by
  induction cs with
  | nil => exact ok .nil fun bs => by simp
  | cons c cs ih =>
    obtain ⟨hc, hcs⟩ := List.forall_mem_cons.mp h
    rw [List.mapM_cons]
    refine bind (fun b bs' => ∃ bs, List.Forall₂ Each cs bs ∧ bs' = b :: bs) hc
      (fun a b _ _ hab => ?_) fun bs' => ?_
    · exact bind (fun bs bs' => bs' = b :: bs) (ih hcs)
        (fun as bs _ _ hasbs => ok (.cons hab hasbs) fun _ => Iff.rfl) fun _ => Iff.rfl
    · constructor
      · rintro (_ | ⟨hb, hbs⟩)
        exact ⟨_, hb, _, hbs, rfl⟩
      · rintro ⟨b, hb, bs, hbs, rfl⟩
        exact .cons hb hbs

end Tells

/-! ## Names that stand for what they did at the start -/

namespace Globals

variable {g : Globals}

/-- What stands under a name is what stood there at the start. -/
def Keeps (g : Globals) (name : String) : Prop :=
  g.get? (.ofString name) = lookup (.ofString name) standard

theorem Keeps.get {name : String} (h : g.Keeps name) {v : Value}
    (hv : lookup (.ofString name) standard = some v) :
    g.get (.ofString name) = .ok v := by
  have hget : g.get? (.ofString name) = some v := h.trans hv
  rw [Globals.get, hget]

theorem text_eq (h : g.Keeps "String") (v : Value) : g.text v = (toText v).map .string := by
  rw [text, call, h.get rfl]
  show (do return Value.string (← toText v)) = _
  cases toText v <;> rfl

theorem flag_eq (h : g.Keeps "Boolean") (v : Value) :
    g.call "Boolean" [v] = .ok (.bool v.truthy) := by
  rw [call, h.get rfl]
  rfl

theorem isError_eq (h : g.Keeps "Error") (v : Value) : g.isError v = .ok v.isError := by
  rw [isError, h.get rfl]
  rfl

theorem jsonText_eq (h : g.Keeps "JSON") (v : Value) :
    g.jsonText v = .ok ((jsonText? v).elim .undefined .string) := by
  rw [jsonText, callMember, h.get rfl]
  rfl

theorem request_eq (h : g.Keeps "JSON") (operation : Operation) (args : List Value) :
    g.request operation args = .ok ⟨operation, argumentText args⟩ := by
  rw [request, callMember, h.get rfl]
  rfl

theorem assign_eq (h : g.Keeps "Object") (input init : Value) :
    g.callMember "Object" "assign" [.object [], input, init] =
      .ok (.object (enumerated (Builtin.merged [] [input, init]))) := by
  rw [callMember, h.get rfl]
  rfl

theorem isArray_eq (h : g.Keeps "Array") (v : Value) :
    g.callMember "Array" "isArray" [v] =
      Builtin.call .isArray (.function (.builtin .array)) [v] := by
  rw [callMember, h.get rfl]
  rfl

theorem textList_eq (h : g.Keeps "Array") (v : Value) :
    g.textList v = Builtin.listed v >>= fun items => (items.mapM g.text).map .array := by
  rw [textList, callMember, h.get rfl]
  show ((do return Value.array (← Builtin.listed v)) >>= _) = _
  cases Builtin.listed v with
  | error e => rfl
  | ok items =>
    show (do return Value.array (← items.mapM g.text)) = (items.mapM g.text).map .array
    cases items.mapM g.text <;> rfl

end Globals

/-! ## Strings -/

namespace Value

/-- The value becomes this string. -/
def Says (v : Value) (s : String) : Prop := v.toText = .ok (.ofString s)

/-- The JSON text of the value; empty if it has none. -/
def jsonString (v : Value) : String := String.ofList (v.jsonChars?.getD [])

/-- How a value is shown in a line: a string as it is, an error as the string it becomes, all else
as JSON text. -/
def Rendered : Value → String → Prop
  | .string t, s => t = .ofString s
  | .undefined, s => s = "undefined"
  | v, s => if v.isError then v.Says s else s = v.jsonString

/-- The body a value stands for: a string itself, nothing for `undefined` and `null`, else JSON
text. -/
def BodyText : Value → String → Prop
  | .undefined, s => s = ""
  | .null, s => s = ""
  | .string t, s => t = .ofString s
  | v, s => s = v.jsonString

end Value

theorem Text16.ofString_eq_iff (s s' : String) : ofString s = ofString s' ↔ s' = s :=
  ⟨fun h => (ofString_injective h).symm, fun h => congrArg ofString h.symm⟩

section Strings

variable {g : Globals} {v : Value}

theorem tells_toText (hv : v.Whole) : Tells v.toText (fun t s => t = .ofString s) v.Says where
  sound t ht := by
    obtain ⟨s, rfl⟩ := whole_toText v hv ht
    exact ⟨s, ht, rfl⟩
  complete s hs := ⟨.ofString s, hs, rfl⟩

theorem tells_text (hstring : g.Keeps "String") (hv : v.Whole) :
    Tells (g.text v) (fun w s => w = .text s) v.Says := by
  rw [Globals.text_eq hstring]
  exact (tells_toText hv).map id (fun t s _ ht => congrArg Value.string ht) (by simp)

/-- The JSON text of a value, or `undefined` for a value without one. -/
theorem jsonText_cases (v : Value) :
    (jsonText? v).elim .undefined .string = Value.text v.jsonString ∨
    (jsonText? v).elim .undefined .string = Value.undefined ∧ v.jsonString = "" := by
  unfold jsonText? jsonString
  cases v.jsonChars? with
  | none => exact .inr ⟨rfl, rfl⟩
  | some cs =>
    refine .inl ?_
    rw [Option.getD_some, text, ofString_ofList]
    rfl

theorem itemText_jsonText (v : Value) :
    itemText ((jsonText? v).elim .undefined .string) = .ok (.ofString v.jsonString) := by
  obtain h | ⟨h, hempty⟩ := jsonText_cases v
  · rw [h]
    rfl
  · rw [h, hempty]
    rfl

theorem rendered_eq (herror : g.Keeps "Error") (hstring : ∀ t, v ≠ .string t)
    (hundefined : v ≠ .undefined) :
    g.rendered v = if v.isError then g.text v else g.jsonText v := by
  cases v with
  | string t => exact absurd rfl (hstring t)
  | undefined => exact absurd rfl hundefined
  | _ =>
    rw [Globals.rendered, Globals.isError_eq herror]
    · rfl
    · exact hstring
    · exact hundefined

theorem rendered_iff (hstring : ∀ t, v ≠ .string t) (hundefined : v ≠ .undefined) (s : String) :
    Rendered v s ↔ if v.isError then v.Says s else s = v.jsonString := by
  cases v with
  | string t => exact absurd rfl (hstring t)
  | undefined => exact absurd rfl hundefined
  | _ => exact Iff.rfl

theorem tells_rendered (hkeeps : g.Keeps "String" ∧ g.Keeps "Error" ∧ g.Keeps "JSON")
    (hv : v.Whole) :
    Tells (g.rendered v) (fun w s => itemText w = .ok (.ofString s)) (Rendered v) := by
  obtain ⟨hstring, herror, hjson⟩ := hkeeps
  by_cases htext : ∃ t, v = .string t
  · obtain ⟨t, rfl⟩ := htext
    obtain ⟨s, rfl⟩ := hv
    exact Tells.ok rfl (ofString_eq_iff s)
  by_cases hundefined : v = .undefined
  · subst hundefined
    show Tells (.ok (Value.text "undefined")) _ _
    exact Tells.ok rfl fun _ => Iff.rfl
  have hne : ∀ t, v ≠ .string t := fun t ht => htext ⟨t, ht⟩
  rw [rendered_eq herror hne hundefined]
  by_cases his : v.isError = true
  · rw [if_pos his]
    refine (tells_text hstring hv).reindex id ?_ fun s => ?_
    · rintro _ s - rfl
      rfl
    · simp [rendered_iff hne hundefined, his]
  · rw [if_neg his, Globals.jsonText_eq hjson]
    refine Tells.ok (itemText_jsonText v) fun s => ?_
    rw [rendered_iff hne hundefined, if_neg his]

theorem itemTexts_of_forall₂ {ws : List Value} {ss : List String}
    (h : List.Forall₂ (fun w s => itemText w = .ok (.ofString s)) ws ss) :
    itemTexts ws = .ok (ss.map .ofString) := by
  rw [itemTexts_eq]
  induction h with
  | nil => rfl
  | cons hw _ ih =>
    rw [List.mapM_cons, hw, ih]
    rfl

theorem tells_line (hkeeps : g.Keeps "String" ∧ g.Keeps "Error" ∧ g.Keeps "JSON")
    {args : List Value} (hargs : ∀ v ∈ args, v.Whole) :
    Tells (g.line args) (fun w s => w = .text s)
      fun s => ∃ parts, List.Forall₂ Rendered args parts ∧ s = " ".intercalate parts := by
  refine (Tells.mapM fun v hv => tells_rendered hkeeps (hargs v hv)).bind
    (fun parts s => s = " ".intercalate parts) (fun ws parts _ _ hws => ?_) fun _ => Iff.rfl
  rw [itemTexts_of_forall₂ hws]
  refine Tells.ok ?_ fun _ => Iff.rfl
  show Value.string (Text16.join (.ofString " ") (parts.map .ofString)) = _
  rw [join_ofString]
  rfl

theorem tells_body (hjson : g.Keeps "JSON") (hv : v.Whole) :
    Tells (g.body v) (fun w s => w = .text s ∨ w = .undefined ∧ s = "") (BodyText v) := by
  cases v with
  | undefined | null => exact Tells.ok (.inl rfl) fun _ => Iff.rfl
  | string t =>
    obtain ⟨s, rfl⟩ := hv
    exact Tells.ok (.inl rfl) (ofString_eq_iff s)
  | _ =>
    show Tells (g.jsonText _) _ _
    rw [Globals.jsonText_eq hjson]
    exact Tells.ok (jsonText_cases _) fun _ => Iff.rfl

end Strings

end ScriptBench
