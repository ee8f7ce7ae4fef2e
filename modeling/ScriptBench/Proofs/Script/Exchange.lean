import ScriptBench.Proofs.Json.Records
import ScriptBench.Script.Machine

/-!
What goes from a script to its host, and what comes back.

1. Only the functions that are there for it ask for a block to be opened or closed
   (`operation_of_binding`).
2. What comes back never has to be followed (`isThenable_ofJson`).
-/
namespace ScriptBench

/-! ## Requests -/

/-- The globals of a script that sets none. -/
def startGlobals : Globals := [(.ofString Machine.doneFlag, .bool false)]

theorem text_start (v : Value) : startGlobals.text v = (Value.toText v).map Value.string := by
  have hget : startGlobals.get (.ofString "String") = .ok (.function (.builtin .string)) := rfl
  rw [Globals.text, Globals.call, hget]
  show (do return Value.string (← Value.toText v)) = _
  cases Value.toText v <;> rfl

theorem request_test (v : Value) : Binding.request startGlobals .test [v] =
    (Value.toText v).map fun t => ⟨.openTest, Value.argumentText [.string t]⟩ := by
  show (do startGlobals.request .openTest [← startGlobals.text v]) = _
  rw [text_start]
  cases Value.toText v <;> rfl

theorem operation_of_request {g : Globals} {operation : Operation} {args : List Value}
    {r : HostRequest} (h : g.request operation args = .ok r) : r.operation = operation := by
  obtain ⟨json, -, h⟩ := bind_eq_ok_iff.mp h
  obtain ⟨_, -, h⟩ := bind_eq_ok_iff.mp h
  obtain ⟨text, -, h⟩ := bind_eq_ok_iff.mp h
  cases text with
  | string _ =>
    cases h
    rfl
  | _ => cases h

/-- Only the functions that are there for it ask for a block to be opened or closed. -/
theorem operation_of_binding {g : Globals} {b : Binding} {args : List Value} {r : HostRequest}
    (h : b.request g args = .ok r) (hopen : b ≠ .openTest) (hclose : b ≠ .closeTest)
    (htest : b ≠ .test) :
    r.operation ≠ .openTest ∧ r.operation ≠ .closeTest := by
  suffices hsome : ∃ operation args, g.request operation args = .ok r ∧
      operation ≠ .openTest ∧ operation ≠ .closeTest by
    obtain ⟨operation, args, hrequest, hopen, hclose⟩ := hsome
    rw [operation_of_request hrequest]
    exact ⟨hopen, hclose⟩
  unfold Binding.request at h
  cases b with
  | openTest => exact absurd rfl hopen
  | closeTest => exact absurd rfl hclose
  | test => exact absurd rfl htest
  | errorClass => cases h
  | assert | testcase | response | equal | testSkip => exact ⟨_, _, h, by decide, by decide⟩
  | sleep | fetch | consoleLog | consoleInfo | consoleWarn | consoleError | nlpTags | getEnv
  | setShared | getShared | waitShared =>
    obtain ⟨_, -, h⟩ := bind_eq_ok_iff.mp h
    exact ⟨_, _, h, by decide, by decide⟩
  | nlpKeywords | nlpTagFilter | nlpSimilarity | setEnv | addHeader | addParams | record =>
    obtain ⟨_, -, h⟩ := bind_eq_ok_iff.mp h
    obtain ⟨_, -, h⟩ := bind_eq_ok_iff.mp h
    exact ⟨_, _, h, by decide, by decide⟩
  | assertNlp =>
    obtain ⟨_, -, h⟩ := bind_eq_ok_iff.mp h
    obtain ⟨_, -, h⟩ := bind_eq_ok_iff.mp h
    obtain ⟨_, -, h⟩ := bind_eq_ok_iff.mp h
    exact ⟨_, _, h, by decide, by decide⟩

/-! ## Answers -/

theorem mem_insertIndexed {i : Nat} {m : Text16 × Value} {ms : List (Nat × Text16 × Value)}
    {x : Nat × Text16 × Value} (h : x ∈ Value.insertIndexed i m ms) : x = (i, m) ∨ x ∈ ms := by
  induction ms with
  | nil => exact .inl (List.mem_singleton.mp h)
  | cons y rest ih =>
    obtain ⟨j, n⟩ := y
    unfold Value.insertIndexed at h
    split at h
    · rcases List.mem_cons.mp h with h | h
      · exact .inl h
      · exact .inr h
    · rcases List.mem_cons.mp h with h | h
      · exact .inr (h ▸ List.mem_cons_self)
      · exact (ih h).imp_right (List.mem_cons_of_mem _)

theorem mem_setMember {name : Text16} {v : Value} {ms : List (Text16 × Value)} {x : Text16 × Value}
    (h : x ∈ Value.setMember name v ms) : x = (name, v) ∨ x ∈ ms := by
  induction ms with
  | nil => exact .inl (List.mem_singleton.mp h)
  | cons y rest ih =>
    obtain ⟨n, u⟩ := y
    unfold Value.setMember at h
    split at h
    · rename_i hn
      rcases List.mem_cons.mp h with h | h
      · exact .inl (hn ▸ h)
      · exact .inr (List.mem_cons_of_mem _ h)
    · rcases List.mem_cons.mp h with h | h
      · exact .inr (h ▸ List.mem_cons_self)
      · exact (ih h).imp_right (List.mem_cons_of_mem _)

theorem mem_foldl_insertIndexed {members : List (Text16 × Value)}
    {acc : List (Nat × Text16 × Value)}
    {x : Nat × Text16 × Value}
    (h : x ∈ members.foldl (fun acc m =>
      match m.1.index? with
      | some i => Value.insertIndexed i m acc
      | none => acc) acc) : x ∈ acc ∨ x.2 ∈ members := by
  induction members generalizing acc with
  | nil => exact .inl h
  | cons m rest ih =>
    rcases ih h with h | h
    · dsimp only at h
      split at h
      · rcases mem_insertIndexed h with rfl | h
        · exact .inr List.mem_cons_self
        · exact .inl h
      · exact .inl h
    · exact .inr (List.mem_cons_of_mem _ h)

theorem mem_foldl_setMember {members acc : List (Text16 × Value)} {x : Text16 × Value}
    (h : x ∈ members.foldl (fun acc m => Value.setMember m.1 m.2 acc) acc) :
    x ∈ acc ∨ x ∈ members := by
  induction members generalizing acc with
  | nil => exact .inl h
  | cons m rest ih =>
    rcases ih h with h | h
    · rcases mem_setMember h with rfl | h
      · exact .inr List.mem_cons_self
      · exact .inl h
    · exact .inr (List.mem_cons_of_mem _ h)

theorem mem_ofMembers {members own : List (Text16 × Value)} {x : Text16 × Value}
    (hown : Value.ofMembers members = .object own) (hx : x ∈ own) : x ∈ members := by
  cases hown
  have hset : x ∈ members.foldl (fun acc m => Value.setMember m.1 m.2 acc) [] := by
    rcases List.mem_append.mp hx with hx | hx
    · obtain ⟨y, hy, rfl⟩ := List.mem_map.mp hx
      exact (mem_foldl_insertIndexed hy).resolve_left List.not_mem_nil
    · exact List.mem_of_mem_filter hx
  exact (mem_foldl_setMember hset).resolve_left List.not_mem_nil

theorem mem_ofNamed {members : List (String × Json)} {x : Text16 × Value}
    (h : x ∈ Value.ofNamed members) :
    ∃ v, x.2 = .ofJson v := by
  induction members with
  | nil => cases h
  | cons m rest ih =>
    rcases List.mem_cons.mp h with rfl | h
    · exact ⟨_, rfl⟩
    · exact ih h

theorem ofJson_ne_function (v : Json) (callee : Callee) : Value.ofJson v ≠ .function callee := by
  cases v <;> exact fun h => by cases h

/-- What an answer becomes in a script does not have to be followed. -/
theorem isThenable_ofJson (v : Json) : (Value.ofJson v).isThenable = false := by
  cases v with
  | obj members =>
    have hnone : ∀ callee own, Value.ofMembers (Value.ofNamed members) = .object own →
        Value.lookup (.ofString "then") own ≠ some (.function callee) := by
      intro callee own hown hlookup
      obtain ⟨m, hm, hvalue⟩ := Option.map_eq_some_iff.mp hlookup
      obtain ⟨v, hv⟩ := mem_ofNamed (mem_ofMembers hown (List.mem_of_find?_eq_some hm))
      rw [hv] at hvalue
      exact ofJson_ne_function v callee hvalue
    have hobject : ∀ own, Value.ofMembers (Value.ofNamed members) = .object own →
        (Value.object own).isThenable = false := by
      intro own hown
      simp only [Value.isThenable]
      split
      · rename_i hlookup
        exact absurd hlookup (hnone _ own hown)
      · rfl
    exact hobject _ rfl
  | _ => rfl

end ScriptBench
