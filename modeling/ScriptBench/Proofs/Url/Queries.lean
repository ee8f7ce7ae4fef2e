import Mathlib.Data.List.TakeWhile
import ScriptBench.Http.Client
import ScriptBench.Proofs.Json.Records
import ScriptBench.Proofs.Url.Pairs

/-!
The parameters of a request in its address.

1. What a parser leaves of a query or a fragment stands as it is: to escape it again changes nothing
   (`parse_settled`), and this stays so when pairs are added (`settled_appendPairs`).
2. So the text of such an address falls apart again where it was put together: its query ends where
   it ended, and nothing of it is taken for a fragment (`splitTail_tail`).
3. The parameters of a request come after the pairs its address has, in order and as they were
   given, and no other part of the address changes (`params_follow_the_query`).
-/
namespace ScriptBench

namespace Percent

/-- A character that is not escaped. -/
def Stands (set : EscapeSet) (c : Char) : Prop := isControl c = false ∧ c ∉ set

/-- A set that no character of an escape is in. -/
def LeavesEscapes (set : EscapeSet) : Prop := '%' ∉ set ∧ ∀ n < 16, digit n ∉ set

instance (set : EscapeSet) (c : Char) : Decidable (Stands set c) :=
  inferInstanceAs (Decidable (_ ∧ _))

instance (set : EscapeSet) : Decidable (LeavesEscapes set) := inferInstanceAs (Decidable (_ ∧ _))

variable {set : EscapeSet}

theorem encode_of_stands {cs : List Char} (h : ∀ c ∈ cs, Stands set c) : encode set cs = cs := by
  induction cs with
  | nil => rfl
  | cons c cs ih =>
    obtain ⟨⟨hcontrol, hset⟩, hcs⟩ := List.forall_mem_cons.mp h
    have hc : encodeChar set c = [c] := by simp [encodeChar, hcontrol, hset]
    calc encode set (c :: cs)
        = encodeChar set c ++ encode set cs := rfl
      _ = c :: cs := by rw [hc, ih hcs]; rfl

theorem isControl_digit : ∀ n < 16, isControl (digit n) = false := by decide

theorem stands_of_mem_escape (hset : LeavesEscapes set) {b : UInt8} {c : Char} (h : c ∈ escape b) :
    Stands set c := by
  have hb : b.toNat < 256 := b.toNat_lt
  simp only [escape, List.mem_cons, List.not_mem_nil, or_false] at h
  obtain rfl | rfl | rfl := h
  · exact ⟨by decide, hset.1⟩
  · exact ⟨isControl_digit _ (by omega), hset.2 _ (by omega)⟩
  · exact ⟨isControl_digit _ (by omega), hset.2 _ (by omega)⟩

theorem stands_of_mem_encode (hset : LeavesEscapes set) {cs : List Char} {c : Char}
    (h : c ∈ encode set cs) :
    Stands set c := by
  obtain ⟨d, -, hd⟩ := List.mem_flatMap.mp h
  unfold encodeChar at hd
  split at hd
  · obtain ⟨b, -, hb⟩ := List.mem_flatMap.mp hd
    exact stands_of_mem_escape hset hb
  · rename_i hplain
    obtain rfl := List.mem_singleton.mp hd
    simpa [Stands] using hplain

end Percent

namespace Url

/-! ## The text of an address in two halves -/

/-- The text of an address before its query. -/
def front (u : Url) : List Char :=
  u.scheme ++ ':' :: (u.authority.map Authority.chars).getD [] ++ u.pathChars

/-- The text of the query and the fragment, with what tells them. -/
def tail (u : Url) : List Char :=
  (u.query.map ('?' :: ·)).getD [] ++ (u.fragment.map ('#' :: ·)).getD []

theorem chars_eq (u : Url) : u.chars = u.front ++ u.tail := by
  obtain ⟨scheme, authority, path, query, fragment⟩ := u
  cases query <;> cases fragment <;> simp [chars, front, tail]

/-! ## Settled addresses -/

/-- The characters that are escaped in the query of an address. -/
def querySet (kind : SchemeKind) : Percent.EscapeSet :=
  if kind = .other then Percent.query else Percent.specialQuery

theorem leavesEscapes_querySet (kind : SchemeKind) : Percent.LeavesEscapes (querySet kind) := by
  cases kind <;> decide

/-- Query and fragment of an address hold nothing that would have to be escaped in them. -/
structure Settled (u : Url) : Prop where
  query : ∀ q, u.query = some q → ∀ c ∈ q, Percent.Stands (querySet (kindOf u.scheme)) c
  fragment : ∀ f, u.fragment = some f → ∀ c ∈ f, Percent.Stands Percent.fragment c

theorem settled_assemble {kind : SchemeKind} {scheme : List Char} (hkind : kindOf scheme = kind)
    (authority : Option Authority) (path tail : List Char) :
    (assemble kind scheme authority path tail).Settled := by
  refine ⟨?_, ?_⟩
  · intro q hq c hc
    show Percent.Stands (querySet (kindOf scheme)) c
    simp only [assemble, splitTail] at hq
    split at hq
    · cases hq
      rw [hkind]
      exact Percent.stands_of_mem_encode (leavesEscapes_querySet kind) hc
    · cases hq
  · intro f hf c hc
    simp only [assemble, splitTail] at hf
    split at hf <;> dsimp only at hf <;> split at hf <;> cases hf
    all_goals exact Percent.stands_of_mem_encode (by decide) hc

theorem settled_of_readAfterSlashes {kind : SchemeKind} {scheme cs : List Char} {u : Url}
    (hkind : kindOf scheme = kind) (h : readAfterSlashes kind scheme cs = .ok u) : u.Settled := by
  obtain ⟨⟨authority, left⟩, -, hu⟩ := bind_eq_ok_iff.mp h
  cases hu
  exact settled_assemble hkind _ _ _

theorem settled_of_readFile {cs : List Char} {u : Url} (h : readFile cs = .ok u) : u.Settled := by
  have hfile : kindOf "file".toList = .file := by decide
  simp only [readFile] at h
  split at h
  · split at h
    · split at h
      · cases h
        exact settled_assemble hfile _ _ _
      · obtain ⟨host, -, hu⟩ := bind_eq_ok_iff.mp h
        cases hu
        exact settled_assemble hfile _ _ _
    · split at h <;> cases h <;> exact settled_assemble hfile _ _ _
  · cases h
    exact settled_assemble hfile _ _ _
  · cases h
    exact settled_assemble hfile _ _ _

theorem settled_of_readOther {scheme cs : List Char} {u : Url} (hkind : kindOf scheme = .other)
    (h : readOther scheme cs = .ok u) : u.Settled := by
  unfold readOther at h
  split at h
  · exact settled_of_readAfterSlashes hkind h
  · cases h
    exact settled_assemble hkind _ _ _

/-- What is read has nothing left to escape in its query and its fragment. -/
theorem parse_settled {text : String} {u : Url} (h : parse text = .ok u) : u.Settled := by
  unfold parse at h
  split at h
  · cases h
  · split at h
    · rename_i hkind
      exact settled_of_readAfterSlashes hkind h
    · exact settled_of_readFile h
    · rename_i hkind
      exact settled_of_readOther hkind h

/-! ## More pairs -/

theorem stands_of_isPlain : ∀ n < 128, Form.isPlain (Char.ofNat n) = true →
    ∀ kind, Percent.Stands (querySet kind) (Char.ofNat n) := by
  intro n hn h kind
  revert n
  cases kind <;> decide

theorem stands_of_isWritten {kind : SchemeKind} {c : Char} (h : Form.IsWritten c) :
    Percent.Stands (querySet kind) c := by
  obtain h | rfl | rfl := h
  · rw [← Char.ofNat_toNat c] at h ⊢
    exact stands_of_isPlain _ (by simpa using Form.lt_of_isPlain h) h kind
  · cases kind <;> decide
  · cases kind <;> decide

theorem stands_appendPair {kind : SchemeKind} {query : List Char}
    (h : ∀ c ∈ query, Percent.Stands (querySet kind) c) (name value : String) :
    ∀ c ∈ Form.appendPair query name value, Percent.Stands (querySet kind) c := by
  have hpair : ∀ c ∈ Form.encodePair name value, Percent.Stands (querySet kind) c := by
    intro c hc
    obtain hc | rfl | hc := by simpa [Form.encodePair] using hc
    · exact stands_of_isWritten (Form.isWritten_of_mem_encode hc)
    · cases kind <;> decide
    · exact stands_of_isWritten (Form.isWritten_of_mem_encode hc)
  intro c hc
  unfold Form.appendPair at hc
  split at hc
  · exact hpair c hc
  · obtain hc | rfl | hc := by simpa using hc
    · exact h c hc
    · cases kind <;> decide
    · exact hpair c hc

theorem stands_appendPairs {kind : SchemeKind} (params : List (String × String)) {query : List Char}
    (h : ∀ c ∈ query, Percent.Stands (querySet kind) c) :
    ∀ c ∈ params.foldl (fun q (name, value) => Form.appendPair q name value) query,
      Percent.Stands (querySet kind) c := by
  induction params generalizing query with
  | nil => exact h
  | cons p rest ih => exact ih (stands_appendPair h p.1 p.2)

theorem settled_appendPairs {u : Url} (h : u.Settled) (params : List (String × String)) :
    (u.appendPairs params).Settled := by
  unfold appendPairs
  split
  · exact h
  · refine ⟨?_, h.fragment⟩
    intro q hq
    cases hq
    refine stands_appendPairs params ?_
    cases hquery : u.query with
    | none => exact fun c hc => absurd hc List.not_mem_nil
    | some q => exact h.query q hquery

theorem pairs_appendPairs (u : Url) (params : List (String × String)) :
    (u.appendPairs params).pairs = u.pairs ++ params := by
  unfold appendPairs
  split
  · rename_i hempty
    rw [List.isEmpty_iff.mp hempty, List.append_nil]
  · show Form.decodePairs _ = _
    rw [Form.decodePairs_appendPairs]
    unfold pairs
    cases u.query <;> rfl

/-- The rest of an address does not depend on the pairs that are added to it. -/
theorem appendPairs_frame (u : Url) (params : List (String × String)) :
    (u.appendPairs params).scheme = u.scheme ∧ (u.appendPairs params).authority = u.authority ∧
      (u.appendPairs params).path = u.path ∧ (u.appendPairs params).fragment = u.fragment := by
  unfold appendPairs
  split <;> exact ⟨rfl, rfl, rfl, rfl⟩

/-! ## The text of an address -/

/-- Query and fragment are found again in the text they are written as. -/
theorem splitTail_tail {u : Url} (h : u.Settled) :
    splitTail (kindOf u.scheme) u.tail = (u.query, u.fragment) := by
  obtain ⟨scheme, authority, path, query, fragment⟩ := u
  have hfragment : ∀ f, fragment = some f → Percent.encode Percent.fragment f = f := fun f hf =>
    Percent.encode_of_stands (h.fragment f hf)
  cases query with
  | none =>
    cases fragment with
    | none => rfl
    | some f => simp [tail, splitTail, hfragment f rfl]
  | some q =>
    have hstands : ∀ c ∈ q, Percent.Stands (querySet (kindOf scheme)) c := h.query q rfl
    have hquery : Percent.encode (querySet (kindOf scheme)) q = q :=
      Percent.encode_of_stands hstands
    have hhash : ∀ c ∈ q, (c != '#') = true := by
      intro c hc
      refine bne_iff_ne.mpr ?_
      rintro rfl
      exact (hstands _ hc).2 (by cases kindOf scheme <;> decide)
    unfold querySet at hquery
    have hsplit : ∀ rest : List Char, (q ++ '#' :: rest).takeWhile (· != '#') = q ∧
        (q ++ '#' :: rest).dropWhile (· != '#') = '#' :: rest := by
      intro rest
      rw [List.takeWhile_append_of_pos hhash, List.dropWhile_append_of_pos hhash]
      simp
    have hwhole : q.takeWhile (· != '#') = q ∧ q.dropWhile (· != '#') = [] :=
      ⟨List.takeWhile_eq_self_iff.mpr hhash, List.dropWhile_eq_nil_iff.mpr hhash⟩
    cases fragment with
    | none => simp [tail, splitTail, hwhole, hquery]
    | some f => simp [tail, splitTail, hsplit, hquery, hfragment f rfl]

/-- What stands before the query stays as it is when pairs are added. -/
theorem front_appendPairs (u : Url) (params : List (String × String)) :
    (u.appendPairs params).front = u.front := by
  obtain ⟨hscheme, hauthority, hpath, -⟩ := appendPairs_frame u params
  simp only [front, pathChars, hscheme, hauthority, hpath]

end Url

/-! ## Requests -/

/-- The parameters of a request come after the pairs its address has, in order and as they were
given. Everything before the query stays as it is; the text behind it reads as that query and the
same fragment. An address that gets no parameters is not touched. -/
theorem params_follow_the_query {r : Request} {u : Url} (h : Url.parse r.url = .ok u) :
    ∃ v, Outgoing.buildUrl r = .ok v ∧
      v.pairs = u.pairs ++ r.params.map (fun p => (p.name, p.value)) ∧
      (v.scheme = u.scheme ∧ v.authority = u.authority ∧ v.path = u.path ∧
        v.fragment = u.fragment) ∧
      (v.chars = u.front ++ v.tail ∧
        Url.splitTail (Url.kindOf u.scheme) v.tail = (v.query, u.fragment)) ∧
      (r.params = [] → v = u) ∧
      ∀ o, Outgoing.ofRequest r = .ok o → o.url = v := by
  have hbuild : Outgoing.buildUrl r =
      .ok (u.appendPairs (r.params.map fun p => (p.name, p.value))) := by
    rw [Outgoing.buildUrl, h]
  obtain ⟨hscheme, hauthority, hpath, hfragment⟩ :=
    Url.appendPairs_frame u (r.params.map fun p => (p.name, p.value))
  refine ⟨_, hbuild, Url.pairs_appendPairs _ _, ⟨hscheme, hauthority, hpath, hfragment⟩,
    ⟨?_, ?_⟩, ?_, ?_⟩
  · rw [Url.chars_eq, Url.front_appendPairs]
  · have hsettled :=
      Url.settled_appendPairs (Url.parse_settled h) (r.params.map fun p => (p.name, p.value))
    have hsplit := Url.splitTail_tail hsettled
    rwa [hscheme, hfragment] at hsplit
  · intro hnone
    rw [hnone]
    rfl
  · intro o ho
    unfold Outgoing.ofRequest at ho
    split at ho
    · cases ho
    · obtain ⟨url, hurl, ho⟩ := bind_eq_ok_iff.mp ho
      obtain ⟨headers, -, ho⟩ := bind_eq_ok_iff.mp ho
      cases ho
      exact (Except.ok.inj (hbuild.symm.trans hurl)).symm

/-- A request with every separator in its parameters, and an address that ends in one. -/
def separatorsEverywhere : Request where
  method := "GET"
  url := "http://[::1]:8080/p?a=1&#f"
  params := [⟨"", ""⟩, ⟨"a b", "1&c=2"⟩, ⟨"#é", "100%+"⟩]
  headers := []
  body := ""

theorem separators_come_back :
    ∃ u v, Url.parse separatorsEverywhere.url = .ok u ∧
      Outgoing.buildUrl separatorsEverywhere = .ok v ∧
      u.pairs = [("a", "1")] ∧
      v.pairs = [("a", "1"), ("", ""), ("a b", "1&c=2"), ("#é", "100%+")] ∧
      v.chars = u.front ++ v.tail ∧ v.fragment = some ['f'] := by
  have hparse : Url.parse separatorsEverywhere.url = .ok
      ⟨"http".toList, some ⟨[], [], some (.ipv6 [0, 0, 0, 0, 0, 0, 0, 1]), some 8080⟩, "/p".toList,
        some "a=1&".toList, some ['f']⟩ := by rfl
  obtain ⟨v, hbuild, hpairs, ⟨-, -, -, hfragment⟩, ⟨hchars, -⟩, -, -⟩ :=
    params_follow_the_query hparse
  have hfirst : Form.decodePairs "a=1&".toList = [("a", "1")] := by decide +kernel
  refine ⟨_, v, hparse, hbuild, hfirst, ?_, hchars, hfragment⟩
  rw [hpairs]
  exact congrArg (· ++ separatorsEverywhere.params.map fun p => (p.name, p.value)) hfirst

end ScriptBench
