import ScriptBench.Http.Message
import ScriptBench.Proofs.Script.Coercions

/-!
Which request a description stands for.

1. Headers and parameters are the entries of an array or the members of anything else, in order.
   They are sent one by one as names and values, if each of them has a name that is whole
   (`tells_pairs`).
2. A description comes in two parts. A member of the second hides one of the first, and what neither
   has is looked for behind them (`described_iff`).
3. So what is sent for a fetch is the request that its description stands for
   (`tells_fetchRequest`).
-/
namespace ScriptBench

open Value Text16

/-! ## Headers and parameters -/

namespace Value

/-- The value an entry is named by: its member `name`, or `key` where that is missing. -/
def NameOf (entry n : Value) : Prop :=
  ∃ v, member (.ofString "name") entry = .ok v ∧
    match v with
    | .undefined => member (.ofString "key") entry = .ok n
    | .null => member (.ofString "key") entry = .ok n
    | v => n = v

/-- The header or parameter an entry of an array stands for. -/
structure Entry (entry : Value) (p : NamedValue) : Prop where
  name : ∃ n, NameOf entry n ∧ n.Says p.name
  value : ∃ v, member (.ofString "value") entry = .ok v ∧ v.Says p.value

/-- The headers or parameters a value stands for: none for `undefined` and `null`, the entries of an
array, the members of anything else. -/
def Pairs : Value → List NamedValue → Prop
  | .undefined, ps => ps = []
  | .null, ps => ps = []
  | .array items, ps => List.Forall₂ Entry items ps
  | .holes _, ps => ps = []
  | v, ps => List.Forall₂ (fun m p => m.1 = .ofString p.name ∧ m.2.Says p.value) v.ownMembers ps

/-- What headers and parameters have to be for each of them to be sent: no array with places that
hold nothing, and no string with a character of two units, since a string is taken apart into its
units. -/
def Pairable : Value → Prop
  | .holes count => count = 0
  | .string t => t.Single
  | _ => True

/-- A header or parameter as it is sent. -/
def ofPair (p : NamedValue) : Value := Globals.pair (.text p.name) (.text p.value)

/-- Headers or parameters as they are sent; none are an array without items or without places. -/
def IsPairs (v : Value) (ps : List NamedValue) : Prop :=
  v = .array (ps.map ofPair) ∨ v = .holes 0 ∧ ps = []

end Value

section Pairs

variable {g : Globals} {v : Value}

theorem pairOf_eq (entry : Value) : g.pairOf entry =
    (member (.ofString "name") entry >>= fun v =>
      match v with
      | .undefined => member (.ofString "key") entry
      | .null => member (.ofString "key") entry
      | v => .ok v) >>= fun n => g.text n >>= fun name =>
        member (.ofString "value") entry >>= fun v =>
        (g.text v).map (Globals.pair name) := by
  unfold Globals.pairOf
  cases member (.ofString "name") entry with
  | error e => rfl
  | ok v => cases v <;> rfl

theorem nameOf_whole {entry n : Value} (hentry : entry.Whole) (h : NameOf entry n) : n.Whole := by
  have hname : (ofString "name").IsWord := ⟨_, _, rfl, by decide⟩
  have hkey : (ofString "key").IsWord := ⟨_, _, rfl, by decide⟩
  obtain ⟨v, hv, h⟩ := h
  cases v with
  | undefined | null => exact whole_member hkey hentry h
  | _ =>
    obtain rfl := h
    exact whole_member hname hentry hv

theorem tells_nameOf (entry : Value) : Tells (member (.ofString "name") entry >>= fun v =>
    match v with
    | .undefined => member (.ofString "key") entry
    | .null => member (.ofString "key") entry
    | v => .ok v) Eq (NameOf entry) := by
  refine Tells.of_iff fun n =>
    bind_eq_ok_iff.trans (exists_congr fun v => and_congr_right fun _ => ?_)
  cases v with
  | undefined | null => exact Iff.rfl
  | _ => exact ⟨fun h => (Except.ok.inj h).symm, fun h => congrArg Except.ok h.symm⟩

theorem tells_pairOf (hstring : g.Keeps "String") {entry : Value} (hentry : entry.Whole) :
    Tells (g.pairOf entry) (fun w p => w = ofPair p) (Entry entry) := by
  have hvalue : (ofString "value").IsWord := ⟨_, _, rfl, by decide⟩
  rw [pairOf_eq]
  refine (tells_nameOf entry).bind
    (fun n p => n.Says p.name ∧ ∃ v, member (.ofString "value") entry = .ok v ∧ v.Says p.value)
    (fun n n' _ hn hnn' => ?_) fun p => ?_
  · subst hnn'
    refine (tells_text hstring (nameOf_whole hentry hn)).bind
      (fun s p => s = p.name ∧ ∃ v, member (.ofString "value") entry = .ok v ∧ v.Says p.value)
      (fun w s _ _ hw => ?_) fun p => by simp
    subst hw
    refine (Tells.value _).bind (fun v p => s = p.name ∧ v.Says p.value)
        (fun v v' hv _ hvv' => ?_) fun p => by
      simp [and_left_comm]
    subst hvv'
    refine (tells_text hstring (whole_member hvalue hentry hv)).map (fun t => ⟨s, t⟩) ?_ fun p => ?_
    · rintro w t _ rfl
      rfl
    · constructor
      · rintro ⟨rfl, hp⟩
        exact ⟨p.value, hp, rfl⟩
      · rintro ⟨t, ht, rfl⟩
        exact ⟨rfl, ht⟩
  · constructor
    · rintro ⟨⟨n, hn, hname⟩, hvalue⟩
      exact ⟨n, hn, hname, hvalue⟩
    · rintro ⟨n, hn, hname, hvalue⟩
      exact ⟨⟨n, hn, hname⟩, hvalue⟩

theorem tells_member (hstring : g.Keeps "String") {m : Text16 × Value}
    (hm : m.1.Whole ∧ m.2.Whole) :
    Tells (do return Globals.pair (.string m.1) (← g.text m.2)) (fun w p => w = ofPair p)
      fun p => m.1 = .ofString p.name ∧ m.2.Says p.value := by
  obtain ⟨⟨s, hs⟩, hvalue⟩ := hm
  rw [hs]
  refine (tells_text hstring hvalue).bind (fun t p => p = ⟨s, t⟩) ?_ fun p => ?_
  · rintro w t _ _ rfl
    exact Tells.ok rfl fun _ => Iff.rfl
  · constructor
    · rintro ⟨hname, hp⟩
      obtain rfl := ofString_injective hname
      exact ⟨p.value, hp, rfl⟩
    · rintro ⟨t, ht, rfl⟩
      exact ⟨rfl, ht⟩

theorem isPairs_of_forall₂ {ws : List Value} {ps : List NamedValue}
    (h : List.Forall₂ (fun w p => w = ofPair p) ws ps) :
    IsPairs (.array ws) ps := by
  refine .inl (congrArg Value.array ?_)
  induction h with
  | nil => rfl
  | cons hw _ ih => rw [hw, ih, List.map_cons]

theorem tells_pairs (hstring : g.Keeps "String") (harray : g.Keeps "Array") (hv : v.Whole)
    (hpairable : v.Pairable) :
    Tells (g.pairs v) IsPairs (Pairs v) := by
  have hmembers : Tells (do return Value.array (← g.pairsOfMembers v)) IsPairs
      (List.Forall₂ (fun m p => m.1 = .ofString p.name ∧ m.2.Says p.value) v.ownMembers) := by
    have hsingle : ∀ s, v = .string s → s.Single := by
      rintro s rfl
      exact hpairable
    have hwhole := whole_ownMembers hv hsingle
    refine (Tells.mapM fun m hm => tells_member hstring (hwhole m hm)).bind
      (fun ps ps' => ps' = ps) ?_ (by simp)
    intro ws ps _ _ hws
    exact Tells.ok (isPairs_of_forall₂ hws) fun _ => Iff.rfl
  cases v with
  | undefined | null => exact Tells.ok (.inl rfl) fun _ => Iff.rfl
  | array items =>
    have hpairs : g.pairs (.array items) = do return Value.array (← items.mapM g.pairOf) := by
      rw [Globals.pairs, Globals.isArray_eq harray]
      · rfl
      · nofun
      · nofun
    rw [hpairs]
    refine (Tells.mapM fun entry hentry =>
      tells_pairOf hstring (wholeItems_iff.mp hv entry hentry)).bind
      (fun ps ps' => ps' = ps) (fun ws ps _ _ hws => ?_) (by simp [Pairs])
    exact Tells.ok (isPairs_of_forall₂ hws) fun _ => Iff.rfl
  | holes count =>
    obtain rfl : count = 0 := hpairable
    have hpairs : g.pairs (.holes 0) = .ok (.holes 0) := by
      rw [Globals.pairs, Globals.isArray_eq harray]
      · rfl
      · nofun
      · nofun
    rw [hpairs]
    exact Tells.ok (.inr ⟨rfl, rfl⟩) fun _ => Iff.rfl
  | _ =>
    rw [Globals.pairs, Globals.isArray_eq harray]
    · exact hmembers
    · nofun
    · nofun

end Pairs

/-! ## Requests -/

namespace Value

/-- The last own member of a name. -/
def own? (name : String) (v : Value) : Option Value := lookup (.ofString name) v.ownMembers.reverse

/-- What a description in two parts gives for a name: the member of the second part, else that of
the first, else what stands behind them. -/
def Offered (input init : Value) (name : String) (v : Value) : Prop :=
  match (init.own? name).or ((Globals.addressed input).own? name) with
  | some w => v = w
  | none => Globals.behind [Globals.addressed input, init] (.ofString name) = .ok v

/-- The method of a description, in upper case; GET where it is missing or false. -/
def MethodOf (input init : Value) (m : String) : Prop :=
  ∃ v, Offered input init "method" v ∧ ∃ s, (Globals.orElse v (.text "GET")).Says s ∧
    Uppercase.ofString s = m

/-- The address of a description; empty where it is missing or false. -/
def UrlOf (input init : Value) (u : String) : Prop :=
  ∃ v, Offered input init "url" v ∧ (Globals.orElse v (.text "")).Says u

/-- The headers or parameters a description has under a name. -/
def PairsOf (input init : Value) (name : String) (ps : List NamedValue) : Prop :=
  ∃ v, Offered input init name v ∧ Pairs v ps

/-- The request a description in two parts stands for. -/
structure Fetched (input init : Value) (r : Request) : Prop where
  method : MethodOf input init r.method
  url : UrlOf input init r.url
  headers : PairsOf input init "headers" r.headers
  params : PairsOf input init "params" r.params
  body : ∃ v, Offered input init "body" v ∧ BodyText v r.body

/-- A request as it is sent. A body without JSON text is none. -/
def IsRequest (w : Value) (r : Request) : Prop :=
  ∃ headers params body, IsPairs headers r.headers ∧ IsPairs params r.params ∧
    (body = .text r.body ∨ body = .undefined ∧ r.body = "") ∧
    w = .object [(.ofString "method", .text r.method), (.ofString "url", .text r.url),
      (.ofString "headers", headers), (.ofString "params", params), (.ofString "body", body)]

end Value

section Requests

variable {g : Globals} {input init v : Value} {name : String}

theorem lookup_append (n : Text16) (ms ms' : List (Text16 × Value)) :
    lookup n (ms ++ ms') = (lookup n ms).or (lookup n ms') := by
  rw [lookup, List.find?_append, Option.map_or]
  rfl

/-- Of members set one after the other the last of a name stays. -/
theorem lookup_foldl_setMember (n : Text16) (ms acc : List (Text16 × Value)) :
    lookup n (ms.foldl (fun acc m => setMember m.1 m.2 acc) acc) =
      (lookup n ms.reverse).or (lookup n acc) := by
  induction ms generalizing acc with
  | nil => rfl
  | cons m ms ih =>
    have hset : lookup n (setMember m.1 m.2 acc) = (lookup n [m]).or (lookup n acc) := by
      by_cases hn : n = m.1
      · rw [hn, lookup_setMember_self]
        simp [lookup]
      · rw [lookup_setMember_of_ne hn]
        simp [lookup, Ne.symm hn]
    rw [List.foldl_cons, ih, hset, List.reverse_cons, lookup_append, Option.or_assoc]

theorem described_iff :
    Globals.described [Globals.addressed input, init] (.ofString name) = .ok v ↔
      Offered input init name v := by
  have hlookup : lookup (.ofString name) (Builtin.merged [] [Globals.addressed input, init]) =
      (init.own? name).or ((Globals.addressed input).own? name) := by
    rw [Builtin.merged, lookup_foldl_setMember, List.flatMap_cons, List.flatMap_cons,
      List.flatMap_nil, List.append_nil, List.reverse_append, lookup_append]
    simp [lookup, own?]
  rw [Globals.described, hlookup, Offered]
  cases (init.own? name).or ((Globals.addressed input).own? name) with
  | some w => exact ⟨fun h => (Except.ok.inj h).symm, fun h => congrArg Except.ok h.symm⟩
  | none => exact Iff.rfl

theorem whole_addressed (hinput : input.Whole) : (Globals.addressed input).Whole := by
  cases input with
  | string t => exact ⟨whole_ofString _, hinput, trivial⟩
  | _ => exact hinput

theorem mem_of_ancestorOf {vs : List Value} (h : Globals.ancestorOf vs = some v) : v ∈ vs := by
  induction vs with
  | nil => cases h
  | cons w rest ih =>
    unfold Globals.ancestorOf at h
    split at h
    · cases h
      exact List.mem_cons_self
    · obtain h | ⟨-, h⟩ := Option.or_eq_some_iff.mp h
      · exact List.mem_cons_of_mem _ (ih h)
      · cases h
        exact List.mem_cons_self

theorem whole_behind {parts : List Value} (hparts : ∀ p ∈ parts, p.Whole) {n : Text16}
    (hn : n.IsWord) (h : Globals.behind parts n = .ok v) : v.Whole := by
  have hancestry : Globals.ancestry.IsWord := ⟨_, _, rfl, by decide⟩
  unfold Globals.behind at h
  dsimp only at h
  split at h
  · cases h
    trivial
  · rename_i w _ hancestor
    obtain ⟨m, hm, rfl⟩ := List.mem_map.mp (mem_of_ancestorOf hancestor)
    obtain ⟨hmem, hname⟩ := List.mem_filter.mp hm
    obtain ⟨p, hp, hmp⟩ := List.mem_flatMap.mp hmem
    have hword : m.1.IsWord := by
      have heq : m.1 = Globals.ancestry := (of_decide_eq_true hname).1
      rw [heq]
      exact hancestry
    exact whole_member hn (whole_of_mem_ownMembers (hparts p hp) hmp hword) h
  · cases h
    trivial

theorem whole_own? (hv : v.Whole) (hname : (ofString name).IsWord) {w : Value}
    (h : v.own? name = some w) : w.Whole := by
  obtain ⟨m, hm, rfl⟩ := Option.map_eq_some_iff.mp h
  have heq : m.1 = ofString name := by simpa using List.find?_some hm
  refine whole_of_mem_ownMembers hv (List.mem_reverse.mp (List.mem_of_find?_eq_some hm)) ?_
  rw [heq]
  exact hname

theorem Value.Offered.whole (h : Offered input init name v) (hinput : input.Whole)
    (hinit : init.Whole) (hname : (ofString name).IsWord) : v.Whole := by
  unfold Offered at h
  split at h
  · rename_i w hw
    obtain rfl := h
    obtain hw | ⟨-, hw⟩ := Option.or_eq_some_iff.mp hw
    · exact whole_own? hinit hname hw
    · exact whole_own? (whole_addressed hinput) hname hw
  · refine whole_behind ?_ hname h
    simpa using ⟨whole_addressed hinput, hinit⟩

theorem whole_orElse (hv : v.Whole) (s : String) : (Globals.orElse v (.text s)).Whole := by
  unfold Globals.orElse
  split
  · exact hv
  · exact whole_ofString s

/-- A request is put together from its members, one after the other. -/
theorem fetchRequest_eq (hobject : g.Keeps "Object") (hstring : g.Keeps "String") :
    g.fetchRequest input init =
      (Globals.described [Globals.addressed input, init] (.ofString "body") >>= fun given =>
        (Globals.described [Globals.addressed input, init] (.ofString "method") >>= fun v =>
          (toText (Globals.orElse v (.text "GET"))).map fun t => .string t.upper) >>= fun method =>
        (Globals.described [Globals.addressed input, init] (.ofString "url") >>= fun v =>
          g.text (Globals.orElse v (.text ""))) >>= fun url =>
        (Globals.described [Globals.addressed input, init] (.ofString "headers") >>= g.pairs) >>=
          fun headers =>
        (Globals.described [Globals.addressed input, init] (.ofString "params") >>= g.pairs) >>=
          fun params =>
        (g.body given).map fun body =>
          .object [(.ofString "method", method), (.ofString "url", url),
            (.ofString "headers", headers), (.ofString "params", params),
            (.ofString "body", body)]) := by
  unfold Globals.fetchRequest
  dsimp only
  rw [Globals.assign_eq hobject]
  show (Globals.described _ _ >>= _) = _
  cases Globals.described [Globals.addressed input, init] (.ofString "body") with
  | error e => rfl
  | ok given =>
    cases Globals.described [Globals.addressed input, init] (.ofString "method") with
    | error e => rfl
    | ok v =>
      show (g.text (Globals.orElse v (.text "GET")) >>= _) = _
      rw [Globals.text_eq hstring]
      cases hmethod : toText (Globals.orElse v (.text "GET")) with
      | error e => simp only [Except.map, bind, Except.bind, hmethod]
      | ok t =>
        simp only [map_eq_bind, bind_assoc]
        simp only [bind, Except.bind, hmethod]
        rfl

theorem tells_method (hinput : input.Whole) (hinit : init.Whole) :
    Tells (Globals.described [Globals.addressed input, init] (.ofString "method") >>= fun v =>
        (toText (Globals.orElse v (.text "GET"))).map fun t => Value.string t.upper)
          (fun w s => w = Value.text s)
      (MethodOf input init) := by
  refine (Tells.of_iff fun _ => described_iff).bind
    (fun v m => ∃ s, (Globals.orElse v (.text "GET")).Says s ∧ Uppercase.ofString s = m) ?_
    fun _ => Iff.rfl
  rintro v _ - hv rfl
  have hwhole : v.Whole := hv.whole hinput hinit ⟨_, _, rfl, by decide⟩
  refine (tells_toText (whole_orElse hwhole "GET")).map Uppercase.ofString ?_ fun _ => Iff.rfl
  rintro _ s - rfl
  rw [upper_ofString]
  rfl

theorem tells_url (hstring : g.Keeps "String") (hinput : input.Whole) (hinit : init.Whole) :
    Tells (Globals.described [Globals.addressed input, init] (.ofString "url") >>= fun v =>
        g.text (Globals.orElse v (.text ""))) (fun w s => w = Value.text s) (UrlOf input init) := by
  refine (Tells.of_iff fun _ => described_iff).bind
    (fun v u => (Globals.orElse v (.text "")).Says u) ?_ fun _ => Iff.rfl
  rintro v _ - hv rfl
  have hwhole : v.Whole := hv.whole hinput hinit ⟨_, _, rfl, by decide⟩
  exact tells_text hstring (whole_orElse hwhole "")

theorem tells_pairsOf (hstring : g.Keeps "String") (harray : g.Keeps "Array") (hinput : input.Whole)
    (hinit : init.Whole) (hname : (ofString name).IsWord)
    (hpairable : ∀ v, Offered input init name v → v.Pairable) :
    Tells (Globals.described [Globals.addressed input, init] (.ofString name) >>= g.pairs) IsPairs
      (PairsOf input init name) := by
  refine (Tells.of_iff fun _ => described_iff).bind (fun v ps => Pairs v ps) ?_ fun _ => Iff.rfl
  rintro v _ - hv rfl
  exact tells_pairs hstring harray (hv.whole hinput hinit hname) (hpairable v hv)

/-- What is sent for a fetch is the request that its description stands for. -/
theorem tells_fetchRequest (hkeeps : ∀ n ∈ ["Object", "String", "Array", "JSON"], g.Keeps n)
    (hinput : input.Whole) (hinit : init.Whole)
    (hpairable : ∀ n ∈ ["headers", "params"], ∀ v, Offered input init n v → v.Pairable) :
    Tells (g.fetchRequest input init) IsRequest (Fetched input init) := by
  simp only [List.forall_mem_cons] at hkeeps hpairable
  obtain ⟨hobject, hstring, harray, hjson, -⟩ := hkeeps
  obtain ⟨hheaders, hparams, -⟩ := hpairable
  rw [fetchRequest_eq hobject hstring]
  -- what is left to be told of the request shrinks by one member at each step
  refine (Tells.of_iff fun _ => described_iff).bind
    (fun given r => MethodOf input init r.method ∧ UrlOf input init r.url ∧
      PairsOf input init "headers" r.headers ∧
      PairsOf input init "params" r.params ∧ BodyText given r.body) ?_ fun r => ?_
  · rintro given _ - hgiven rfl
    have hwhole : given.Whole := hgiven.whole hinput hinit ⟨_, _, rfl, by decide⟩
    refine (tells_method hinput hinit).bind
      (fun m r => r.method = m ∧ UrlOf input init r.url ∧ PairsOf input init "headers" r.headers ∧
        PairsOf input init "params" r.params ∧ BodyText given r.body) ?_ (by simp)
    rintro _ m - - rfl
    refine (tells_url hstring hinput hinit).bind
      (fun u r => r.method = m ∧ r.url = u ∧ PairsOf input init "headers" r.headers ∧
        PairsOf input init "params" r.params ∧ BodyText given r.body) ?_ (by simp [and_left_comm])
    rintro _ u - - rfl
    refine (tells_pairsOf hstring harray hinput hinit ⟨_, _, rfl, by decide⟩ hheaders).bind
      (fun hs r => r.method = m ∧ r.url = u ∧ r.headers = hs ∧
        PairsOf input init "params" r.params ∧
        BodyText given r.body) ?_ (by simp [and_left_comm])
    rintro wh hs - - hwh
    refine (tells_pairsOf hstring harray hinput hinit ⟨_, _, rfl, by decide⟩ hparams).bind
      (fun ps r => r.method = m ∧ r.url = u ∧ r.headers = hs ∧ r.params = ps ∧
        BodyText given r.body) ?_
      (by simp [and_left_comm])
    rintro wp ps - - hwp
    refine (tells_body hjson hwhole).map (fun b => ⟨m, u, hs, ps, b⟩) ?_ fun r => ?_
    · rintro w b - hw
      exact ⟨wh, wp, w, hwh, hwp, hw, rfl⟩
    · constructor
      · rintro ⟨rfl, rfl, rfl, rfl, hbody⟩
        exact ⟨r.body, hbody, rfl⟩
      · rintro ⟨b, hb, rfl⟩
        exact ⟨rfl, rfl, rfl, rfl, hb⟩
  · constructor
    · rintro ⟨hmethod, hurl, hhs, hps, given, hgiven, hbody⟩
      exact ⟨given, hgiven, hmethod, hurl, hhs, hps, hbody⟩
    · rintro ⟨given, hgiven, hmethod, hurl, hhs, hps, hbody⟩
      exact ⟨hmethod, hurl, hhs, hps, given, hgiven, hbody⟩

end Requests

end ScriptBench
