import ScriptBench.Proofs.Host.Failure

/-!
A call does the same wherever it is made.

Two hosts are alike (`Alike`) when their instances differ at most in number and log and have asked
the same of collaborators, whatever else is in their worlds. If the network answers each instance by
what that instance has asked (`Collaborators.AnswersEachAlone`), then a call that reads no shared
value has the same answer in both, leaves them alike, and moves them by the same lines in the log,
the same steps of the store and the same visits (`call_together`).
-/
namespace ScriptBench

/-- What one instance has asked of collaborators. -/
def Visits.own (who : Nat) (visits : Visits) : List Visit :=
  visits.filterMap fun v => if v.1 = who then some v.2 else none

theorem Visits.own_append (who other : Nat) (visits : Visits) (more : List Visit) :
    Visits.own who (visits ++ more.map (other, ·)) =
      Visits.own who visits ++ if other = who then more else [] := by
  have hmore : (more.map (other, ·)).filterMap (fun v => if v.1 = who then some v.2 else none) =
      if other = who then more else [] := by
    induction more with
    | nil => simp
    | cons v rest ih => by_cases h : other = who <;> simp_all
  rw [own, own, List.filterMap_append, hmore]

/-- The network answers each instance by what that instance has asked. -/
def Collaborators.AnswersEachAlone (c : Collaborators) : Prop :=
  ∃ f : List Visit → Request → NetworkReply, ∀ visits who r, c.network visits who r =
    f (visits.own who) r

/-- What a call that reads no shared value does to the store. -/
def Call.storeSteps : Call → List Store.Step
  | .setShared key value => [.set key value]
  | _ => []

/-- The key of a call that reads a shared value. -/
def Call.reads? : Call → Option String
  | .getShared key => some key
  | .waitShared key => some key
  | _ => none

namespace Host

/-- The same instance but for number and log, which has asked the same of collaborators. -/
structure Alike (h h' : Host) : Prop where
  inst : h'.inst = { h.inst with number := h'.inst.number, logs := h'.inst.logs }
  visits : Visits.own h'.inst.number h'.world.visits = Visits.own h.inst.number h.world.visits

/-- A host after a change that shows at most in the log. -/
structure Quiet (h h₁ : Host) : Prop where
  inst : h₁.inst = { h.inst with logs := h₁.inst.logs }
  visits : h₁.world.visits = h.world.visits

theorem Alike.quiet {h h' h₁ h₁' : Host} (ha : Alike h h') (hq : Quiet h h₁) (hq' : Quiet h' h₁') :
    Alike h₁ h₁' := by
  have hnumber : h₁.inst.number = h.inst.number := by rw [hq.inst]
  have hnumber' : h₁'.inst.number = h'.inst.number := by rw [hq'.inst]
  refine ⟨?_, ?_⟩
  · rw [hq'.inst, hq.inst, ha.inst]
  · rw [hq.visits, hq'.visits, hnumber, hnumber', ha.visits]

theorem Alike.enterScope {h h' : Host} (ha : Alike h h') (scope : String) :
    Alike (h.enterScope scope) (h'.enterScope scope) := by
  refine ⟨?_, ha.visits⟩
  dsimp only [Host.enterScope]
  rw [ha.inst]

theorem alike_refl (h : Host) : Alike h h := ⟨rfl, rfl⟩

/-- How far a host has moved. -/
structure MovedBy (lines : List LogEntry) (steps : List Store.Step) (visits : List Visit)
    (h h₁ : Host) : Prop where
  number : h₁.inst.number = h.inst.number
  logs : h₁.inst.logs = h.inst.logs ++ lines
  store : h₁.world.store = h.world.store.run steps
  visits : h₁.world.visits = h.world.visits ++ visits.map (h.inst.number, ·)

namespace MovedBy

variable {h h₁ : Host} {steps : List Store.Step}

theorem nowhere (h : Host) : MovedBy [] [] [] h h :=
  ⟨rfl, (List.append_nil _).symm, rfl, (List.append_nil _).symm⟩

theorem log (s : Settings) (h : Host) (level : LogLevel) (message : String) :
    MovedBy [⟨level, s.now, h.inst.scope, message⟩] [] [] h (h.log s level message) :=
  ⟨rfl, rfl, rfl, (List.append_nil _).symm⟩

theorem visit (h : Host) (v : Visit) : MovedBy [] [] [v] h (h.visit v) :=
  ⟨rfl, (List.append_nil _).symm, rfl, rfl⟩

end MovedBy

/-- Two hosts do the same and come to the same result, with these steps of their stores. -/
structure Together {α : Type} (steps : List Store.Step) (h h' : Host) (r r' : Host × α) : Prop where
  result : r'.2 = r.2
  inst : r'.1.inst = { r.1.inst with number := r'.1.inst.number, logs := r'.1.inst.logs }
  moved : ∃ lines visits, MovedBy lines steps visits h r.1 ∧ MovedBy lines steps visits h' r'.1

theorem Together.alike {α : Type} {steps : List Store.Step} {h h' : Host} {r r' : Host × α}
    (ha : Alike h h') (ht : Together steps h h' r r') : Alike r.1 r'.1 := by
  obtain ⟨lines, visits, hm, hm'⟩ := ht.moved
  refine ⟨ht.inst, ?_⟩
  rw [hm.visits, hm'.visits, hm.number, hm'.number, Visits.own_append, Visits.own_append,
    if_pos rfl, if_pos rfl, ha.visits]

variable {s : Settings} {h h' : Host}

theorem together_same {α : Type} (ha : Alike h h') (a : α) : Together [] h h' (h, a) (h', a) :=
  ⟨rfl, ha.inst, [], [], .nowhere h, .nowhere h'⟩

theorem together_log {α : Type} (ha : Alike h h') (level : LogLevel) (message : String) (a : α) :
    Together [] h h' (h.log s level message, a) (h'.log s level message, a) := by
  have hscope : h'.inst.scope = h.inst.scope := by rw [ha.inst]
  have hmoved : MovedBy [⟨level, s.now, h.inst.scope, message⟩] [] [] h' (h'.log s level message) :=
    hscope ▸ .log s h' level message
  refine ⟨rfl, ?_, _, [], .log s h level message, hmoved⟩
  dsimp only [log]
  rw [ha.inst]

theorem together_consult {α : Type} (ha : Alike h h') (v : Visit)
    (ask : LanguageTools → Except ConnectorError α) :
    Together [] h h' (h.consult s v ask) (h'.consult s v ask) := by
  unfold consult
  split
  · exact together_same ha _
  · exact ⟨rfl, ha.inst, [], [v], .visit h v, .visit h' v⟩

theorem together_consultFor {α : Type} (ha : Alike h h') (v : Visit)
    (ask : LanguageTools → Except ConnectorError α) (write : α → Json) :
    Together [] h h' (h.consultFor s v ask write) (h'.consultFor s v ask write) := by
  have ht := together_consult (s := s) ha v ask
  exact ⟨congrArg (·.map write) ht.result, ht.inst, ht.moved⟩

theorem together_assertSimilar (ha : Alike h h') (expect actual : String) (threshold : Binary64) :
    Together [] h h' (h.assertSimilar s expect actual threshold)
      (h'.assertSimilar s expect actual threshold) := by
  have ht := together_consult (s := s) ha (.similarity expect actual) (·.similarity expect actual)
  unfold assertSimilar
  revert ht
  -- the language tools give the same to both, be it a score or an error
  rcases h.consult s (.similarity expect actual) (·.similarity expect actual) with ⟨h₁, r⟩
  rcases h'.consult s (.similarity expect actual) (·.similarity expect actual) with ⟨h₁', r'⟩
  intro ht
  obtain rfl : r' = r := ht.result
  cases r' with
  | error e => exact ⟨rfl, ht.inst, ht.moved⟩
  | ok score =>
    obtain ⟨lines, visits, hm, hm'⟩ := ht.moved
    have hinst : h₁'.inst = { h₁.inst with number := h₁'.inst.number, logs := h₁'.inst.logs } :=
      ht.inst
    refine ⟨rfl, ?_, lines, visits, ⟨hm.number, hm.logs, hm.store, hm.visits⟩,
      ⟨hm'.number, hm'.logs, hm'.store, hm'.visits⟩⟩
    dsimp only [withTests]
    rw [hinst]

theorem together_answerNow (ha : Alike h h') {c : Call} (hc : c.reads? = none) :
    Together c.storeSteps h h' (h.answerNow s c) (h'.answerNow s c) := by
  cases c with
  | getShared key => cases hc
  | log level message => exact together_log ha level message _
  | assertNlp expect actual threshold => exact together_assertSimilar ha expect actual threshold
  | nlpKeywords text k => exact together_consultFor ha _ _ _
  | nlpTags text => exact together_consultFor ha _ _ _
  | nlpTagFilter text tags => exact together_consultFor ha _ _ _
  | nlpSimilarity a b => exact together_consultFor ha _ _ _
  | equal a b => exact together_same ha _
  | sleep ms => exact together_same ha _
  | httpFetch r => exact together_same ha _
  | waitShared key => exact together_same ha _
  | getEnv key =>
    have henv : h'.inst.env = h.inst.env := by rw [ha.inst]
    simp only [answerNow, henv]
    split
    · exact together_same ha _
    · exact together_log ha _ _ _
  | _ =>
    -- the others change the instance and the store by what their arguments say
    obtain ⟨i, w⟩ := h
    obtain ⟨i', w'⟩ := h'
    obtain ⟨n, logs, rfl⟩ : ∃ n logs, i' = { i with number := n, logs } := ⟨_, _, ha.inst⟩
    first
      | exact ⟨rfl, rfl, [], [], ⟨rfl, (List.append_nil _).symm, rfl, (List.append_nil _).symm⟩,
          ⟨rfl, (List.append_nil _).symm, rfl, (List.append_nil _).symm⟩⟩
      | exact ⟨rfl, rfl, [_], [], ⟨rfl, rfl, rfl, (List.append_nil _).symm⟩,
          ⟨rfl, rfl, rfl, (List.append_nil _).symm⟩⟩

/-- The network gives both the same replies. -/
def SameReplies (s : Settings) (h h' : Host) : Prop :=
  ∀ r, s.collaborators.network h'.world.visits h'.inst.number r =
    s.collaborators.network h.world.visits h.inst.number r

theorem Alike.sameReplies (ha : Alike h h') (halone : s.collaborators.AnswersEachAlone) :
    SameReplies s h h' := by
  obtain ⟨f, hf⟩ := halone
  intro r
  rw [hf, hf, ha.visits]

theorem together_fetch (hreplies : SameReplies s h h') (ha : Alike h h') (r : Request) :
    Together [] h h' (h.fetch s r) (h'.fetch s r) := by
  unfold fetch
  rw [hreplies]
  dsimp only
  split <;> exact ⟨rfl, ha.inst, [], [.http r], .visit h _, .visit h' _⟩

theorem together_invoke (hreplies : SameReplies s h h') (ha : Alike h h') {c : Call}
    (hc : c.reads? = none) : Together c.storeSteps h h' (h.invoke s c) (h'.invoke s c) := by
  cases c with
  | sleep ms =>
    rw [invoke, invoke]
    split <;> exact together_same ha _
  | httpFetch r => exact together_fetch hreplies ha r
  | waitShared key => cases hc
  | _ =>
    have ht := together_answerNow (s := s) ha hc
    exact ⟨congrArg Progress.answered ht.result, ht.inst, ht.moved⟩

variable {cancelled : Bool} {name argsText : String}

/-- The steps of the store that a call makes when it reads no shared value. -/
def callSteps (name argsText : String) : List Store.Step :=
  match readCall name argsText with
  | .ok c => c.storeSteps
  | .error _ => []

/-- The key of the shared value that a text calls for. -/
def callReads? (name argsText : String) : Option String :=
  match readCall name argsText with
  | .ok c => c.reads?
  | .error _ => none

theorem callReads_eq {c : Call} (hread : readCall name argsText = .ok c) :
    callReads? name argsText = c.reads? := by
  rw [callReads?, hread]

theorem of_callReads {key : String} (h : callReads? name argsText = some key) :
    readCall name argsText = .ok (.getShared key) ∨ readCall name argsText =
      .ok (.waitShared key) := by
  cases hread : readCall name argsText with
  | error e =>
    rw [callReads?, hread] at h
    cases h
  | ok c =>
    rw [callReads_eq hread] at h
    cases c with
    | getShared key' => exact .inl (by rw [Option.some.inj h])
    | waitShared key' => exact .inr (by rw [Option.some.inj h])
    | _ => cases h

/-- A call that reads no shared value does the same wherever it is made. -/
theorem call_together (hreplies : SameReplies s h h') (ha : Alike h h')
    (hreads : callReads? name argsText = none) :
    Together (callSteps name argsText) h h' (h.call s cancelled name argsText)
      (h'.call s cancelled name argsText) := by
  cases hread : readCall name argsText with
  | error e =>
    rw [call_unread hread, call_unread hread, callSteps, hread]
    exact together_same ha _
  | ok c =>
    rw [callReads_eq hread] at hreads
    rw [callSteps, hread, call, call, hread]
    dsimp only
    split
    · rename_i hrefused
      have hsteps : c.storeSteps = [] := by
        cases c with
        | setShared key value => cases hrefused
        | _ => rfl
      rw [hsteps]
      exact together_same ha _
    · exact together_invoke hreplies ha hreads

end Host

end ScriptBench
