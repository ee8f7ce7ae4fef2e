import ScriptBench.Proofs.Host.Replay

/-!
An instance only ever records more.

1. Whatever a call does to its instance is a number of further records: variables, headers,
   parameters, steps of the tests, and lines of the log (`grown_answered`).
2. So is what the end of a call that has waited does (`grown_conclude`, `interrupt_inst`).
-/
namespace ScriptBench

namespace Instance

/-- One thing that an instance records. -/
inductive Record where
  | env (key value : String)
  | header (p : NamedValue)
  | param (p : NamedValue)
  | test (step : Aggregator.Step)
  | line (entry : LogEntry)

def record (i : Instance) : Record → Instance
  | .env key value => i.setEnv key value
  | .header p => { i with headers := i.headers ++ [p] }
  | .param p => { i with params := i.params ++ [p] }
  | .test step => { i with tests := i.tests.step step }
  | .line entry => { i with logs := i.logs ++ [entry] }

/-- An instance before and after it has recorded more. -/
def Grown (i i' : Instance) : Prop := ∃ records : List Record, i' = records.foldl record i

/-- The same, maybe in another scope. -/
def Outgrown (i i' : Instance) : Prop := ∃ scope, Grown { i with scope } i'

theorem grown_records (i : Instance) (records : List Record) : i.Grown (records.foldl record i) :=
  ⟨records, rfl⟩

theorem Grown.refl (i : Instance) : i.Grown i := ⟨[], rfl⟩

theorem Grown.of_eq {i i' : Instance} (h : i' = i) : i.Grown i' := h ▸ .refl i

theorem foldl_record_scope (records : List Record) (i : Instance) (scope : String) :
    records.foldl record { i with scope } = { records.foldl record i with scope } := by
  induction records generalizing i with
  | nil => rfl
  | cons r rest ih =>
    rw [List.foldl_cons, List.foldl_cons, ← ih]
    cases r <;> rfl

theorem Grown.scope {i i' : Instance} (h : i.Grown i') : i'.scope = i.scope := by
  obtain ⟨records, rfl⟩ := h
  have hsame := congrArg Instance.scope (foldl_record_scope records i i.scope)
  exact hsame

theorem Grown.outgrown {i i' : Instance} (h : i.Grown i') : i.Outgrown i' := ⟨i.scope, h⟩

theorem Outgrown.refl (i : Instance) : i.Outgrown i := (Grown.refl i).outgrown

theorem outgrown_scope (i : Instance) (scope : String) : i.Outgrown { i with scope } :=
  ⟨scope, .refl _⟩

theorem Outgrown.trans {i i' i'' : Instance} (h : i.Outgrown i') (h' : i'.Outgrown i'') :
    i.Outgrown i'' := by
  obtain ⟨scope, records, rfl⟩ := h
  obtain ⟨scope', more, rfl⟩ := h'
  refine ⟨scope', records ++ more, ?_⟩
  rw [List.foldl_append, ← foldl_record_scope]

end Instance

namespace Host

open Instance (Grown grown_records)

variable {s : Settings} {cancelled : Bool} {h h' : Host} {name argsText : String}

theorem grown_log (h : Host) (level : LogLevel) (message : String) :
    h.inst.Grown (h.log s level message).inst :=
  grown_records h.inst [.line ⟨level, s.now, h.inst.scope, message⟩]

theorem grown_assertSimilar (expect actual : String) (threshold : Binary64) :
    h.inst.Grown (h.assertSimilar s expect actual threshold).1.inst := by
  have hinst :=
    consult_inst (s := s) (h := h) (.similarity expect actual) (·.similarity expect actual)
  rcases hask : h.consult s (.similarity expect actual) (·.similarity expect actual) with ⟨h₁, r⟩
  rw [hask] at hinst
  rw [assertSimilar, hask]
  cases r with
  | error e => exact .of_eq hinst
  | ok score =>
    let passed := threshold.lt score
    have hgrown := grown_records h₁.inst
      [.test (.append passed (similarMessage passed expect actual score threshold))]
    rw [show h₁.inst = h.inst from hinst] at hgrown
    dsimp only [withTests]
    rw [show h₁.inst = h.inst from hinst]
    exact hgrown

theorem grown_answerNow (s : Settings) (h : Host) (c : Call) :
    h.inst.Grown (h.answerNow s c).1.inst := by
  cases c with
  | log level message => exact grown_log h level message
  | setEnv key value =>
    exact grown_records h.inst
      [.env key value,
        .line ⟨.info, s.now, h.inst.scope, "set env: `" ++ key ++ "` as `" ++ value ++ "`"⟩]
  | getEnv key =>
    simp only [answerNow]
    split
    · exact .refl _
    · exact grown_log h _ _
  | addHeader name value =>
    exact grown_records h.inst
      [.header ⟨name, value⟩,
        .line ⟨.info, s.now, h.inst.scope, "add header: `" ++ name ++ "` as `" ++ value ++ "`"⟩]
  | addParams name value =>
    exact grown_records h.inst
      [.param ⟨name, value⟩,
        .line ⟨.info, s.now, h.inst.scope, "add params: `" ++ name ++ "` as `" ++ value ++ "`"⟩]
  | setShared key value => exact grown_log (h.withStore _) _ _
  | getShared key =>
    simp only [answerNow]
    split <;> exact grown_log h _ _
  | openTest name => exact grown_records h.inst [.test (.openBlock s.now name)]
  | closeTest name => exact grown_records h.inst [.test (.closeBlock s.now name)]
  | appendAssert passed message => exact grown_records h.inst [.test (.append passed message)]
  | testSkip => exact grown_records h.inst [.test .skip]
  | assert expect actual =>
    exact grown_records h.inst
      [.test (.append (expect.same actual) (equalMessage (expect.same actual) expect actual))]
  | assertNlp expect actual threshold => exact grown_assertSimilar expect actual threshold
  | nlpKeywords text k => exact .of_eq (consultFor_inst _ _ _)
  | nlpTags text => exact .of_eq (consultFor_inst _ _ _)
  | nlpTagFilter text tags => exact .of_eq (consultFor_inst _ _ _)
  | nlpSimilarity a b => exact .of_eq (consultFor_inst _ _ _)
  | _ => exact .refl _

/-- A call that is answered at once records more, or nothing. -/
theorem grown_answered {a : Answer} (hcall : h.call s cancelled name argsText = (h', .answered a)) :
    h.inst.Grown h'.inst := by
  unfold call at hcall
  split at hcall
  · cases hcall
    exact .refl _
  · rename_i c _
    split at hcall
    · cases hcall
      exact .refl _
    · obtain ⟨ms, rfl, heq⟩ | ⟨r, rfl, heq⟩ | ⟨key, rfl, heq⟩ | heq := invoke_cases s h c
      · rw [heq] at hcall
        split at hcall <;> cases hcall
        exact .refl _
      · have hinst : h'.inst = h.inst := by
          rw [← fetch_inst s h r, ← heq, hcall]
        exact .of_eq hinst
      · rw [heq, waitShared] at hcall
        split at hcall <;> cases hcall
        exact grown_log (h.withStore _) _ _
      · rw [heq] at hcall
        obtain ⟨rfl, -⟩ := Prod.mk.inj hcall
        exact grown_answerNow s h c

theorem grown_conclude (s : Settings) (h : Host) (on : Suspension) :
    h.inst.Grown (h.conclude s on).1.inst := by
  cases on with
  | sleep ms => exact .refl _
  | network => exact .refl _
  | wait key id =>
    rw [conclude]
    split <;> exact grown_log (h.withStore _) _ _

end Host

end ScriptBench
