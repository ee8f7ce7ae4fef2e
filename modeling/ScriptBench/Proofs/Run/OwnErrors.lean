import ScriptBench.Proofs.Run.FirstFailure
import ScriptBench.Proofs.Script.Titles
import ScriptBench.Proofs.Script.Unset

/-!
How the report tells of an error that a script made itself.

1. The text of an error made by `new Error(message)`, which nothing in the script catches, reaches
   the host whole (`failureMessage_own`, `outcome_of_threw`).
2. What it is reported as is decided by the text alone: a message that mentions a full memory is
   taken for one (`result_own`).
3. The report gives any other message, in its status and in the last line of its log, whatever
   happens to the execution after the script has ended (`own_error_is_reported`).
-/
namespace ScriptBench

open Execution Machine Run Value

/-! ## Texts -/

theorem mentions_iff (part text : List Char) : mentions part text = true ↔ part <:+: text := by
  induction text with
  | nil => simp [mentions]
  | cons c rest ih =>
    rw [mentions, Bool.or_eq_true, List.isPrefixOf_iff_prefix, ih, List.infix_cons_iff]

/-- What makes a failure pass for that of a full memory. -/
def memoryText : List Char := "out of memory".toList

theorem mentions_named (message : String) :
    mentions memoryText ("Error: " ++ message).toList = mentions memoryText message.toList := by
  obtain ⟨rest, hrest⟩ : ∃ rest, memoryText = 'o' :: 'u' :: rest := ⟨_, by rfl⟩
  have hname : "Error: ".toList = ['E', 'r', 'r', 'o', 'r', ':', ' '] := by rfl
  rw [String.toList_append, hname, hrest]
  simp [mentions, List.isPrefixOf]

/-- An error of the script's own, as `new Error(message)` makes it. -/
def ownError (message : String) : Value := .error "Error" (.ofString message) []

/-- Why a chain stops at an error of a script's own. -/
def ownCause (memoryLimit : Nat) (message : String) : ScriptError :=
  if mentions memoryText message.toList then .memoryLimit memoryLimit
    else .script ("Error: " ++ message)

theorem result_own (memoryLimit : Nat) (message : String) :
    (Outcome.failed ("Error: " ++ message)).result memoryLimit false =
      .error (ownCause memoryLimit message) := by
  have hresult : (Outcome.failed ("Error: " ++ message)).result memoryLimit false =
      if mentions memoryText ("Error: " ++ message).toList then .error (.memoryLimit memoryLimit)
      else .error (.script ("Error: " ++ message)) := by rfl
  rw [hresult, mentions_named, ownCause]
  split <;> rfl

theorem cause_of_plain (memoryLimit : Nat) {message : String}
    (h : ¬ memoryText <:+: message.toList) :
    ownCause memoryLimit message = .script ("Error: " ++ message) ∧
      (ScriptError.script ("Error: " ++ message)).message =
        "JavaScript error: Error: " ++ message := by
  have hnot : ¬ mentions memoryText message.toList = true := fun hmentions =>
    h ((mentions_iff _ _).mp hmentions)
  have hname : "JavaScript error: " ++ "Error: " = "JavaScript error: Error: " := by decide
  refine ⟨by rw [ownCause, if_neg hnot], ?_⟩
  calc (ScriptError.script ("Error: " ++ message)).message
    _ = "JavaScript error: " ++ ("Error: " ++ message) := rfl
    _ = "JavaScript error: " ++ "Error: " ++ message := String.append_assoc.symm
    _ = "JavaScript error: Error: " ++ message := congrArg (fun name => name ++ message) hname

/-! ## Ends -/

/-- Where `Error` is what it was at the start, the text of an error of one's own is its message
behind its name. -/
theorem failureMessage_own {g : Globals} (h : lookup (.ofString "Error") g = none)
    (message : String) :
    failureMessage? g (ownError message) = some ("Error: " ++ message) := by
  have hflagged : lookup (.ofString "Error") g.flagged = none :=
    (lookup_setMember_of_ne (by decide) _ _).trans h
  have hget : g.flagged.get (.ofString "Error") = .ok (.function (.builtin (.error "Error"))) := by
    rw [Globals.get, Globals.get?, hflagged]
    rfl
  have htext : failureText g.flagged (ownError message) =
      .ok (.string (.ofString "Error" ++ .empty ++ .ofString ": " ++ .ofString message)) := by
    rw [failureText, Globals.isError, hget]
    rfl
  have hwhole : Text16.ofString "Error" ++ Text16.empty ++ Text16.ofString ": " ++
    Text16.ofString message =
      .ofString ("Error: " ++ message) := by
    rw [Text16.ofString_append]
    exact congrArg (· ++ Text16.ofString message) (by decide)
  rw [failureMessage?, htext, hwhole]
  exact Text16.toString?_ofString _

/-- A body has come to rest and its promise was rejected with an error of its own. -/
structure Machine.Threw (memoryLimit : Nat) (steps : List Step) (message : String) (m : Machine) :
    Prop where
  comes : (start memoryLimit steps).Comes m
  rests : m.turn = .halt
  promise : m.promises[0]? = some (.settled (.error (ownError message)))

/-- A body that throws an error of its own fails with the text of it, if it sets neither `Error` nor
a name that tells of its end. -/
theorem outcome_of_threw {memoryLimit : Nat} {steps : List Step} {message : String} {m : Machine}
    (hsparing : Step.AllSparing steps) (havoids : Step.AllAvoid (.ofString "Error") steps)
    (h : m.Threw memoryLimit steps message) (scope : String) :
    m.outcome scope = .failed ("Error: " ++ message) := by
  have hends := ends_of_rests scope hsparing h.comes h.rests
  generalize m.outcome scope = outcome at hends
  have hpromise := h.promise
  have hknown : ∀ {e : Value} {m' : Machine}, m.promises[0]? = some (.settled (.error e)) →
      (start memoryLimit steps).Comes m' → failureMessage? m'.globals e =
          some ("Error: " ++ message) := by
    intro e m' hthrown hcomes
    rw [hpromise] at hthrown
    cases hthrown
    exact failureMessage_own (unset_of_comes (by decide) (by decide) havoids hcomes) message
  cases hends with
  | returned hthrown => rw [hpromise] at hthrown; cases hthrown
  | threw hthrown hcomes htext =>
    rw [hknown hthrown hcomes] at htext
    cases htext
    rfl
  | unread hthrown hcomes htext =>
    rw [hknown hthrown hcomes] at htext
    cases htext
  | stalled hthrown => rw [hpromise] at hthrown; cases hthrown

/-! ## Reports -/

variable {s : Settings} {r : Run} {i : Nat} {e e' : Execution} {status : Status}

/-- When a chain is over, no move changes what its report says. -/
theorem over_becomes {new : List Mark} (h : e.Over s status) (hbecomes : Becomes s e new e') :
    e'.Over s status ∧ e'.inst = e.inst := by
  cases hbecomes with
  | same => exact ⟨h, rfl⟩
  | advanced clock w =>
    obtain ⟨phase, heq, hover⟩ := over_advance h clock w
    rw [heq]
    exact ⟨hover, rfl⟩
  | elapsed clock w =>
    have heq : (e.elapse s clock w).1 = e := by
      obtain h | h := h <;> simp only [elapse, h]
    exact ⟨heq.symm ▸ h, congrArg Execution.inst heq⟩
  | expired clock =>
    have heq : e.expire s clock = e := by
      obtain h | h := h <;> simp only [expire, limit?, h]
    exact ⟨heq.symm ▸ h, congrArg Execution.inst heq⟩
  | cancelled => exact ⟨h, rfl⟩

theorem over_follow (he : r.executions[i]? = some e) (h : e.Over s status) (moves : List Move) :
    ∃ e', (r.follow s moves).executions[i]? = some e' ∧ e'.Over s status ∧ e'.inst = e.inst := by
  have hkept : ∀ (e₁ : Execution) (ms new : List Mark) (e₂ : Execution),
      (e₁.Over s status ∧ e₁.inst = e.inst) → Becomes s e₁ new e₂ → e₂.Over s status ∧
          e₂.inst = e.inst := by
    rintro e₁ - new e₂ ⟨hover, hinst⟩ hbecomes
    obtain ⟨hover', hinst'⟩ := over_becomes hover hbecomes
    exact ⟨hover', hinst'.trans hinst⟩
  exact follow_becomes (P := fun e₁ _ => e₁.Over s status ∧ e₁.inst = e.inst)
    hkept he [] ⟨h, rfl⟩ moves

/-- The report of a body that threw an error of its own gives its message, in its status and in the
last line of its log, unless the message mentions a full memory. -/
theorem own_error_is_reported {scope : String} {steps : List Step} {fuel : Nat} {m : Machine}
    {message : String} (he : r.executions[i]? = some e) (hsparing : Step.AllSparing steps)
    (havoids : Step.AllAvoid (.ofString "Error") steps)
    (hthrew : m.Threw s.config.memoryLimit steps message)
    (hphase : e.phase = .running (m.program scope (fuel + 1))) (hcancelled : e.cancelled = false)
    (htime : e.timedOut = false) (later : List Move) :
    ∃ e' report, ((r.step s (.advance i)).follow s later).executions[i]? = some e' ∧
      (e'.report? = some report ∨ ∀ clock w, Host.isAnnouncing ⟨e'.inst, w⟩ report.status = false →
        (e'.advance s clock w).1.report? = some report) ∧
      Aborted s e.inst (ownCause s.config.memoryLimit message) report ∧
      (¬ memoryText <:+: message.toList →
        report.status = .error ("JavaScript error: Error: " ++ message) ∧
        report.logs = e.inst.logs ++
          [⟨.error, s.now, e.inst.scope, "JavaScript error: Error: " ++ message⟩]) := by
  -- The body's machine rests, so what is left of the program is its end.
  have hrest : m.program scope (fuel + 1) = .finish (.failed ("Error: " ++ message)) := by
    rw [program, hthrew.rests, outcome_of_threw hsparing havoids hthrew]
  have hresult : (Outcome.failed ("Error: " ++ message)).result s.config.memoryLimit e.cancelled =
      .error (ownCause s.config.memoryLimit message) := by
    rw [hcancelled]
    exact result_own _ message
  have hadvance : (e.advance s r.clock r.world).1 =
      { e with inst := e.inst.withFailure s (ownCause s.config.memoryLimit message)
               phase := .leaving
                   (.ofOutcome (.error (ownCause s.config.memoryLimit message))) } := by
    simp only [advance, hphase, hrest, hresult]
    exact finish_error htime _
  -- After this move nothing but the phase changes, so the report is that of the instance as it is
  -- now.
  have hnext : (r.step s (.advance i)).executions[i]? =
    some (e.advance s r.clock r.world).1 := act_self he
  rw [hadvance] at hnext
  obtain ⟨e', he', hover, hinst⟩ := over_follow hnext (.inl rfl) later
  have hreport := aborted_report s e.inst (ownCause s.config.memoryLimit message)
  refine ⟨e', _, he', ?_, hreport, fun hmentions => ?_⟩
  · have hmade := report_of_over hover
    have hsame : ∀ status, e'.inst.report s.now status =
        (e.inst.withFailure s (ownCause s.config.memoryLimit message)).report s.now status :=
          fun _ => by rw [hinst]
    rw [hsame] at hmade
    exact hmade
  · obtain ⟨hcause, htext⟩ := cause_of_plain s.config.memoryLimit hmentions
    refine ⟨?_, ?_⟩
    · show Status.ofOutcome (.error (ownCause s.config.memoryLimit message)) = _
      rw [hcause, ← htext]
      rfl
    · rw [hreport.line, hcause, htext]

/-- A body that throws an error with a message, and its machine at rest. -/
def throwing (message : String) : List Step := [.throw (.error (.text message) [])]

def Machine.thrown (memoryLimit : Nat) (message : String) : Machine :=
  ⟨memoryLimit, [],
    [(.ofString doneFlag, .bool true), (.ofString errorSlot, .text ("Error: " ++ message))],
    [.settled (.error (ownError message))], [], .idle⟩

theorem own_error_is_reported_boom :
    let chain := chainOf Config.default.memoryLimit [("only", .body (throwing "boom"))]
    let r := (Run.ofWorld default).follow default [.start default chain, .advance 0]
    ∃ e' report,
      ((r.step default (.advance 0)).follow default [.advance 0]).executions[0]? = some e' ∧
      (e'.report? = some report ∨ ∀ clock w, Host.isAnnouncing ⟨e'.inst, w⟩ report.status = false →
        (e'.advance default clock w).1.report? = some report) ∧
      report.status = .error "JavaScript error: Error: boom" ∧
      report.logs =
        [⟨.error, (default : Settings).now, "only", "JavaScript error: Error: boom"⟩] := by
  intro chain r
  have hrests : (thrown Config.default.memoryLimit "boom").Threw
      Config.default.memoryLimit (throwing "boom") "boom" := by
    refine ⟨?_, by rfl, by rfl⟩
    exact .next (.next (.next (.next (.next (.next .refl (by rfl)) (by rfl)) (by rfl)) (by rfl))
      (by rfl)) (by rfl)
  have hsparing : Step.AllSparing (throwing "boom") := ⟨trivial, trivial⟩
  have havoids : Step.AllAvoid (.ofString "Error") (throwing "boom") := ⟨trivial, trivial⟩
  have hplain : ¬ memoryText <:+: "boom".toList := fun h =>
    absurd ((mentions_iff _ _).mpr h) (by decide)
  obtain ⟨e, he, hphase, hcancelled, htime, hempty, hscope⟩ : ∃ e, r.executions[0]? = some e ∧
      e.phase = .running ((thrown Config.default.memoryLimit "boom").program "only" (0 + 1)) ∧
      e.cancelled = false ∧ e.timedOut = false ∧ e.inst.logs = [] ∧ e.inst.scope = "only" :=
    ⟨_, by rfl, by rfl, rfl, rfl, rfl, rfl⟩
  obtain ⟨e', report, he', hmade, -, htext⟩ :=
    own_error_is_reported (s := default) he hsparing havoids hrests hphase hcancelled
      htime [.advance 0]
  obtain ⟨hstatus, hlogs⟩ := htext hplain
  rw [hempty, hscope] at hlogs
  exact ⟨e', report, he', hmade, hstatus, hlogs⟩

/-- An error of the script's own is taken for a full memory if its message mentions one. -/
theorem own_error_taken_for_memory :
    let chain := chainOf Config.default.memoryLimit [("only", .body (throwing "out of memory"))]
    let moves := .start default chain :: List.replicate 4 (.advance 0)
    (((Run.ofWorld default).follow default moves).report? 0).map (·.status) =
      some (.error "Script exceeded memory limit (67108864 bytes)") := by
  rfl

end ScriptBench
