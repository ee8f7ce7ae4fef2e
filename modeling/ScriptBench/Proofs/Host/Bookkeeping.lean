import ScriptBench.Proofs.Host.Cancellation
import ScriptBench.Proofs.Host.Separation

/-!
What is done with an instance is in its log.

1. Each call that is answered leaves the line that its answer tells of, or none (`Call.line?`): one
   for what is printed, written, or asked for and missing, and for a shared value that is found. A
   variable that is found leaves none (`leaves_line?`, `found_variable_leaves_no_line`).
2. So does the end of a call that has waited (`notes_conclude`).
3. Hence the log of an instance is the replay of its history, each line with the scope that was
   entered last (`logged_act`), and what is done later only adds to it (`every_line_is_kept`).
-/
namespace ScriptBench

namespace Call

/-- The line that an answered call leaves in the log. `found` is what the shared values gave to a
call that reads one. -/
def line? : Call → Answer → Option Json → Option (LogLevel × String)
  | .log level message, .ok _, _ => some (level, message)
  | .setEnv key value, .ok _, _ => some (.info, "set env: `" ++ key ++ "` as `" ++ value ++ "`")
  | .getEnv key, .ok .null, _ => some (.warn, "get env `" ++ key ++ "` failed")
  | .addHeader name value, .ok _, _ =>
    some (.info, "add header: `" ++ name ++ "` as `" ++ value ++ "`")
  | .addParams name value, .ok _, _ =>
    some (.info, "add params: `" ++ name ++ "` as `" ++ value ++ "`")
  | .setShared key value, .ok _, _ =>
    some (.info, "set shared: `" ++ key ++ "` as `" ++ value.text ++ "`")
  | .getShared key, .ok _, some v => some (.info, Host.sharedFound key v)
  | .getShared key, .ok _, none => some (.warn, Host.sharedMissing key)
  | .waitShared key, .ok v, _ => some (.info, Host.sharedFound key v)
  | .waitShared key, .error (.timeout _), _ => some (.error, Host.sharedMissing key)
  | _, _, _ => none

/-- The calls that read and write variables, headers, parameters and shared values. -/
def keepsBooks : Call → Bool
  | .setEnv .. | .getEnv _ | .addHeader .. | .addParams ..
  | .setShared .. | .getShared _ | .waitShared _ => true
  | _ => false

/-- The calls of the console. -/
def prints : Call → Bool
  | .log .. => true
  | _ => false

variable {c : Call} {found : Option Json}

theorem line?_cancelled : c.line? (.error .cancelled) found = none := by
  cases c <;> rfl

/-- Of the calls that may wait only those for a shared value leave a line. -/
theorem line?_of_patient (hpatient : c.isPatient = true) (hreads : c.reads? = none) (a : Answer) :
    c.line? a found = none := by
  cases c with
  | sleep ms => cases a <;> rfl
  | httpFetch r => cases a <;> rfl
  | waitShared key => cases hreads
  | _ => cases hpatient

/-- Whether a call that is answered well has asked for something that is not there. -/
def misses : Call → Json → Option Json → Bool
  | .getEnv _, .null, _ => true
  | .getShared _, _, none => true
  | _, _, _ => false

/-- What a call that is answered well leaves in the log. -/
structure Leaves (c : Call) (v : Json) (found : Option Json) (line : Option (LogLevel × String)) :
    Prop where
  printed : ∀ level message, c = .log level message → line = some (level, message)
  kept : c.keepsBooks = true → (∀ key, c = .getEnv key → v = .null) →
    ∃ message, line = some (if c.misses v found then .warn else .info, message)
  /-- A variable that is found leaves no line, and neither does any other call. -/
  silent : (∃ key, c = .getEnv key ∧ v ≠ .null) ∨ c.prints = false ∧ c.keepsBooks =
    false → line = none

theorem leaves_line? (c : Call) (v : Json) (found : Option Json) :
    c.Leaves v found (c.line? (.ok v) found) := by
  refine ⟨?_, ?_, ?_⟩
  · rintro level message rfl
    rfl
  · intro hbooks hmissing
    cases c with
    | getEnv key =>
      obtain rfl := hmissing key rfl
      exact ⟨_, rfl⟩
    | getShared key => cases found <;> exact ⟨_, rfl⟩
    | setEnv key value => exact ⟨_, rfl⟩
    | addHeader name value => exact ⟨_, rfl⟩
    | addParams name value => exact ⟨_, rfl⟩
    | setShared key value => exact ⟨_, rfl⟩
    | waitShared key => exact ⟨_, rfl⟩
    | _ => cases hbooks
  · rintro (⟨key, rfl, hv⟩ | ⟨hprints, hbooks⟩)
    · cases v with
      | null => exact absurd rfl hv
      | _ => rfl
    · cases c with
      | log level message => cases hprints
      | _ => first | rfl | cases hbooks

end Call

namespace Host

variable {s : Settings} {cancelled : Bool} {h h' : Host} {name argsText : String}

/-- A line as it stands in the log. -/
def stamp (now : Time) (scope : String) (line : LogLevel × String) : LogEntry :=
  ⟨line.1, now, scope, line.2⟩

/-- The log of an instance has at most one new line, under the scope of the instance, which
stays. -/
structure Notes (s : Settings) (line : Option (LogLevel × String)) (i i' : Instance) : Prop where
  logs : i'.logs = i.logs ++ (line.map (stamp s.now i.scope)).toList
  scope : i'.scope = i.scope

theorem Notes.of_same {i i' : Instance} (h : i' = i) : Notes s none i i' := by
  subst h
  exact ⟨(List.append_nil _).symm, rfl⟩

theorem notes_log (s : Settings) (h : Host) (level : LogLevel) (message : String) :
    Notes s (some (level, message)) h.inst (h.log s level message).inst := ⟨rfl, rfl⟩

theorem notes_answerNow (s : Settings) (h : Host) (c : Call) {found : Option Json}
    (hfound : ∀ key, c = .getShared key → found = h.world.store.get? key)
    (hprompt : c.isPatient = false) :
    Notes s (c.line? (h.answerNow s c).2 found) h.inst (h.answerNow s c).1.inst := by
  have asks {α : Type} (v : Visit) (ask : LanguageTools → Except ConnectorError α)
      (write : α → Json) :
      Notes s none h.inst (h.consultFor s v ask write).1.inst :=
        .of_same (consultFor_inst v ask write)
  have stays (logs : List LogEntry) : logs = logs ++ [] := (List.append_nil logs).symm
  cases c with
  | getEnv key =>
    simp only [answerNow]
    split
    · exact ⟨stays _, rfl⟩
    · exact notes_log s h .warn _
  | getShared key =>
    rw [hfound key rfl, answerNow]
    cases h.world.store.get? key with
    | some v => exact notes_log s h .info _
    | none => exact notes_log s h .warn _
  | assertNlp expect actual threshold =>
    have hinst :=
      consult_inst (s := s) (h := h) (.similarity expect actual) (·.similarity expect actual)
    rw [answerNow, assertSimilar]
    rcases hask : h.consult s (.similarity expect actual) (·.similarity expect actual)
      with ⟨h₁, e | score⟩
    · rw [hask] at hinst
      exact .of_same hinst
    · rw [hask] at hinst
      dsimp only [withTests] at hinst ⊢
      rw [hinst]
      exact ⟨stays _, rfl⟩
  | nlpKeywords text k => exact asks _ _ _
  | nlpTags text => exact asks _ _ _
  | nlpTagFilter text tags => exact asks _ _ _
  | nlpSimilarity a b => exact asks _ _ _
  | sleep ms => cases hprompt
  | httpFetch r => cases hprompt
  | waitShared key => cases hprompt
  | log level message => exact notes_log s h level message
  | setEnv key value => exact ⟨rfl, rfl⟩
  | addHeader name value => exact ⟨rfl, rfl⟩
  | addParams name value => exact ⟨rfl, rfl⟩
  | setShared key value => exact ⟨rfl, rfl⟩
  | _ => exact ⟨stays _, rfl⟩

theorem notes_invoke {c : Call} {a : Answer} (hc : h.invoke s c = (h', .answered a))
    {found : Option Json} (hfound : ∀ key, c = .getShared key → found = h.world.store.get? key) :
    Notes s (c.line? a found) h.inst h'.inst := by
  cases hpatient : c.isPatient with
  | false =>
    rw [invoke_of_prompt hpatient] at hc
    cases hc
    exact notes_answerNow s h c hfound hpatient
  | true =>
    cases c with
    | sleep ms =>
      rw [invoke] at hc
      split at hc <;> cases hc
      exact .of_same rfl
    | httpFetch r =>
      have hinst := fetch_inst s h r
      rw [show h.fetch s r = _ from hc] at hinst
      have hline : (Call.httpFetch r).line? a found = none := by cases a <;> rfl
      rw [hline]
      exact .of_same hinst
    | waitShared key =>
      rw [invoke, waitShared] at hc
      split at hc <;> cases hc
      exact ⟨rfl, rfl⟩
    | _ => cases hpatient

end Host

namespace Happening

/-- The line that is left in the log. -/
def line? : Happening → Option (LogLevel × String)
  | .answered name argsText a _ found =>
    (Host.readCall name argsText).toOption.bind fun c => c.line? a found
  | .wrote level message => some (level, message)
  | _ => none

/-- The scope that is entered. -/
def enters? : Happening → Option String
  | .entered scope => some scope
  | _ => none

/-- The scope that was entered last, if any was. -/
def scopeAfter (scope : String) (past : List Happening) : String :=
  past.foldl (fun scope x => x.enters?.getD scope) scope

/-- The lines that are left, each under the scope that was entered last before it. -/
def logFrom (now : Time) : String → List Happening → List LogEntry
  | _, [] => []
  | scope, x :: rest =>
    (x.line?.map (Host.stamp now scope)).toList ++ logFrom now (x.enters?.getD scope) rest

theorem logFrom_append (now : Time) (scope : String) (xs ys : List Happening) :
    logFrom now scope (xs ++ ys) = logFrom now scope xs ++
      logFrom now (scopeAfter scope xs) ys := by
  induction xs generalizing scope with
  | nil => rfl
  | cons x rest ih =>
    rw [List.cons_append, logFrom, logFrom, ih, List.append_assoc]
    rfl

end Happening

open Happening (line? enters? scopeAfter logFrom)

namespace Host

variable {s : Settings} {cancelled : Bool} {h h' : Host} {name argsText : String}

theorem notes_answered {a : Answer} (hcall : h.call s cancelled name argsText = (h', .answered a)) :
    Notes s (line? (.answered name argsText a false (Caller.found h.world.store name argsText a)))
      h.inst h'.inst := by
  rw [line?]
  cases hread : readCall name argsText with
  | error e =>
    rw [call_unread hread] at hcall
    cases hcall
    exact .of_same rfl
  | ok c =>
    show Notes s (c.line? a _) h.inst h'.inst
    rw [call, hread] at hcall
    dsimp only at hcall
    split at hcall
    · cases hcall
      rw [Call.line?_cancelled]
      exact .of_same rfl
    · refine notes_invoke hcall fun key hkey => ?_
      subst hkey
      rw [Caller.found, hread]

/-- A call that waits for a shared value is one for that value, and any other that waits reads
none. -/
theorem sorted_of_suspended {on : Suspension}
    (hcall : h.call s cancelled name argsText = (h', .suspended on)) :
    PendingCall.Sorted ⟨name, argsText, on⟩ := by
  have hlone (hnot : ∀ key id, on ≠ .wait key id) : callReads? name argsText = none := by
    cases hreads : callReads? name argsText with
    | none => rfl
    | some key =>
      obtain hread | hread := of_callReads hreads
      · rw [call_getShared hread] at hcall
        cases hcall
      · rw [call_waitShared hread] at hcall
        split at hcall
        · cases hcall
        · split at hcall
          · cases hcall
          · cases hcall
            exact absurd rfl (hnot _ _)
  obtain ⟨ms, rfl, -⟩ | ⟨r, rfl, -⟩ | ⟨key, rfl, hread, -⟩ := call_suspended hcall
  · exact hlone (by simp)
  · exact hlone (by simp)
  · exact hread

variable {p : PendingCall} {call : Call}

theorem notes_conclude (hsorted : p.Sorted) (hread : readCall p.name p.argsText = .ok call)
    (hpatient : call.isPatient = true) (found : Option Json) :
    Notes s (line? (.answered p.name p.argsText (h.conclude s p.on).2 false found)) h.inst
      (h.conclude s p.on).1.inst := by
  obtain ⟨name, argsText, on⟩ := p
  rw [line?, hread]
  show Notes s (call.line? _ found) h.inst _
  cases on with
  | sleep ms =>
    rw [Call.line?_of_patient hpatient ((callReads_eq hread).symm.trans hsorted)]
    exact .of_same rfl
  | network =>
    rw [Call.line?_of_patient hpatient ((callReads_eq hread).symm.trans hsorted)]
    exact .of_same rfl
  | wait key id =>
    obtain rfl : call = .waitShared key := Except.ok.inj (hread.symm.trans hsorted)
    rw [conclude]
    split <;> exact ⟨rfl, rfl⟩

theorem notes_interrupt (hread : readCall p.name p.argsText = .ok call) (found : Option Json) :
    Notes s (line? (.answered p.name p.argsText (h.interrupt p.on).2 true found)) h.inst
      (h.interrupt p.on).1.inst := by
  have hanswer : (h.interrupt p.on).2 = .error .cancelled := by cases p.on <;> rfl
  rw [line?, hread, hanswer]
  show Notes s (call.line? _ found) h.inst _
  rw [Call.line?_cancelled]
  exact .of_same (interrupt_inst h p.on)

end Host

/-! ## The log of a caller -/

/-- A report has the log of what came before it, and whoever asks for a shared value is answered
what is found. -/
def Happening.Shows (now : Time) (past : List Happening) : Happening → Prop
  | .reported _ r => r.logs = logFrom now "" past
  | .answered name argsText a _ found =>
    ∀ key, Host.readCall name argsText = .ok (.getShared key) → a = .ok (found.getD .null)
  | _ => True

namespace Caller

variable {c c' : Caller} {w : World}

/-- The log of a caller is the replay of its history, and so it was in every report. -/
structure Logged (c : Caller) : Prop where
  logs : c.inst.logs = logFrom c.settings.now "" c.history
  scope : c.inst.scope = scopeAfter "" c.history
  shown : ∀ (n : Nat) x, c.history[n]? = some x → x.Shows c.settings.now (c.history.take n)
  sorted : ∀ p, c.pending = some p → p.Sorted

theorem logged_start (settings : Settings) (number : Nat) (setup : Setup) :
    (start settings number setup).Logged where
  logs := rfl
  scope := rfl
  shown := by simp [start]
  sorted := by simp [start]

theorem Logged.snoc (h : c.Logged) {x : Happening} (hsettings : c'.settings = c.settings)
    (hhistory : c'.history = c.history ++ [x])
    (hlogs : c'.inst.logs =
      c.inst.logs ++ ((line? x).map (Host.stamp c.settings.now c.inst.scope)).toList)
    (hscope : c'.inst.scope = (enters? x).getD c.inst.scope) (hx : x.Shows c.settings.now c.history)
    (hsorted : ∀ p, c'.pending = some p → p.Sorted) : c'.Logged where
  logs := by
    rw [hlogs, hsettings, hhistory, Happening.logFrom_append, ← h.logs, ← h.scope, logFrom, logFrom,
      List.append_nil]
  scope := by
    rw [hscope, hhistory, scopeAfter, List.foldl_append, h.scope]
    rfl
  shown := by
    rw [hsettings, hhistory]
    exact Happening.each_snoc (P := fun past y => y.Shows c.settings.now past) h.shown hx
  sorted := hsorted

theorem logged_call (h : c.Logged) (name argsText : String) :
    (c.call w name argsText).1.Logged := by
  have hnothing (xs : List LogEntry) : xs = xs ++ [] := (List.append_nil xs).symm
  unfold call
  split
  · exact h
  · rename_i hfree
    have hcalled : (c.note [.called name argsText]).Logged :=
      h.snoc (x := .called name argsText) rfl rfl (hnothing _) rfl trivial h.sorted
    rcases hcall : Host.call c.settings c.cancelled ⟨c.inst, w⟩ name argsText with ⟨h', a | on⟩
    · have hnotes := Host.notes_answered hcall
      refine hcalled.snoc (x := .answered name argsText a false (found w.store name argsText a)) rfl
        (by simp [note]) hnotes.logs hnotes.scope (fun key hread => ?_) h.sorted
      have hfound : found w.store name argsText a = w.store.get? key := by rw [found, hread]
      rw [Host.call_getShared hread] at hcall
      rw [hfound, ← Progress.answered.inj (congrArg Prod.snd hcall)]
      dsimp only
      cases w.store.get? key <;> rfl
    · obtain ⟨hinst, -⟩ := Host.waits_suspended hcall
      refine h.snoc (x := .called name argsText) rfl rfl ?_ ?_ trivial fun p hp => ?_
      · exact (congrArg Instance.logs hinst).trans (hnothing _)
      · exact congrArg Instance.scope hinst
      · obtain rfl := Option.some.inj hp
        exact Host.sorted_of_suspended hcall

theorem logged_finish (h : c.Logged) {p : PendingCall} {call : Call}
    (hread : Host.readCall p.name p.argsText = .ok call)
    (hpatient : call.isPatient = true) (cut : Bool)
    {host : Host} {a : Answer}
    (hnotes : ∀ found, Host.Notes c.settings (line? (.answered p.name p.argsText a cut found))
      c.inst host.inst) :
    (c.finish p cut (host, a)).1.Logged := by
  have hnote := hnotes (found host.world.store p.name p.argsText a)
  refine h.snoc rfl rfl hnote.logs hnote.scope (fun key hget => ?_) (by simp [finish, note])
  -- a call that asks for a shared value without waiting for it is not one that waits
  rw [hread] at hget
  cases hget
  cases hpatient

theorem logged_act (hk : c.Kept) (h : c.Logged) (a : Act) : (c.act w a).1.Logged := by
  have hnothing (xs : List LogEntry) : xs = xs ++ [] := (List.append_nil xs).symm
  cases a with
  | call name argsText => exact logged_call h name argsText
  | goOn =>
    rw [act]
    obtain heq | ⟨p, hp, heq⟩ := c.goOn_cases w
    · rw [heq]
      exact h
    · obtain ⟨call, hread, hsuspending⟩ := hk.pending p hp
      have hpatient : call.isPatient = true := call.isSuspending_operation ▸ hsuspending
      rw [heq]
      exact logged_finish h hread hpatient false
        (Host.notes_conclude (h.sorted p hp) hread hpatient)
  | cutOff =>
    rw [act]
    obtain heq | ⟨p, hp, heq⟩ := c.cutOff_cases w
    · rw [heq]
      exact h
    · obtain ⟨call, hread, hsuspending⟩ := hk.pending p hp
      have hpatient : call.isPatient = true := call.isSuspending_operation ▸ hsuspending
      rw [heq]
      exact logged_finish h hread hpatient true (Host.notes_interrupt hread)
  | enterScope scope => exact h.snoc (x := .entered scope) rfl rfl (hnothing _) rfl trivial h.sorted
  | cancel => exact h.snoc (x := .cancelled) rfl rfl (hnothing _) rfl trivial h.sorted
  | log level message => exact h.snoc (x := .wrote level message) rfl rfl rfl rfl trivial h.sorted
  | report status => exact h.snoc (x := .reported status _) rfl rfl (hnothing _) rfl h.logs h.sorted

theorem logFrom_calls (now : Time) (scope : String) (calls : List (String × String))
    (x? : Option Happening) :
    logFrom now scope (calls.map (fun d => .called d.1 d.2) ++ x?.toList) =
      ((x?.bind line?).map (Host.stamp now scope)).toList := by
  induction calls with
  | nil =>
    cases x? with
    | none => rfl
    | some x => exact List.append_nil _
  | cons d rest ih => exact ih

/-- An act leaves at most one line, under the scope that was entered last. -/
theorem logs_act (hk : c.Kept) (h : c.Logged) (w : World) (a : Act) :
    ∃ line : Option (LogLevel × String),
      ((c.act w a).1.history.drop c.history.length).filterMap line? = line.toList ∧
        (c.act w a).1.inst.logs = c.inst.logs ++
          (line.map (Host.stamp c.settings.now (scopeAfter "" c.history))).toList := by
  obtain ⟨calls, x?, hhistory⟩ := c.noted_act w a
  refine ⟨x?.bind line?, ?_, ?_⟩
  · rw [hhistory, List.drop_left, filterMap_noted fun _ _ => rfl]
  · rw [(logged_act (w := w) hk h a).logs, (c.setup_act w a).1, hhistory, Happening.logFrom_append,
      logFrom_calls, ← h.logs]

end Caller

/-- However many callers there are and whatever they do: at every moment and in every report, the
log of an instance is what its history tells, in that order, each line under the scope that was
entered last before it. What is done next adds at most one line at its end. Each call that is
answered well leaves its line if it prints, and if it reads or writes variables, headers, parameters
or shared values: as a warning if it asks for something that is not there, and else as an
information. Only a variable that is found leaves no line, and neither does any other call. -/
theorem every_line_is_kept (shared : List Store.Step) (channel : Option (Channel Event))
    (moves : List Party.Move) (i : Nat) (c : Caller)
    (hc : ((Party.start shared channel).run moves).callers[i]? = some c) :
    (moves.filterMap Party.Move.joins?)[i]? = some (c.settings, c.setup) ∧
      c.inst.logs = logFrom c.settings.now "" c.history ∧
      (∀ (n : Nat) status r, c.history[n]? = some (.reported status r) →
        r.logs = logFrom c.settings.now "" (c.history.take n)) ∧
      (∀ w a, ∃ line : Option (LogLevel × String),
        ((c.act w a).1.history.drop c.history.length).filterMap line? = line.toList ∧
          (c.act w a).1.inst.logs = c.inst.logs ++
            (line.map (Host.stamp c.settings.now (scopeAfter "" c.history))).toList) ∧
      ∀ name argsText v cut found call, .answered name argsText (.ok v) cut found ∈ c.history →
        Host.readCall name argsText = .ok call →
          call.Leaves v found (line? (.answered name argsText (.ok v) cut found)) ∧
            ∀ key, call = .getShared key → v = found.getD .null := by
  obtain ⟨hk, hl⟩ : c.Kept ∧ c.Logged :=
    Party.every_run (P := fun c => c.Kept ∧ c.Logged)
      (fun settings number setup => ⟨Caller.kept_start settings number setup,
        Caller.logged_start settings number setup⟩)
      (fun _ _ a h => ⟨Caller.kept_act h.1 a, Caller.logged_act h.1 h.2 a⟩)
      (p := .start shared channel) (by simp [Party.start]) moves c (List.mem_of_getElem? hc)
  refine ⟨Party.joined_of_run hc, hl.logs, fun n status r hr => hl.shown n _ hr,
    fun w a => Caller.logs_act hk hl w a, ?_⟩
  intro name argsText v cut found call hmem hread
  refine ⟨?_, ?_⟩
  · rw [line?, hread]
    exact Call.leaves_line? call v found
  · rintro key rfl
    obtain ⟨n, hn⟩ := List.getElem?_of_mem hmem
    exact Except.ok.inj (hl.shown n _ hn key hread)

/-- Two variables that are asked for, one of which is there, and one that is written: only the one
that is there leaves no line. -/
theorem every_line_is_kept_two_scopes :
    let moves : List Party.Move :=
      [.join default ⟨"case", .null, [("b", "1")], none⟩, .act 0 (.call "get_env" "[\"a\"]"),
        .act 0 (.enterScope "request"), .act 0 (.call "get_env" "[\"b\"]"),
        .act 0 (.call "set_env" "[\"a\",\"2\"]")]
    ∃ c, ((Party.start [] none).run moves).callers[0]? = some c ∧
      c.inst.logs.map (fun e => (e.level, e.scope, e.message)) =
        [(.warn, "", "get env `a` failed"), (.info, "request", "set env: `a` as `2`")] ∧
      c.inst.logs = logFrom c.settings.now "" c.history := by
  intro moves
  exact ⟨_, rfl, by decide +kernel, (every_line_is_kept [] none moves 0 _ rfl).2.1⟩

/-- A variable that is read and found leaves no line, so not every call that keeps books leaves
one. -/
theorem found_variable_leaves_no_line :
    ¬ ∀ (moves : List Party.Move) (i : Nat) (c : Caller),
      ((Party.start [] none).run moves).callers[i]? = some c →
      ∀ w name argsText call v, Host.readCall name argsText = .ok call → call.keepsBooks = true →
        (c.call w name argsText).1.history =
            c.history ++ [.called name argsText, .answered name argsText (.ok v) false none] →
          ∃ line, (c.call w name argsText).1.inst.logs = c.inst.logs ++ [line] := by
  intro h
  obtain ⟨line, hline⟩ :=
    h [.join default ⟨"case", .null, [("a", "1")], none⟩] 0 _ rfl World.empty "get_env"
      "[\"a\"]" (.getEnv "a") (.str "1") rfl rfl rfl
  have hnone : ([] : List LogEntry) = [] ++ [line] := hline
  cases hnone

end ScriptBench
