import ScriptBench.Proofs.Script.Endings

/-!
Names that a script does not set.

What a script puts under a global name it puts there by a statement, and every statement that runs
stands in its body: in what is left of it, in a handler, in the body of a test, or in the frames
that wait for a promise.

1. No operation on promises brings a statement in (`avoids_settle` to `avoids_await`).
2. So a machine whose statements all avoid a name, and in which the name is not set, turns into such
   a machine again (`turn_avoids`), and a body that avoids a name comes to no machine in which it is
   set (`unset_of_comes`). The two names of the end are set by none of its statements.
-/
namespace ScriptBench

open Machine Value

namespace Step

mutual

/-- The statement does not set the name, nor does one inside of it. -/
def Avoids (name : Text16) : Step → Prop
  | .setGlobal key _ => keyOf key ≠ .ok name
  | .test _ _ _ body _ _ => AllAvoid name body
  | .attempt body handler => AllAvoid name body ∧ AllAvoid name handler
  | _ => True

def AllAvoid (name : Text16) : List Step → Prop
  | [] => True
  | s :: rest => Avoids name s ∧ AllAvoid name rest

end

end Step

def Frame.Avoids (name : Text16) : Frame → Prop
  | .body steps | .guard steps | .opened _ _ steps => Step.AllAvoid name steps
  | _ => True

/-- None of the frames holds a statement that sets the name. -/
def FramesAvoid (name : Text16) (frames : List Frame) : Prop := ∀ f ∈ frames, f.Avoids name

def Handler.Avoids (name : Text16) : Handler → Prop
  | .resume frames => FramesAvoid name frames
  | _ => True

def Control.Avoids (name : Text16) : Control → Prop
  | .deliver _ frames | .raise _ frames | .asked frames => FramesAvoid name frames
  | .idle => True

namespace Machine

/-- The name is not set, and nothing that waits for a promise sets it. -/
structure Avoids (name : Text16) (m : Machine) : Prop where
  unset : lookup name m.globals = none
  handlers : ∀ hs, .pending hs ∈ m.promises → ∀ h ∈ hs, h.Avoids name
  jobs : ∀ h outcome, .react h outcome ∈ m.jobs → h.Avoids name

variable {name : Text16} {m : Machine} {frames : List Frame}

theorem framesAvoid_nil : FramesAvoid name [] := List.forall_mem_nil _

theorem framesAvoid_cons {f : Frame} (hf : f.Avoids name) (h : FramesAvoid name frames) :
    FramesAvoid name (f :: frames) := List.forall_mem_cons.mpr ⟨hf, h⟩

/-! ## Promises -/

theorem avoids_adopt (h : m.Avoids name) (p : Nat) (v : Value) :
    (m.enqueue [.adopt p v]).Avoids name where
  unset := h.unset
  handlers := h.handlers
  jobs handler outcome hjob := by
    rcases List.mem_append.mp hjob with hjob | hjob
    · exact h.jobs handler outcome hjob
    · cases List.mem_singleton.mp hjob

theorem avoids_newPromise (h : m.Avoids name) {state : PromiseState}
    (hstate : ∀ hd hs, state ≠ .pending (hd :: hs)) : (m.newPromise state).1.Avoids name where
  unset := h.unset
  handlers hs hp handler hh := by
    rcases List.mem_append.mp hp with hp | hp
    · exact h.handlers hs hp handler hh
    · obtain rfl := List.mem_singleton.mp hp
      cases hs with
      | nil => cases hh
      | cons hd tl => exact absurd rfl (hstate hd tl)
  jobs := h.jobs

theorem avoids_pending (h : m.Avoids name) : (m.newPromise (.pending [])).1.Avoids name :=
  avoids_newPromise h fun _ _ => by simp

theorem avoids_settle (h : m.Avoids name) (p : Nat) (outcome : Except Value Value) :
    (m.settle p outcome).Avoids name := by
  unfold settle
  split
  · rename_i handlers hp
    refine ⟨h.unset, fun hs hmem handler hh => ?_, fun handler o hjob => ?_⟩
    · rcases List.mem_or_eq_of_mem_set hmem with hmem | heq
      · exact h.handlers hs hmem handler hh
      · cases heq
    · rcases List.mem_append.mp hjob with hjob | hjob
      · exact h.jobs handler o hjob
      · obtain ⟨waiting, hwaiting, heq⟩ := List.mem_map.mp hjob
        cases heq
        exact h.handlers handlers (List.mem_of_getElem? hp) handler hwaiting
  · exact h

theorem avoids_resolve (h : m.Avoids name) (p : Nat) (v : Value) : (m.resolve p v).Avoids name := by
  unfold resolve
  split
  · exact avoids_adopt h p v
  · exact avoids_settle h p _

theorem avoids_complete (h : m.Avoids name) (p : Nat) (outcome : Except Value Value) :
    (m.complete p outcome).Avoids name := by
  cases outcome with
  | ok v => exact avoids_resolve h p v
  | error e => exact avoids_settle h p _

theorem avoids_whenSettled (h : m.Avoids name) (p : Nat) {handler : Handler}
    (hhandler : handler.Avoids name) :
    (m.whenSettled p handler).Avoids name := by
  unfold whenSettled
  split
  · rename_i handlers hp
    refine ⟨h.unset, fun hs hmem other hh => ?_, h.jobs⟩
    rcases List.mem_or_eq_of_mem_set hmem with hmem | heq
    · exact h.handlers hs hmem other hh
    · cases heq
      rcases List.mem_append.mp hh with hh | hh
      · exact h.handlers handlers (List.mem_of_getElem? hp) other hh
      · exact List.mem_singleton.mp hh ▸ hhandler
  · refine ⟨h.unset, h.handlers, fun other o hjob => ?_⟩
    rcases List.mem_append.mp hjob with hjob | hjob
    · exact h.jobs other o hjob
    · cases List.mem_singleton.mp hjob
      exact hhandler
  · exact h

theorem avoids_promiseOf (h : m.Avoids name) (v : Value) : (m.promiseOf v).1.Avoids name := by
  have hnew : ((m.newPromise (.pending [])).1.resolve m.promises.length v).Avoids name :=
    avoids_resolve (avoids_pending h) _ v
  cases v with
  | promise p => exact h
  | _ => exact hnew

theorem avoids_assign (h : m.Avoids name) (target : String) (v : Value) :
    (m.assign target v).Avoids name :=
  ⟨h.unset, h.handlers, h.jobs⟩

theorem framesAvoid_splitAsync (h : FramesAvoid name frames) :
    FramesAvoid name (splitAsync frames).1 ∧ FramesAvoid name (splitAsync frames).2 := by
  induction frames with
  | nil => exact ⟨h, h⟩
  | cons f frames ih =>
    obtain ⟨hf, hframes⟩ := List.forall_mem_cons.mp h
    obtain ⟨hinner, houter⟩ := ih hframes
    cases f with
    | settle p => exact ⟨framesAvoid_cons hf framesAvoid_nil, hframes⟩
    | _ => exact ⟨framesAvoid_cons hf hinner, houter⟩

theorem framesAvoid_unwind (h : FramesAvoid name frames) : FramesAvoid name (unwind frames) := by
  induction frames with
  | nil => exact h
  | cons f frames ih =>
    obtain ⟨-, hframes⟩ := List.forall_mem_cons.mp h
    cases f with
    | body _ => exact ih hframes
    | guard _ => exact ih hframes
    | _ => exact h

/-! ## Turns -/

end Machine

/-- The machine that goes on avoids the name, and so do its frames. -/
def Turn.Avoids (name : Text16) : Turn → Prop
  | .next m | .spin m | .ask _ m => m.Avoids name ∧ m.control.Avoids name
  | .halt => True

namespace Machine

variable {name : Text16} {m : Machine} {frames : List Frame}

theorem avoids_go (h : m.Avoids name) {control : Control} (hcontrol : control.Avoids name) :
    (Turn.next { m with control := control }).Avoids name :=
  ⟨⟨h.unset, h.handlers, h.jobs⟩, hcontrol⟩

theorem avoids_deliver (h : m.Avoids name) (hframes : FramesAvoid name frames) (v : Value) :
    (Turn.next (m.deliver v frames)).Avoids name := avoids_go h hframes

theorem avoids_raise (h : m.Avoids name) (hframes : FramesAvoid name frames) (e : Value) :
    (Turn.next (m.raise e frames)).Avoids name := avoids_go h hframes

theorem avoids_idle (h : m.Avoids name) : (Turn.next { m with control := .idle }).Avoids name :=
  avoids_go h trivial

theorem avoids_ask (h : m.Avoids name) (hframes : FramesAvoid name frames) (r : HostRequest) :
    (m.ask r frames).Avoids name := ⟨⟨h.unset, h.handlers, h.jobs⟩, hframes⟩

theorem avoids_proceed (h : m.Avoids name) (hframes : FramesAvoid name frames)
    (outcome : Except Value Value) :
    (Turn.next (m.proceed outcome frames)).Avoids name := by
  cases outcome with
  | ok v => exact avoids_deliver h hframes v
  | error e => exact avoids_raise h hframes e

theorem avoids_close {after : List Frame} (h : m.Avoids name) (hframes : FramesAvoid name frames)
    (hafter : FramesAvoid name after) (title : Value) :
    (m.close title frames after).Avoids name := by
  unfold close
  split
  · exact avoids_ask h hframes _
  · exact avoids_raise h hafter _

theorem avoids_await (h : m.Avoids name) (hframes : FramesAvoid name frames) (v : Value) :
    (Turn.next (m.await v frames)).Avoids name := by
  obtain ⟨hinner, houter⟩ := framesAvoid_splitAsync hframes
  have hresume : (Handler.resume (splitAsync frames).1).Avoids name := hinner
  exact avoids_go (avoids_whenSettled (avoids_promiseOf h v) _ hresume) houter

theorem avoids_asking (h : m.Avoids name) (hframes : FramesAvoid name frames) (binding : Binding)
    (args : List Value) : (m.asking binding args frames).Avoids name := by
  unfold asking
  split
  · exact avoids_raise h hframes _
  · split
    · split
      · exact avoids_ask h (framesAvoid_cons (by trivial) hframes) _
      · exact avoids_raise h hframes _
    · refine avoids_ask h ?_ _
      split
      · exact hframes
      · exact framesAvoid_cons (by trivial) hframes

theorem avoids_callFunction (h : m.Avoids name) (hframes : FramesAvoid name frames)
    (callee : Callee) (this : Value) (args : List Value) :
    (m.callFunction callee this args frames).Avoids name := by
  unfold callFunction
  split
  · exact avoids_deliver h hframes _
  · rw [callBinding_eq]
    split
    · exact avoids_asking (avoids_pending h) (framesAvoid_cons (by trivial) hframes) _ args
    · exact avoids_asking h hframes _ args
  · exact avoids_deliver (avoids_promiseOf h _) hframes _
  · exact avoids_deliver (avoids_newPromise h fun _ _ => by simp) hframes _
  · exact avoids_proceed h hframes _

theorem avoids_callTarget (h : m.Avoids name) (hframes : FramesAvoid name frames)
    (this target : Value) (args : List Value) :
    (m.callTarget this target args frames).Avoids name := by
  unfold callTarget
  split
  · exact avoids_callFunction h hframes _ _ _
  · split
    · exact avoids_callFunction h hframes _ _ _
    · exact avoids_raise h hframes _
  · exact avoids_callFunction h hframes _ _ _
  · exact avoids_raise h hframes _

/-- A statement that avoids a name leaves it unset. -/
theorem avoids_exec (h : m.Avoids name) (hframes : FramesAvoid name frames) {step : Step}
    (hstep : step.Avoids name) :
    (m.exec frames step).Avoids name := by
  cases step with
  | call path args store await =>
    simp only [exec]
    split
    · exact avoids_raise h hframes _
    · split
      · exact avoids_raise h hframes _
      · exact avoids_callTarget h (framesAvoid_cons (by trivial) hframes) _ _ _
  | test path title kind steps store await =>
    have hkept : FramesAvoid name (.keep store await :: frames) :=
      framesAvoid_cons (by trivial) hframes
    simp only [exec]
    split
    · exact avoids_raise h hkept _
    · split
      · exact avoids_raise h hkept _
      · split
        · split
          · refine avoids_ask h (framesAvoid_cons ?_ hkept) _
            exact hstep
          · exact avoids_raise h hkept _
          · exact avoids_raise h hkept _
        · exact avoids_callTarget h hkept _ _ _
  | attempt steps handler =>
    have hguard : FramesAvoid name (.guard handler :: frames) := framesAvoid_cons hstep.2 hframes
    have hbody : FramesAvoid name (.body steps :: .guard handler :: frames) :=
      framesAvoid_cons hstep.1 hguard
    exact avoids_deliver h hbody _
  | throw e =>
    simp only [exec]
    split <;> exact avoids_raise h hframes _
  | leave e =>
    simp only [exec]
    split
    · exact avoids_deliver h (framesAvoid_unwind hframes) _
    · exact avoids_raise h hframes _
  | assign e target =>
    simp only [exec]
    split
    · exact avoids_deliver (avoids_assign h target _) hframes _
    · exact avoids_raise h hframes _
  | setGlobal key e =>
    simp only [exec]
    split
    · rename_i globals hset
      -- The only statement that changes the globals, and it does so under another name.
      obtain ⟨v, -, hset⟩ := bind_eq_ok_iff.mp hset
      obtain ⟨t, hkey, hassign⟩ := bind_eq_ok_iff.mp hset
      have hne : name ≠ t := fun heq => hstep (heq ▸ hkey)
      have hunset : lookup name globals = none :=
        (Globals.lookup_assign_of_ne hassign hne).trans h.unset
      exact avoids_deliver (m := { m with globals := globals })
        ⟨hunset, h.handlers, h.jobs⟩ hframes _
    · exact avoids_raise h hframes _
  | never =>
    simp only [exec]
    split
    · exact avoids_await (avoids_pending h) hframes _
    · exact avoids_raise h hframes _
  | spin => exact avoids_raise h hframes _
  | recurse => exact avoids_raise h hframes _
  | allocate count =>
    simp only [exec]
    split
    · exact avoids_deliver h hframes _
    · exact avoids_raise h hframes _

theorem avoids_waitAnew (h : m.Avoids name) (hframes : FramesAvoid name frames) (v : Value)
    (handler : Nat → Handler) (hhandler : ∀ q, (handler q).Avoids name) :
    (Turn.next (((((m.promiseOf v).1.newPromise (.pending [])).1).whenSettled (m.promiseOf v).2
      (handler ((m.promiseOf v).1.newPromise (.pending [])).2)).deliver
        (.promise ((m.promiseOf v).1.newPromise (.pending [])).2) frames)).Avoids name :=
  avoids_deliver (avoids_whenSettled (avoids_pending (avoids_promiseOf h v)) _ (hhandler _))
    hframes _

theorem avoids_leaveBody (h : m.Avoids name) (hframes : FramesAvoid name frames) (title v : Value) :
    (m.leaveBody title v frames).Avoids name := by
  unfold leaveBody
  split
  · split
    · exact avoids_waitAnew h hframes v (.closeTest title) fun _ => trivial
    · exact avoids_raise h hframes _
  · exact avoids_close h (framesAvoid_cons (by trivial) hframes) hframes title

theorem avoids_deliverTo (h : m.Avoids name) {f : Frame} (hf : f.Avoids name)
    (hframes : FramesAvoid name frames) (v : Value) : (m.deliverTo v frames f).Avoids name := by
  cases f with
  | body steps =>
    cases steps with
    | nil => exact avoids_deliver h hframes _
    | cons s rest =>
      have hrest : FramesAvoid name (.body rest :: frames) := framesAvoid_cons hf.2 hframes
      exact avoids_exec h hrest hf.1
  | guard handler => exact avoids_deliver h hframes _
  | keep store await =>
    cases await with
    | true => exact avoids_await h (framesAvoid_cons (by trivial) hframes) v
    | false =>
      cases store with
      | some target => exact avoids_deliver (avoids_assign h target v) hframes _
      | none => exact avoids_deliver h hframes _
  | discard => exact avoids_deliver h hframes _
  | settle p => exact avoids_deliver (avoids_resolve h p v) hframes _
  | opened title kind steps =>
    have hclose : FramesAvoid name (.close title :: frames) := framesAvoid_cons (by trivial) hframes
    cases kind with
    | plain =>
      have hbody : FramesAvoid name (.body steps :: .close title :: frames) :=
        framesAvoid_cons hf hclose
      exact avoids_deliver h hbody _
    | async =>
      have hbody : FramesAvoid name
          (.body steps :: .settle m.promises.length :: .close title :: frames) :=
        framesAvoid_cons hf (framesAvoid_cons (by trivial) hclose)
      exact avoids_deliver (avoids_pending h) hbody _
  | openedValue title f =>
    have hclose : FramesAvoid name (.close title :: frames) := framesAvoid_cons (by trivial) hframes
    simp only [deliverTo]
    split
    · exact avoids_deliver h hclose _
    · exact avoids_proceed h hclose _
    · exact avoids_raise h hclose _
  | close title => exact avoids_leaveBody h hframes title v
  | closed outcome => exact avoids_proceed h hframes _
  | closedLater outcome => exact avoids_waitAnew h hframes v (.pass outcome) fun _ => trivial
  | capability p => exact avoids_deliver (avoids_resolve h p v) hframes _
  | top =>
    simp only [deliverTo]
    split
    · exact avoids_deliver (avoids_whenSettled h _ (by trivial)) hframes _
    · exact avoids_deliver h hframes _

theorem avoids_raiseTo (h : m.Avoids name) {f : Frame} (hf : f.Avoids name)
    (hframes : FramesAvoid name frames) (e : Value) : (m.raiseTo e frames f).Avoids name := by
  unfold raiseTo
  split
  · split
    · exact avoids_raise h hframes _
    · rename_i handler _
      have hbody : FramesAvoid name (.body handler :: frames) := framesAvoid_cons hf hframes
      exact avoids_deliver (avoids_assign h "e" e) hbody _
  · exact avoids_deliver (avoids_settle h _ _) hframes _
  · split
    · exact avoids_raise h hframes _
    · exact avoids_close h (framesAvoid_cons (by trivial) hframes) hframes _
  · exact avoids_deliver (avoids_settle h _ _) hframes _
  · exact avoids_raise h hframes _

theorem lookup_finish (m : Machine) (hdone : name ≠ .ofString doneFlag)
    (herror : name ≠ .ofString errorSlot) (outcome : Except Value Value) :
    lookup name (m.finish outcome).globals = lookup name m.globals := by
  unfold finish
  dsimp only
  split
  · -- Whether or not the flag can be set, the text of a failure is still to be noted.
    cases hassign : m.globals.assign (.ofString doneFlag) (.bool true) with
    | ok g =>
      have hg : lookup name g = lookup name m.globals := Globals.lookup_assign_of_ne hassign hdone
      cases outcome with
      | ok v => exact hg
      | error e =>
        dsimp only
        split
        · split
          · rename_i herr
            exact (Globals.lookup_assign_of_ne herr herror).trans hg
          · exact hg
        · exact hg
    | error e' =>
      cases outcome with
      | ok v => rfl
      | error e =>
        dsimp only
        split
        · split
          · rename_i herr
            exact Globals.lookup_assign_of_ne herr herror
          · rfl
        · rfl
  · rfl

theorem avoids_finish (h : m.Avoids name) (hdone : name ≠ .ofString doneFlag)
    (herror : name ≠ .ofString errorSlot) (outcome : Except Value Value) :
    (m.finish outcome).Avoids name := by
  obtain ⟨hpromises, hjobs⟩ := finish_promises m outcome
  exact ⟨(lookup_finish m hdone herror outcome).trans h.unset,
    hpromises ▸ h.handlers, hjobs ▸ h.jobs⟩

theorem avoids_runJob (h : m.Avoids name) (hdone : name ≠ .ofString doneFlag)
    (herror : name ≠ .ofString errorSlot) {j : Job}
    (hj : ∀ handler outcome, j = .react handler outcome → handler.Avoids name) :
    (m.runJob j).Avoids name := by
  unfold runJob
  split
  · exact avoids_proceed h (hj _ _ rfl) _
  · exact avoids_close h
      (framesAvoid_cons (by trivial) (framesAvoid_cons (by trivial) framesAvoid_nil))
      (framesAvoid_cons (by trivial) framesAvoid_nil) _
  · exact avoids_idle (avoids_complete h _ _)
  · exact avoids_idle (avoids_complete h _ _)
  · exact avoids_idle (avoids_finish h hdone herror _)
  · split
    · exact avoids_idle (avoids_whenSettled h _ trivial)
    · exact avoids_idle (avoids_resolve h _ _)
    · exact avoids_idle h

/-- A turn sets none but the names of the end and those that statements set. -/
theorem turn_avoids (hdone : name ≠ .ofString doneFlag) (herror : name ≠ .ofString errorSlot)
    (h : m.Avoids name) (hcontrol : m.control.Avoids name) : m.turn.Avoids name := by
  unfold turn
  split
  · rename_i v f frames heq
    rw [heq] at hcontrol
    obtain ⟨hf, hframes⟩ := List.forall_mem_cons.mp hcontrol
    exact avoids_deliverTo h hf hframes v
  · rename_i e f frames heq
    rw [heq] at hcontrol
    obtain ⟨hf, hframes⟩ := List.forall_mem_cons.mp hcontrol
    exact avoids_raiseTo h hf hframes e
  · exact avoids_idle h
  · exact avoids_idle h
  · trivial
  · split
    · trivial
    · rename_i j rest hjobs
      have hrest : ({ m with jobs := rest } : Machine).Avoids name :=
        ⟨h.unset, h.handlers, fun handler outcome hmem =>
          h.jobs handler outcome (hjobs ▸ List.mem_cons_of_mem _ hmem)⟩
      refine avoids_runJob hrest hdone herror ?_
      rintro handler outcome rfl
      exact h.jobs handler outcome (hjobs ▸ List.mem_cons_self)

theorem avoids_answer (h : m.Avoids name) (hcontrol : m.control.Avoids name) (a : Answer) :
    (m.answer a).Avoids name ∧ (m.answer a).control.Avoids name := by
  unfold answer
  split
  · rename_i frames heq
    rw [heq] at hcontrol
    cases a with
    | ok v => exact avoids_deliver h hcontrol _
    | error e => exact avoids_raise h hcontrol _
  · exact ⟨h, hcontrol⟩

/-- A name that no statement of a body sets is never set while the body runs. -/
theorem unset_of_comes {memoryLimit : Nat} {steps : List Step} (hdone : name ≠ .ofString doneFlag)
    (herror : name ≠ .ofString errorSlot) (hsteps : Step.AllAvoid name steps)
    (hcomes : (start memoryLimit steps).Comes m) : lookup name m.globals = none := by
  suffices h : m.Avoids name ∧ m.control.Avoids name from h.1.unset
  -- By induction on the run: a turn keeps both, and so does an answer, which goes to the frames
  -- that asked.
  induction hcomes with
  | refl =>
    refine ⟨⟨?_, fun hs hmem handler hh => ?_, nofun⟩, ?_⟩
    · simp [start, lookup, hdone.symm]
    · cases List.mem_singleton.mp hmem
      cases hh
    · exact framesAvoid_cons hsteps
        (framesAvoid_cons (by trivial) (framesAvoid_cons (by trivial) framesAvoid_nil))
  | next _ hturn ih =>
    have hnext := turn_avoids hdone herror ih.1 ih.2
    rwa [hturn] at hnext
  | answer _ hturn a ih =>
    have hnext := turn_avoids hdone herror ih.1 ih.2
    rw [hturn] at hnext
    exact avoids_answer hnext.1 hnext.2 a
  | interrupt _ hturn ih =>
    have hnext := turn_avoids hdone herror ih.1 ih.2
    rwa [hturn] at hnext

end Machine

end ScriptBench
