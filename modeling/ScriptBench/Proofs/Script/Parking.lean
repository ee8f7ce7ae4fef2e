import ScriptBench.Proofs.Script.Exchange
import ScriptBench.Proofs.Script.Stages

/-!
What awaits behind promises.

What a script has still to do is one list of frames. Only the beginning of it may stand in the
machine: the rest of a body that awaited its end waits behind the promise of its end, and so on
outwards.

1. Awaiting an outcome comes back with it to the frames of the same function (`leads_await`).
2. The end of an asynchronous body closes its block and comes back, with the outcome, to the frames
   of the function that awaited the test (`leads_settle`); so does a plain body that is left with a
   settled promise (`leads_handOver`).
-/
namespace ScriptBench

open Machine Stage

/-- The control that goes on with an outcome. -/
def Control.towards : Except Value Value → List Frame → Control
  | .ok v, frames => .deliver v frames
  | .error e, frames => .raise e frames

def Frame.isSettle : Frame → Bool
  | .settle _ => true
  | _ => false

namespace Machine

/-- The frames of the innermost asynchronous function. -/
def own (frames : List Frame) : List Frame := (splitAsync frames).1

/-- The frames outside of it. -/
def outer (frames : List Frame) : List Frame := (splitAsync frames).2

theorem split_cons {f : Frame} (hf : f.isSettle = false) (frames : List Frame) :
    own (f :: frames) = f :: own frames ∧ outer (f :: frames) = outer frames := by
  cases f with
  | settle p => cases hf
  | _ => exact ⟨rfl, rfl⟩

theorem own_own (frames : List Frame) : own (own frames) = own frames := by
  induction frames with
  | nil => rfl
  | cons f rest ih =>
    cases f with
    | settle p => rfl
    | _ => exact congrArg (List.cons _) ih

variable {m : Machine} {p : Nat} {outcome : Except Value Value} {handlers : List Handler}

theorem settle_pending (hp : m.promises[p]? = some (.pending handlers))
    (outcome : Except Value Value) :
    m.settle p outcome = { m with
      promises := m.promises.set p (.settled outcome)
      jobs := m.jobs ++ handlers.map fun h => .react h outcome } := by
  simp only [settle, hp]

theorem whenSettled_pending (hp : m.promises[p]? = some (.pending handlers)) (h : Handler) :
    m.whenSettled p h = { m with promises := m.promises.set p (.pending (handlers ++ [h])) } := by
  simp only [whenSettled, hp]

theorem whenSettled_settled (hp : m.promises[p]? = some (.settled outcome)) (h : Handler) :
    m.whenSettled p h = m.enqueue [.react h outcome] := by
  simp only [whenSettled, hp]

theorem promiseOf_settled {v : Value} (hv : v.isThenable = false) (m : Machine) :
    m.promiseOf v =
      ({ m with promises := m.promises ++ [.settled (.ok v)] }, m.promises.length) := by
  have hnew : (m.newPromise (.pending [])).1.promises[m.promises.length]? = some (.pending []) := by
    simp [newPromise]
  have hresolve : (m.newPromise (.pending [])).1.resolve m.promises.length v =
      { m with promises := m.promises ++ [.settled (.ok v)] } := by
    rw [resolve, hv, if_neg Bool.false_ne_true, settle_pending hnew]
    simp [newPromise]
  cases v with
  | promise p => cases hv
  | _ => exact congrArg (·, m.promises.length) hresolve

theorem complete_settled (h : Settled outcome) (m : Machine) (p : Nat) :
    m.complete p outcome = m.settle p outcome := by
  cases outcome with
  | error e => rfl
  | ok v => rw [complete, resolve, h v rfl, if_neg Bool.false_ne_true]

theorem await_promise (hp : m.promises[p]? = some (.settled outcome)) (frames : List Frame) :
    m.await (.promise p) frames = { m with
      jobs := m.jobs ++ [.react (.resume (own frames)) outcome]
      control := .deliver (promiseOfFrames (own frames)) (outer frames) } := by
  show { m.whenSettled p (.resume (own frames)) with
    control := .deliver (promiseOfFrames (own frames)) (outer frames) } = _
  rw [whenSettled_settled hp]
  rfl

theorem await_settled {v : Value} (hv : v.isThenable = false) (m : Machine) (frames : List Frame) :
    m.await v frames =
      await { m with promises := m.promises ++ [.settled (.ok v)] }
        (.promise m.promises.length) frames := by
  rw [await, promiseOf_settled hv]
  rfl

theorem proceed_eq (m : Machine) (outcome : Except Value Value) (frames : List Frame) :
    m.proceed outcome frames = { m with control := .towards outcome frames } := by
  cases outcome <;> rfl

end Machine

/-! ## What is to be done -/

/-- What the frames in the machine, and those that wait behind promises, are together; with the
promises that hold it. -/
inductive Spread (ps : List PromiseState) : List Frame → List Frame → List Nat → Prop where
  /-- The end of the scope's own function. -/
  | scope {p : Nat} (hp : ps[p]? = some (.pending [])) :
    Spread ps [.settle p, .top] [.settle p, .top] [p]
  /-- The same once it has awaited something. -/
  | scopeBehind {p : Nat} (hp : ps[p]? = some (.pending [.finish])) :
    Spread ps [.settle p] [.settle p, .top] [p]
  | frame {f : Frame} {frames whole : List Frame} {held : List Nat} (hf : f.isSettle = false)
    (h : Spread ps frames whole held) : Spread ps (f :: frames) (f :: whole) held
  /-- The end of the asynchronous body of a test that is awaited. -/
  | body {p : Nat} {name : Value} {store : Option String} {frames whole : List Frame}
    {held : List Nat} (hp : ps[p]? = some (.pending [])) (hnew : p ∉ held)
    (h : Spread ps frames whole held) :
    Spread ps (.settle p :: .close name :: .keep store true :: frames)
      (.settle p :: .close name :: .keep store true :: whole) (p :: held)
  /-- The same once it has awaited something. -/
  | bodyBehind {p q : Nat} {name : Value} {store : Option String} {frames whole : List Frame}
    {held : List Nat} (hp : ps[p]? = some (.pending [.closeTest name q]))
    (hq : ps[q]? = some (.pending [.resume (.keep store false :: frames)])) (hnew : p ∉ held)
    (hnewq : q ∉ held) (hown : own frames = frames) (h : Spread ps frames whole held) :
    Spread ps [.settle p] (.settle p :: .close name :: .keep store true :: whole) (p :: q :: held)

namespace Spread

variable {ps ps' : List PromiseState} {frames whole : List Frame} {held : List Nat}

theorem pending (h : Spread ps frames whole held) {x : Nat} (hx : x ∈ held) :
    ∃ handlers, ps[x]? = some (.pending handlers) := by
  induction h with
  | scope hp =>
    cases List.mem_singleton.mp hx
    exact ⟨_, hp⟩
  | scopeBehind hp =>
    cases List.mem_singleton.mp hx
    exact ⟨_, hp⟩
  | frame _ _ ih => exact ih hx
  | body hp _ _ ih =>
    rcases List.mem_cons.mp hx with rfl | hx
    · exact ⟨_, hp⟩
    · exact ih hx
  | bodyBehind hp hq _ _ _ _ ih =>
    rcases List.mem_cons.mp hx with rfl | hx
    · exact ⟨_, hp⟩
    · rcases List.mem_cons.mp hx with rfl | hx
      · exact ⟨_, hq⟩
      · exact ih hx

/-- Only the promises that hold something matter. -/
theorem agreeing (h : Spread ps frames whole held) (hsame : ∀ x ∈ held, ps'[x]? = ps[x]?) :
    Spread ps' frames whole held := by
  induction h with
  | scope hp => exact .scope ((hsame _ List.mem_cons_self).trans hp)
  | scopeBehind hp => exact .scopeBehind ((hsame _ List.mem_cons_self).trans hp)
  | frame hf _ ih => exact .frame hf (ih hsame)
  | body hp hnew _ ih =>
    exact .body ((hsame _ List.mem_cons_self).trans hp) hnew
      (ih fun x hx => hsame x (List.mem_cons_of_mem _ hx))
  | bodyBehind hp hq hnew hnewq hown _ ih =>
    refine .bodyBehind ((hsame _ List.mem_cons_self).trans hp)
      ((hsame _ (List.mem_cons_of_mem _ List.mem_cons_self)).trans hq) hnew hnewq hown
        (ih fun x hx => hsame x ?_)
    exact List.mem_cons_of_mem _ (List.mem_cons_of_mem _ hx)

theorem lt (h : Spread ps frames whole held) {x : Nat} (hx : x ∈ held) : x < ps.length := by
  obtain ⟨handlers, hpending⟩ := h.pending hx
  exact (List.getElem?_eq_some_iff.mp hpending).1

theorem append (h : Spread ps frames whole held) (more : List PromiseState) :
    Spread (ps ++ more) frames whole held :=
  h.agreeing fun _ hx => List.getElem?_append_left (h.lt hx)

theorem set (h : Spread ps frames whole held) {x : Nat} (hx : x ∉ held) (state : PromiseState) :
    Spread (ps.set x state) frames whole held :=
  h.agreeing fun y hy => List.getElem?_set_ne fun (hxy : x = y) => hx (hxy ▸ hy)

theorem not_mem_of_settled (h : Spread ps frames whole held) {x : Nat}
    {outcome : Except Value Value} (hx : ps[x]? = some (.settled outcome)) : x ∉ held := by
  intro hmem
  obtain ⟨handlers, hpending⟩ := h.pending hmem
  rw [hx] at hpending
  cases hpending

theorem not_mem_length (h : Spread ps frames whole held) : ps.length ∉ held :=
  fun hmem => Nat.lt_irrefl _ (h.lt hmem)

theorem own_eq (h : Spread ps frames whole held) : own frames = own whole := by
  induction h with
  | frame hf _ ih => rw [(split_cons hf _).1, (split_cons hf _).1, ih]
  | _ => rfl

theorem own_ne_nil (h : Spread ps frames whole held) : own frames ≠ [] := by
  cases h with
  | frame hf _ => rw [(split_cons hf _).1]; exact List.cons_ne_nil _ _
  | _ => exact List.cons_ne_nil _ _

end Spread

/-- Settled promises have outcomes that nothing has to follow. -/
def Calm (ps : List PromiseState) : Prop := ∀ outcome, .settled outcome ∈ ps → Settled outcome

section Calm

variable {ps : List PromiseState} {p : Nat} {outcome : Except Value Value}

theorem Calm.settled (h : Calm ps) (hp : ps[p]? = some (.settled outcome)) : Settled outcome :=
  h _ (List.mem_of_getElem? hp)

theorem Calm.set (h : Calm ps) (p : Nat) {state : PromiseState}
    (hstate : ∀ o, state = .settled o → Settled o) :
    Calm (ps.set p state) := by
  intro o ho
  rcases List.mem_or_eq_of_mem_set ho with ho | ho
  · exact h o ho
  · exact hstate o ho.symm

theorem Calm.append (h : Calm ps) {state : PromiseState}
    (hstate : ∀ o, state = .settled o → Settled o) :
    Calm (ps ++ [state]) := by
  intro o ho
  rcases List.mem_append.mp ho with ho | ho
  · exact h o ho
  · exact hstate o (List.mem_singleton.mp ho).symm

theorem calm_pending (handlers : List Handler) :
    ∀ o, PromiseState.pending handlers = .settled o → Settled o :=
  fun _ h => by cases h

theorem calm_settled (h : Settled outcome) :
    ∀ o, PromiseState.settled outcome = .settled o → Settled o :=
  fun _ ho => by cases ho; exact h

end Calm

/-! ## Scenes -/

/-- What the inner workings of a script leave alone. -/
structure Scene where
  limit : Nat
  vars : List (String × Value)
  inst : Instance
  deeds : List Aggregator.Step

namespace Scene

def machine (c : Scene) (ps : List PromiseState) (js : List Job) (control : Control) : Machine :=
  ⟨c.limit, c.vars, startGlobals, ps, js, control⟩

def stage (c : Scene) (ps : List PromiseState) (js : List Job) (control : Control) : Stage :=
  ⟨c.machine ps js control, c.inst, c.deeds⟩

/-- The scene after a call of the host. -/
def did (c : Scene) (inst : Instance) (steps : List Aggregator.Step) : Scene :=
  { c with inst := inst, deeds := c.deeds ++ steps }

end Scene

/-- What the frames that waited for an answer get. -/
def Answer.outcome : Answer → Except Value Value
  | .ok v => .ok (.ofJson v)
  | .error e => .error (.ofHostError e)

section Chains

variable {s : Settings} {duty goal : Stage → Prop} {c : Scene} {ps ps' : List PromiseState}
  {js js' : List Job} {control control' : Control} {frames whole : List Frame} {held : List Nat}

theorem leads_step (hturn : (c.machine ps js control).turn = .next (c.machine ps' js' control'))
    (hcalls : control.callsTest = false) (h : Leads s duty goal (c.stage ps' js' control')) :
    Leads s duty goal (c.stage ps js control) :=
  leads_turn hturn (Control.no_duty hcalls) h

theorem leads_request {r : HostRequest}
    (hturn : (c.machine ps js control).turn = .ask r (c.machine ps' js' (.asked frames)))
    (hcalls : control.callsTest = true → duty (c.stage ps js control))
    (h : ∀ now cancelled world h₁ w h' a,
      Host.Answers { s with now := now } cancelled ⟨c.inst, world⟩
      r.operation.name r.argsText h₁ w h' a →
        Leads s duty goal
          ((c.did h'.inst (r.deeds { s with now := now } a)).stage ps' js'
            (.towards a.outcome frames))) :
    Leads s duty goal (c.stage ps js control) := by
  refine leads_ask hturn hcalls fun now cancelled world h₁ w h' a hanswer => ?_
  have hgoes := h now cancelled world h₁ w h' a hanswer
  cases a <;> exact hgoes

theorem promiseOfFrames_cons (f : Frame) {frames : List Frame} (h : frames ≠ []) :
    promiseOfFrames (f :: frames) = promiseOfFrames frames := by
  obtain ⟨g, rest, rfl⟩ := List.exists_cons_of_ne_nil h
  rw [promiseOfFrames, promiseOfFrames, List.getLast?_cons_cons]

theorem scene_whenSettled_pending {p : Nat} {handlers : List Handler}
    (hp : ps[p]? = some (.pending handlers)) (h : Handler) :
    (c.machine ps js control).whenSettled p h =
      c.machine (ps.set p (.pending (handlers ++ [h]))) js control :=
  whenSettled_pending (m := c.machine ps js control) hp h

theorem scene_whenSettled_settled {p : Nat} {outcome : Except Value Value}
    (hp : ps[p]? = some (.settled outcome)) (h : Handler) :
    (c.machine ps js control).whenSettled p h = c.machine ps (js ++ [.react h outcome]) control :=
  whenSettled_settled (m := c.machine ps js control) hp h

theorem scene_settle {p : Nat} {handlers : List Handler} (hp : ps[p]? = some (.pending handlers))
    (outcome : Except Value Value) : (c.machine ps js control).settle p outcome =
      c.machine (ps.set p (.settled outcome))
        (js ++ handlers.map fun h => .react h outcome) control :=
  settle_pending (m := c.machine ps js control) hp outcome

theorem set_length {α : Type} (xs : List α) (x y : α) :
    (xs ++ [x]).set xs.length y = xs ++ [y] := by
  rw [List.set_append_right _ _ (Nat.le_refl _), Nat.sub_self]
  rfl

/-- A handler put behind a promise that nothing else waits for, while a new promise is made. -/
theorem whenSettled_open {p : Nat} (hp : ps[p]? = some (.pending [])) (h : Handler)
    (control : Control) :
    (c.machine (ps ++ [.pending []]) js control).whenSettled p h =
      c.machine (ps.set p (.pending [h]) ++ [.pending []]) js control := by
  have hlt : p < ps.length := (List.getElem?_eq_some_iff.mp hp).1
  rw [scene_whenSettled_pending ((List.getElem?_append_left hlt).trans hp),
    List.set_append_left _ _ hlt]
  rfl

/-- A test that is awaited and hands out a promise is put behind it: first the closing of its block,
then what awaits it. -/
theorem leads_behind {p : Nat} {name : Value} {store : Option String}
    (hwhen : ∀ control,
      (c.machine (ps ++ [.pending []]) js control).whenSettled p (.closeTest name ps.length) =
        c.machine (ps' ++ [.pending []]) js' control)
    (hlength : ps'.length = ps.length) (hne : own frames ≠ [])
    (h : Leads s duty goal
      (c.stage (ps' ++ [.pending [.resume (.keep store false :: own frames)]]) js'
        (.deliver (promiseOfFrames (own frames)) (outer frames)))) :
    Leads s duty goal
      (c.stage ps js (.deliver (.promise p) (.close name :: .keep store true :: frames))) := by
  have hleave :
    (c.machine ps js (.deliver (.promise p) (.close name :: .keep store true :: frames))).turn =
      .next (c.machine (ps' ++ [.pending []]) js'
          (.deliver (.promise ps.length) (.keep store true :: frames))) := by
    show Turn.next
      (((c.machine (ps ++ [.pending []]) js _).whenSettled p (.closeTest name ps.length)).deliver
        (.promise ps.length) (.keep store true :: frames)) = _
    rw [hwhen]
    rfl
  refine leads_step hleave rfl (leads_step ?_ rfl h)
  show Turn.next { (c.machine (ps' ++ [.pending []]) js' _).whenSettled ps.length
      (.resume (.keep store false :: own frames)) with
    control := .deliver (promiseOfFrames (.keep store false :: own frames)) (outer frames) } = _
  have hq : (ps' ++ [PromiseState.pending []])[ps.length]? = some (.pending []) := by
    rw [← hlength, List.getElem?_concat_length]
  rw [scene_whenSettled_pending hq, promiseOfFrames_cons _ hne, ← hlength, set_length]
  rfl

/-- Frames that are left for a while come to wait behind promises: first those of the innermost
function, then those that await its end, and so on outwards. -/
def Parks (s : Settings) (duty goal : Stage → Prop) (c : Scene) (js : List Job)
    (frames whole : List Frame) (held : List Nat) : Prop :=
  ∀ ps, Spread ps frames whole held → Calm ps →
    (∀ ps' held', Spread ps' (own frames) whole held' → Calm ps' →
      (∀ x < ps.length, x ∉ held → x ∉ held' ∧ ps'[x]? = ps[x]?) →
        Leads s duty goal (c.stage ps' js .idle)) →
    Leads s duty goal (c.stage ps js (.deliver (promiseOfFrames (own frames)) (outer frames)))

/-- A test that is awaited and hands out a promise waits behind it, and the frames that await it
with it. -/
theorem leads_wait (hparks : Parks s duty goal c js' frames whole held) {p : Nat} {name : Value}
    {store : Option String}
    (hwhen : ∀ control,
      (c.machine (ps ++ [.pending []]) js control).whenSettled p (.closeTest name ps.length) =
        c.machine (ps' ++ [.pending []]) js' control)
    (hlength : ps'.length = ps.length) (h : Spread ps' frames whole held) (hcalm : Calm ps')
    (hgo : ∀ ps₁ held',
      ps₁[ps.length]? = some (.pending [.resume (.keep store false :: own frames)]) →
      ps.length ∉ held' → Spread ps₁ (own frames) whole held' → Calm ps₁ →
      (∀ x < ps.length, x ∉ held → x ∉ held' ∧ ps₁[x]? = ps'[x]?) →
      Leads s duty goal (c.stage ps₁ js' .idle)) :
    Leads s duty goal
      (c.stage ps js (.deliver (.promise p) (.close name :: .keep store true :: frames))) := by
  refine leads_behind hwhen hlength h.own_ne_nil ?_
  refine hparks _ (h.append _) (hcalm.append (calm_pending _)) fun ps₁ held' h' hcalm' hkept => ?_
  have hlast :
    (ps' ++ [PromiseState.pending [Handler.resume (.keep store false :: own frames)]]).length =
      ps.length + 1 := by
    rw [List.length_append, hlength]
    rfl
  obtain ⟨hnew, hsame⟩ := hkept ps.length (by omega) (hlength ▸ h.not_mem_length)
  refine hgo ps₁ held' ?_ hnew h' hcalm' fun x hx hnot => ?_
  · rw [hsame, ← hlength, List.getElem?_concat_length]
  · obtain ⟨hx', hsame'⟩ := hkept x (by omega) hnot
    exact ⟨hx', by rw [hsame', List.getElem?_append_left (by omega)]⟩

theorem parks_of_spread (h : Spread ps frames whole held) :
    Parks s duty goal c js frames whole held := by
  -- From the inside outwards: what is left hands its promise to the test that awaits it, which is
  -- left in turn.
  induction h with
  | @scope p _ =>
    intro ps₁ h₁ hcalm hgo
    have hp : ps₁[p]? = some (.pending []) := by
      cases h₁ with
      | scope hp => exact hp
      | frame hf _ => cases hf
    have hlt : p < ps₁.length := (List.getElem?_eq_some_iff.mp hp).1
    have hturn : (c.machine ps₁ js (.deliver (.promise p) [.top])).turn =
        .next (c.machine (ps₁.set p (.pending [.finish])) js (.deliver .undefined [])) := by
      show Turn.next (((c.machine ps₁ js _).whenSettled p .finish).deliver .undefined []) = _
      rw [scene_whenSettled_pending hp]
      rfl
    refine leads_step hturn rfl (leads_step rfl rfl ?_)
    refine hgo _ [p] (.scopeBehind (List.getElem?_set_self hlt)) (hcalm.set p (calm_pending _))
      fun x _ hx => ⟨hx, ?_⟩
    exact List.getElem?_set_ne fun hpx => hx (by rw [hpx]; exact List.mem_cons_self)
  | scopeBehind _ =>
    intro ps₁ h₁ hcalm hgo
    exact leads_step rfl rfl (hgo ps₁ _ h₁ hcalm fun x _ hx => ⟨hx, rfl⟩)
  | @frame f frames whole held hf _ ih =>
    intro ps₁ h₁ hcalm hgo
    have hrest : Spread ps₁ frames whole held := by
      cases h₁ with
      | frame _ h => exact h
      | _ => cases hf
    rw [(split_cons hf frames).1] at hgo ⊢
    rw [(split_cons hf frames).2, promiseOfFrames_cons f hrest.own_ne_nil]
    exact ih ps₁ hrest hcalm fun ps' held' h' => hgo ps' held' (.frame hf h')
  | @body p name store frames whole held _ hnew _ ih =>
    intro ps₁ h₁ hcalm hgo
    obtain ⟨hp, hrest⟩ : ps₁[p]? = some (.pending []) ∧ Spread ps₁ frames whole held := by
      cases h₁ with
      | body hp _ h => exact ⟨hp, h⟩
      | frame hf _ => cases hf
    have hlt : p < ps₁.length := (List.getElem?_eq_some_iff.mp hp).1
    -- What awaits the test waits behind a promise of its own, so the body is one that has awaited
    -- something.
    refine leads_wait ih (whenSettled_open hp _) List.length_set (hrest.set hnew _)
      (hcalm.set p (calm_pending _)) fun ps' held' hq hnewq h' hcalm' hkept => ?_
    obtain ⟨hnew', hp'⟩ := hkept p hlt hnew
    rw [List.getElem?_set_self hlt] at hp'
    refine hgo ps' _ (.bodyBehind hp' hq hnew' hnewq (own_own frames) h') hcalm' fun x hx hnot => ?_
    have hxp : x ≠ p := fun hxp => hnot (hxp ▸ List.mem_cons_self)
    obtain ⟨hx', hsame⟩ := hkept x hx fun hmem => hnot (List.mem_cons_of_mem _ hmem)
    rw [List.getElem?_set_ne (Ne.symm hxp)] at hsame
    refine ⟨?_, hsame⟩
    simp only [List.mem_cons, not_or]
    exact ⟨hxp, Nat.ne_of_lt hx, hx'⟩
  | bodyBehind _ _ _ _ _ _ _ =>
    intro ps₁ h₁ hcalm hgo
    exact leads_step rfl rfl (hgo ps₁ _ h₁ hcalm fun x _ hx => ⟨hx, rfl⟩)

/-- What awaiting a value gives. -/
inductive Gives (ps : List PromiseState) : Value → Except Value Value → Prop where
  | itself {v : Value} (hv : v.isThenable = false) : Gives ps v (.ok v)
  | settled {p : Nat} {outcome : Except Value Value} (hp : ps[p]? = some (.settled outcome)) :
    Gives ps (.promise p) outcome

/-- Frames that have nothing else before them go on with an outcome. -/
theorem leads_resume {outcome : Except Value Value}
    (h : Leads s duty goal (c.stage ps [] (.towards outcome frames))) :
    Leads s duty goal (c.stage ps [.react (.resume frames) outcome] .idle) := by
  refine leads_step ?_ rfl h
  show Turn.next ((c.machine ps [] .idle).proceed outcome frames) = _
  rw [proceed_eq]
  rfl

/-- Awaiting a value comes back with its outcome to the frames of the same function. -/
theorem leads_await {v : Value} {outcome : Except Value Value} {store : Option String}
    (hgives : Gives ps v outcome)
    (h : Spread ps frames whole held) (hcalm : Calm ps)
    (hgo : ∀ ps' held', Spread ps' (own frames) whole held' → Calm ps' →
      Leads s duty goal (c.stage ps' [] (.towards outcome (.keep store false :: own frames)))) :
    Leads s duty goal (c.stage ps [] (.deliver v (.keep store true :: frames))) := by
  obtain ⟨ps₁, h₁, hcalm₁, hturn⟩ : ∃ ps₁, Spread ps₁ frames whole held ∧ Calm ps₁ ∧
      (c.machine ps [] (.deliver v (.keep store true :: frames))).turn =
        .next (c.machine ps₁ [.react (.resume (.keep store false :: own frames)) outcome]
          (.deliver (promiseOfFrames (.keep store false :: own frames)) (outer frames))) := by
    cases hgives with
    | itself hv =>
      refine ⟨ps ++ [.settled (.ok v)], h.append _, ?_, ?_⟩
      · exact hcalm.append (calm_settled fun _ h => by cases h; exact hv)
      · show Turn.next ((c.machine ps [] _).await v (.keep store false :: frames)) = _
        rw [await_settled hv]
        exact congrArg Turn.next (await_promise (m := c.machine (ps ++ [.settled (.ok v)]) [] _)
          List.getElem?_concat_length _)
    | settled hp =>
      exact ⟨ps, h, hcalm, congrArg Turn.next (await_promise (m := c.machine ps [] _) hp _)⟩
  rw [promiseOfFrames_cons _ h.own_ne_nil] at hturn
  refine leads_step hturn rfl (parks_of_spread h₁ ps₁ h₁ hcalm₁ fun ps' held' h' hcalm' _ => ?_)
  exact leads_resume (hgo ps' held' h' hcalm')

/-- A promise that follows a settled one is settled the same way. -/
theorem leads_follow {p x : Nat} {outcome : Except Value Value} {handlers : List Handler}
    (hx : ps[x]? = some (.settled outcome)) (hp : ps[p]? = some (.pending handlers))
    (hcalm : Calm ps)
    (h : Leads s duty goal
      (c.stage (ps.set p (.settled outcome)) (handlers.map fun h => .react h outcome) .idle)) :
    Leads s duty goal (c.stage ps [.adopt p (.promise x)] .idle) := by
  have hadopt : (c.machine ps [.adopt p (.promise x)] .idle).turn =
      .next (c.machine ps [.react (.forward p) outcome] .idle) := by
    show Turn.next { (c.machine ps [] .idle).whenSettled x (.forward p) with control := .idle } = _
    rw [scene_whenSettled_settled hx]
    rfl
  have hforward : (c.machine ps [.react (.forward p) outcome] .idle).turn =
      .next (c.machine (ps.set p (.settled outcome))
          (handlers.map fun h => .react h outcome) .idle) := by
    show Turn.next { (c.machine ps [] .idle).complete p outcome with control := .idle } = _
    rw [complete_settled (hcalm.settled hx), scene_settle hp]
    rfl
  exact leads_step hadopt rfl (leads_step hforward rfl h)

/-- Once a block has been closed behind a promise, what awaited the test goes on with the
outcome. -/
theorem leads_closedLater {q : Nat} {outcome : Except Value Value} (houtcome : Settled outcome)
    (hq : ps[q]? = some (.pending [.resume frames])) (hcalm : Calm ps)
    (hgo : ∀ ps', (∀ x < ps.length, x ≠ q → ps'[x]? = ps[x]?) → Calm ps' →
      Leads s duty goal (c.stage ps' [] (.towards outcome frames))) :
    Leads s duty goal (c.stage ps [] (.deliver .null [.closedLater outcome, .capability q])) := by
  have hlt : q < ps.length := (List.getElem?_eq_some_iff.mp hq).1
  -- The answer `null` becomes a promise of its own, and the outcome one that the caller's promise
  -- follows.
  obtain ⟨ps₁, hps₁⟩ : ∃ ps₁, ps₁ = ps ++ [PromiseState.settled (.ok .null)] := ⟨_, rfl⟩
  have hlater : (c.machine ps [] (.deliver .null [.closedLater outcome, .capability q])).turn =
      .next (c.machine (ps₁ ++ [.pending []]) [.react (.pass outcome ps₁.length) (.ok .null)]
        (.deliver (.promise ps₁.length) [.capability q])) := by
    have hnull : (ps₁ ++ [PromiseState.pending []])[ps.length]? = some (.settled (.ok .null)) := by
      rw [hps₁, List.getElem?_append_left (by simp), List.getElem?_concat_length]
    show deliverTo _ .null [.capability q] (.closedLater outcome) = _
    simp only [deliverTo, promiseOf_settled (v := .null) rfl]
    show Turn.next
      (((c.machine (ps ++ [.settled (.ok .null)] ++ [.pending []]) [] _).whenSettled ps.length
          (.pass outcome (ps ++ [PromiseState.settled (.ok .null)]).length)).deliver
        (.promise (ps ++ [PromiseState.settled (.ok .null)]).length) [.capability q]) = _
    rw [← hps₁, scene_whenSettled_settled hnull]
    rfl
  have hpass : (c.machine (ps₁ ++ [.pending []])
      [.react (.pass outcome ps₁.length) (.ok .null), .adopt q (.promise ps₁.length)] .idle).turn =
      .next (c.machine (ps₁ ++ [.settled outcome]) [.adopt q (.promise ps₁.length)] .idle) := by
    show Turn.next
      { (c.machine (ps₁ ++ [.pending []]) [.adopt q (.promise ps₁.length)] .idle).complete
          ps₁.length outcome with
        control := .idle } = _
    rw [complete_settled houtcome, scene_settle List.getElem?_concat_length, set_length]
    rfl
  have hq₁ : (ps₁ ++ [PromiseState.settled outcome])[q]? = some (.pending [.resume frames]) := by
    rw [hps₁, List.append_assoc, List.getElem?_append_left hlt, hq]
  have hcalm₁ : Calm (ps₁ ++ [.settled outcome]) := by
    rw [hps₁]
    refine (hcalm.append (calm_settled fun _ h => ?_)).append (calm_settled houtcome)
    cases h
    rfl
  refine leads_step hlater rfl (leads_step rfl rfl (leads_step rfl rfl (leads_step hpass rfl ?_)))
  refine leads_follow List.getElem?_concat_length hq₁ hcalm₁
    (leads_resume (hgo _ (fun x hx hxq => ?_) ?_))
  · rw [List.getElem?_set_ne (Ne.symm hxq), hps₁, List.append_assoc, List.getElem?_append_left hx]
  · exact hcalm₁.set q (calm_settled houtcome)

/-- Once the promise it was put behind is settled, a block is closed, and what awaited the test goes
on with the outcome. -/
theorem leads_closing {name : Value} {title : String} {q : Nat} {outcome : Except Value Value}
    (hnames : Names (Value.argumentText [name]) title) (houtcome : Settled outcome)
    (hq : ps[q]? = some (.pending [.resume frames])) (hcalm : Calm ps)
    (hgo : ∀ now inst ps', (∀ x < ps.length, x ≠ q → ps'[x]? = ps[x]?) → Calm ps' →
      Leads s duty goal
        ((c.did inst [.closeBlock now title]).stage ps' [] (.towards outcome frames))) :
    Leads s duty goal (c.stage ps [.react (.closeTest name q) outcome] .idle) := by
  have hask : (c.machine ps [.react (.closeTest name q) outcome] .idle).turn =
      .ask ⟨.closeTest, Value.argumentText [name]⟩
        (c.machine ps [] (.asked [.closedLater outcome, .capability q])) := rfl
  refine leads_request hask (fun hcalls => by cases hcalls)
    fun now cancelled world h₁ w h' a hanswer => ?_
  obtain ⟨rfl, hdeeds⟩ := closing_answered hnames rfl hanswer
  rw [hdeeds]
  exact leads_closedLater houtcome hq hcalm fun ps' => hgo now h'.inst ps'

/-- A test that is awaited and whose body has handed over a settled promise is closed, and the
outcome comes to the frames that await it. -/
theorem leads_handOver {x : Nat} {name : Value} {title : String} {store : Option String}
    {outcome : Except Value Value} (hnames : Names (Value.argumentText [name]) title)
    (hx : ps[x]? = some (.settled outcome)) (h : Spread ps frames whole held) (hcalm : Calm ps)
    (hgo : ∀ now inst ps' held', Spread ps' (own frames) whole held' → Calm ps' →
      Leads s duty goal ((c.did inst [.closeBlock now title]).stage ps' []
        (.towards outcome (.keep store false :: own frames)))) :
    Leads s duty goal
    (c.stage ps [] (.deliver (.promise x) (.close name :: .keep store true :: frames))) := by
  have hlt : x < ps.length := (List.getElem?_eq_some_iff.mp hx).1
  have hwhen : ∀ control, (c.machine (ps ++ [.pending []]) [] control).whenSettled x
    (.closeTest name ps.length) =
      c.machine (ps ++ [.pending []]) [.react (.closeTest name ps.length) outcome] control :=
    fun _ => scene_whenSettled_settled ((List.getElem?_append_left hlt).trans hx) _
  refine leads_wait (parks_of_spread h) hwhen rfl h hcalm fun ps₁ held' hq hnew h' hcalm' _ => ?_
  refine leads_closing hnames (hcalm.settled hx) hq hcalm' fun now inst ps₂ hkept hcalm₂ => ?_
  exact hgo now inst ps₂ held' (h'.agreeing fun y hy => hkept y (h'.lt hy) fun hyq =>
    hnew (hyq ▸ hy)) hcalm₂

/-- What the outcome of a function's body gives to those that await the function. -/
inductive Yields (ps : List PromiseState) : Except Value Value → Except Value Value → Prop where
  | error (e : Value) : Yields ps (.error e) (.error e)
  | value {v : Value} {outcome : Except Value Value} (h : Gives ps v outcome) :
    Yields ps (.ok v) outcome

theorem settle_turn (c : Scene) (frames : List Frame) {p : Nat} {handlers : List Handler}
    (hp : ps[p]? = some (.pending handlers)) {outcome : Except Value Value} (h : Settled outcome) :
    (c.machine ps [] (.towards outcome (.settle p :: frames))).turn =
      .next (c.machine (ps.set p (.settled outcome)) (handlers.map fun h => .react h outcome)
        (.deliver (.promise p) frames)) := by
  cases outcome with
  | error e =>
    show Turn.next (((c.machine ps [] _).settle p (.error e)).deliver (.promise p) frames) = _
    rw [scene_settle hp]
    rfl
  | ok v =>
    show Turn.next (((c.machine ps [] _).resolve p v).deliver (.promise p) frames) = _
    rw [resolve, h v rfl, if_neg Bool.false_ne_true, scene_settle hp]
    rfl

/-- What a body yields is its own outcome, or that of a settled promise it ended with. -/
theorem yields_cases {ended outcome : Except Value Value} (hyields : Yields ps ended outcome) :
    (ended = outcome ∧ Settled outcome) ∨ ∃ x, ended = .ok (.promise x) ∧
      ps[x]? = some (.settled outcome) := by
  cases hyields with
  | error e => exact .inl ⟨rfl, settled_error e⟩
  | value h =>
    cases h with
    | itself hv =>
      refine .inl ⟨rfl, fun _ h => ?_⟩
      cases h
      exact hv
    | settled hx => exact .inr ⟨_, rfl, hx⟩

theorem Yields.settled {ended outcome : Except Value Value} (h : Yields ps ended outcome)
    (hcalm : Calm ps) :
    Settled outcome := by
  obtain ⟨-, houtcome⟩ | ⟨x, -, hx⟩ := yields_cases h
  · exact houtcome
  · exact hcalm.settled hx

/-- The promise of a body's end is settled, and behind it waits the test that is awaited. -/
theorem leads_settled {p q : Nat} {name : Value} {title : String} {store : Option String}
    {outcome : Except Value Value}
    (hnames : Names (Value.argumentText [name]) title) (houtcome : Settled outcome)
    (hq : ps[q]? = some (.pending [.resume (.keep store false :: frames)])) (hpq : p ≠ q)
    (hnew : p ∉ held) (hnewq : q ∉ held) (hown : own frames = frames)
    (h : Spread ps frames whole held) (hcalm : Calm ps)
    (hgo : ∀ now inst ps' frames held', own frames = frames →
      Spread ps' frames whole held' → Calm ps' →
      Leads s duty goal ((c.did inst [.closeBlock now title]).stage ps' []
        (.towards outcome (.keep store false :: frames)))) :
    Leads s duty goal
    (c.stage (ps.set p (.settled outcome)) [.react (.closeTest name q) outcome] .idle) := by
  have hq' : (ps.set p (.settled outcome))[q]? =
      some (.pending [.resume (.keep store false :: frames)]) := by
    rw [List.getElem?_set_ne hpq, hq]
  refine leads_closing hnames houtcome hq' (hcalm.set p (calm_settled houtcome))
    fun now inst ps' hkept hcalm' => ?_
  refine hgo now inst ps' frames held hown (h.agreeing fun x hx => ?_) hcalm'
  have hxp : p ≠ x := fun hpx => hnew (hpx ▸ hx)
  have hlt : x < (ps.set p (.settled outcome)).length := by
    rw [List.length_set]
    exact h.lt hx
  rw [hkept x hlt fun hxq => hnewq (hxq ▸ hx), List.getElem?_set_ne hxp]

/-- The end of the asynchronous body of a test that is awaited closes its block and comes back, with
what the body yields, to the frames of the function that called the test. -/
theorem leads_settle {p : Nat} {name : Value} {title : String} {store : Option String}
    {outside : List Frame}
    {ended outcome : Except Value Value} (hnames : Names (Value.argumentText [name]) title)
    (hyields : Yields ps ended outcome) (hcalm : Calm ps)
    (h : Spread ps (.settle p :: outside)
      (.settle p :: .close name :: .keep store true :: whole) held)
    (hgo : ∀ now inst ps' frames held', own frames = frames →
      Spread ps' frames whole held' → Calm ps' →
      Leads s duty goal ((c.did inst [.closeBlock now title]).stage ps' []
        (.towards outcome (.keep store false :: frames)))) :
    Leads s duty goal (c.stage ps [] (.towards ended (.settle p :: outside))) := by
  have hcalls : (Control.towards ended (.settle p :: outside)).callsTest = false := by
    cases ended <;> rfl
  cases h with
  | frame hf _ => cases hf
  | @body _ _ _ frames _ held hp hnew h =>
    have hlt : p < ps.length := (List.getElem?_eq_some_iff.mp hp).1
    obtain ⟨rfl, houtcome⟩ | ⟨x, rfl, hx⟩ := yields_cases hyields
    · refine leads_step (settle_turn c _ hp houtcome) hcalls ?_
      exact leads_handOver hnames (List.getElem?_set_self hlt) (h.set hnew _)
        (hcalm.set p (calm_settled houtcome)) fun now inst ps' held' =>
          hgo now inst ps' _ held' (own_own frames)
    · refine leads_step rfl hcalls ?_
      -- The promise that the body ended with is followed only after all that is outside has been
      -- put behind promises.
      refine leads_wait (parks_of_spread h) (whenSettled_open hp _) List.length_set (h.set hnew _)
        (hcalm.set p (calm_pending _)) fun ps₁ held' hq hnewq h' hcalm' hkept => ?_
      obtain ⟨hnew', hp'⟩ := hkept p hlt hnew
      rw [List.getElem?_set_self hlt] at hp'
      have hxp : p ≠ x := by
        rintro rfl
        rw [hp] at hx
        cases hx
      obtain ⟨-, hx'⟩ := hkept x (List.getElem?_eq_some_iff.mp hx).1 (h.not_mem_of_settled hx)
      rw [List.getElem?_set_ne hxp, hx] at hx'
      refine leads_follow hx' hp' hcalm' ?_
      exact leads_settled hnames (hcalm'.settled hx') hq (Nat.ne_of_lt hlt) hnew' hnewq
        (own_own frames) h' hcalm' hgo
  | @bodyBehind _ q _ _ frames _ held hp hq hnew hnewq hown h =>
    have hpq : p ≠ q := by
      rintro rfl
      rw [hp] at hq
      cases hq
    have hclosed := fun houtcome =>
      leads_settled (c := c) hnames houtcome hq hpq hnew hnewq hown h hcalm hgo
    obtain ⟨rfl, houtcome⟩ | ⟨x, rfl, hx⟩ := yields_cases hyields
    · exact leads_step (settle_turn c [] hp houtcome) hcalls (leads_step rfl rfl (hclosed houtcome))
    · refine leads_step rfl hcalls (leads_step rfl rfl (leads_follow hx hp hcalm ?_))
      exact hclosed (hcalm.settled hx)

end Chains

end ScriptBench
