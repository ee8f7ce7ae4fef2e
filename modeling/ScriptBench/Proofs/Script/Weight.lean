import Mathlib.Algebra.GroupWithZero.Nat
import ScriptBench.Script.Program

/-!
A script comes to rest.

What is left for a machine to do is weighed: each frame, handler and job has a weight that pays for
all that can come of it, a statement 32. A settled promise never holds a value that has to be
followed, so following ends.

1. What a machine does with its promises and jobs adds no more to its load than it costs
   (`costs_settle`, `costs_resolve`, `costs_whenSettled`).
2. So every turn makes a machine lighter (`turn_below`).
-/
namespace ScriptBench

open Machine

/-! ## Weights -/

def Frame.weight : Frame → Nat
  | .body steps => 32 * Step.sizeList steps + 1
  | .guard handler => 32 * Step.sizeList handler + 2
  | .keep _ await => if await then 6 else 1
  | .discard => 1
  | .settle _ => 3
  | .opened _ _ steps => 32 * Step.sizeList steps + 19
  | .openedValue _ _ => 15
  | .close _ => 14
  | .closed _ => 1
  | .closedLater _ => 6
  | .capability _ => 3
  | .top => 2

/-- What frames weigh together. -/
def framesWeight (frames : List Frame) : Nat := (frames.map Frame.weight).sum

def Handler.weight : Handler → Nat
  | .resume frames => framesWeight frames + 2
  | .closeTest _ _ => 11
  | .pass _ _ => 3
  | .forward _ => 1
  | .finish => 1

def PromiseState.weight : PromiseState → Nat
  | .pending handlers => (handlers.map Handler.weight).sum
  | .settled _ => 0

def Job.weight : Job → Nat
  | .react handler _ => handler.weight
  | .adopt _ _ => 2

def Control.weight : Control → Nat
  | .deliver _ frames | .raise _ frames | .asked frames => framesWeight frames + 1
  | .idle => 0

/-- A settled value is one that nothing has to follow. -/
def Settled (outcome : Except Value Value) : Prop := ∀ v, outcome = .ok v → v.isThenable = false

@[simp] theorem framesWeight_cons (f : Frame) (frames : List Frame) :
    framesWeight (f :: frames) = f.weight + framesWeight frames := by
  simp [framesWeight]

@[simp] theorem framesWeight_nil : framesWeight [] = 0 := rfl

theorem settled_error (e : Value) : Settled (.error e) := fun _ h => by cases h

namespace Machine

/-- What the promises and the jobs of a machine weigh. -/
def load (m : Machine) : Nat :=
  (m.promises.map PromiseState.weight).sum + (m.jobs.map Job.weight).sum

def weight (m : Machine) : Nat := m.load + m.control.weight

/-- No promise is settled, and no job is handed, a value that has to be followed. -/
structure Tame (m : Machine) : Prop where
  promises : ∀ outcome, .settled outcome ∈ m.promises → Settled outcome
  jobs : ∀ handler outcome, .react handler outcome ∈ m.jobs → Settled outcome

/-- A machine that is tame if the other is, with at most so much more load. -/
structure Costs (m m' : Machine) (cost : Nat) : Prop where
  tame : m.Tame → m'.Tame
  load : m'.load ≤ m.load + cost

variable {m m' : Machine}

theorem Costs.trans {m'' : Machine} {a b : Nat} (h : m.Costs m' a) (h' : m'.Costs m'' b) :
    m.Costs m'' (a + b) where
  tame hm := h'.tame (h.tame hm)
  load := by
    have := h.load
    have := h'.load
    omega

/-- Only promises and jobs have a load. -/
theorem Costs.of_same (hpromises : m'.promises = m.promises) (hjobs : m'.jobs = m.jobs) :
    m.Costs m' 0 where
  tame hm := ⟨hpromises ▸ hm.promises, hjobs ▸ hm.jobs⟩
  load := by rw [Machine.load, Machine.load, hpromises, hjobs]; exact Nat.le_refl _

theorem sum_set {α : Type} (f : α → Nat) {xs : List α} {i : Nat} {x y : α} (hx : xs[i]? = some x) :
    ((xs.set i y).map f).sum + f x = (xs.map f).sum + f y := by
  induction xs generalizing i with
  | nil => cases hx
  | cons z rest ih =>
    cases i with
    | zero =>
      cases hx
      simp only [List.set_cons_zero, List.map_cons, List.sum_cons]
      omega
    | succ i =>
      have := ih hx
      simp only [List.set_cons_succ, List.map_cons, List.sum_cons]
      omega

/-! ## Promises -/

theorem costs_enqueue_adopt (m : Machine) (p : Nat) (v : Value) :
    m.Costs (m.enqueue [.adopt p v]) 2 where
  tame hm := ⟨hm.promises, fun handler outcome h => by
    rcases List.mem_append.mp h with h | h
    · exact hm.jobs handler outcome h
    · cases List.mem_singleton.mp h⟩
  load := by simp [Machine.load, enqueue, Job.weight]; omega

theorem costs_newPromise (m : Machine) {state : PromiseState} (hweight : state.weight = 0)
    (hsettled : ∀ outcome, state = .settled outcome → Settled outcome) :
    m.Costs (m.newPromise state).1 0 where
  tame hm := ⟨fun outcome h => by
    rcases List.mem_append.mp h with h | h
    · exact hm.promises outcome h
    · exact hsettled outcome (List.mem_singleton.mp h).symm, hm.jobs⟩
  load := by simp [Machine.load, newPromise, hweight]

theorem costs_pending (m : Machine) : m.Costs (m.newPromise (.pending [])).1 0 :=
  costs_newPromise m rfl fun _ h => by cases h

/-- What waited for a promise is queued with its outcome, and weighs there what it did before. -/
theorem costs_settle (m : Machine) (p : Nat) {outcome : Except Value Value} (h : Settled outcome) :
    m.Costs (m.settle p outcome) 0 := by
  unfold settle
  split
  · rename_i handlers hp
    refine ⟨fun hm => ⟨fun o ho => ?_, fun handler o ho => ?_⟩, ?_⟩
    · rcases List.mem_or_eq_of_mem_set ho with ho | ho
      · exact hm.promises o ho
      · cases ho
        exact h
    · rcases List.mem_append.mp ho with ho | ho
      · exact hm.jobs handler o ho
      · obtain ⟨_, -, heq⟩ := List.mem_map.mp ho
        cases heq
        exact h
    · have hsum := sum_set PromiseState.weight (y := .settled outcome) hp
      have hjobs : ((handlers.map fun h => Job.react h outcome).map Job.weight).sum =
          (PromiseState.pending handlers).weight := by
        rw [List.map_map]
        rfl
      have hzero : (PromiseState.settled outcome).weight = 0 := rfl
      simp only [Machine.load, List.map_append, List.sum_append, hjobs]
      omega
  · exact .of_same rfl rfl

theorem costs_resolve (m : Machine) (p : Nat) (v : Value) : m.Costs (m.resolve p v) 2 := by
  unfold resolve
  split
  · exact costs_enqueue_adopt m p v
  · rename_i hv
    have hsettled : Settled (.ok v) := by
      intro v' hv'
      cases hv'
      simpa using hv
    have hcosts := costs_settle m p hsettled
    exact ⟨hcosts.tame, Nat.le_add_right_of_le hcosts.load⟩

theorem costs_whenSettled (m : Machine) (p : Nat) (handler : Handler) :
    m.Costs (m.whenSettled p handler) handler.weight := by
  unfold whenSettled
  split
  · rename_i handlers hp
    refine ⟨fun hm => ⟨fun o ho => ?_, hm.jobs⟩, ?_⟩
    · rcases List.mem_or_eq_of_mem_set ho with ho | ho
      · exact hm.promises o ho
      · cases ho
    · have hsum := sum_set PromiseState.weight (y := .pending (handlers ++ [handler])) hp
      simp only [PromiseState.weight, List.map_append, List.sum_append, List.map_cons, List.map_nil,
        List.sum_cons, List.sum_nil] at hsum
      simp only [Machine.load]
      omega
  · rename_i outcome hp
    refine ⟨fun hm => ⟨hm.promises, fun handler' o ho => ?_⟩, ?_⟩
    · rcases List.mem_append.mp ho with ho | ho
      · exact hm.jobs handler' o ho
      · cases List.mem_singleton.mp ho
        exact hm.promises _ (List.mem_of_getElem? hp)
    · simp [Machine.load, enqueue, Job.weight]
      omega
  · exact ⟨id, Nat.le_add_right _ _⟩

theorem costs_promiseOf (m : Machine) (v : Value) : m.Costs (m.promiseOf v).1 2 := by
  have hnew : m.Costs ((m.newPromise (.pending [])).1.resolve m.promises.length v) (0 + 2) :=
    (costs_pending m).trans (costs_resolve _ _ v)
  cases v with
  | promise p => exact ⟨id, Nat.le_add_right _ _⟩
  | _ => exact hnew

theorem costs_waitAnew (m : Machine) (v : Value) (handler : Nat → Handler) (weight : Nat)
    (hweight : ∀ q, (handler q).weight = weight) :
    m.Costs
      ((((m.promiseOf v).1.newPromise (.pending [])).1).whenSettled (m.promiseOf v).2
        (handler ((m.promiseOf v).1.newPromise (.pending [])).2)) (2 + weight) := by
  have hnew : m.Costs ((m.promiseOf v).1.newPromise (.pending [])).1 2 :=
    (costs_promiseOf m v).trans (costs_pending (m.promiseOf v).1)
  have hwait := hnew.trans
    (costs_whenSettled _ (m.promiseOf v).2 (handler ((m.promiseOf v).1.newPromise (.pending [])).2))
  rwa [hweight] at hwait

theorem costs_complete (m : Machine) (p : Nat) (outcome : Except Value Value) :
    m.Costs (m.complete p outcome) 2 := by
  cases outcome with
  | ok v => exact costs_resolve m p v
  | error e =>
    have hcosts := costs_settle m p (settled_error e)
    exact ⟨hcosts.tame, Nat.le_add_right_of_le hcosts.load⟩

/-- An outcome that is settled settles another promise at no cost. -/
theorem costs_complete_settled (m : Machine) (p : Nat) {outcome : Except Value Value}
    (h : Settled outcome) :
    m.Costs (m.complete p outcome) 0 := by
  cases outcome with
  | ok v =>
    have hv : v.isThenable = false := h v rfl
    rw [complete, resolve, hv]
    exact costs_settle m p h
  | error e => exact costs_settle m p h

/-! ## Turns -/

/-- What a call of a function of the host does once there is a promise for it, if it gives one. -/
def asking (m : Machine) (b : Binding) (args : List Value) (frames : List Frame) : Turn :=
  match b.request m.globals args with
  | .error e => .next (m.raise e frames)
  | .ok r =>
    if b = .test then
      match m.globals.text (Builtin.arg args 0) with
      | .ok name => m.ask r (.openedValue name (Builtin.arg args 1) :: frames)
      | .error e => .next (m.raise e frames)
    else m.ask r (if b.givesAnswer then frames else .discard :: frames)

theorem callBinding_eq (m : Machine) (b : Binding) (args : List Value) (frames : List Frame) :
    m.callBinding b args frames =
      if b.isAsync then (m.newPromise (.pending [])).1.asking b args
        (.settle m.promises.length :: frames)
      else m.asking b args frames := by
  unfold callBinding
  by_cases hasync : b.isAsync = true
  · rw [if_pos hasync, if_pos hasync]
    rfl
  · rw [if_neg hasync, if_neg hasync]
    rfl

end Machine

/-- The machine that goes on, if one does, is tame and weighs less. -/
def Turn.Below (w : Nat) : Turn → Prop
  | .next m | .ask _ m | .spin m => m.Tame ∧ m.weight < w
  | .halt => True

namespace Machine

variable {m : Machine} {w : Nat} {frames : List Frame}

theorem below_deliver (hm : m.Tame) (h : m.load + framesWeight frames + 1 < w) (v : Value) :
    (Turn.next (m.deliver v frames)).Below w := ⟨⟨hm.promises, hm.jobs⟩, h⟩

theorem below_raise (hm : m.Tame) (h : m.load + framesWeight frames + 1 < w) (e : Value) :
    (Turn.next (m.raise e frames)).Below w := ⟨⟨hm.promises, hm.jobs⟩, h⟩

theorem below_ask (hm : m.Tame) (h : m.load + framesWeight frames + 1 < w) (r : HostRequest) :
    (m.ask r frames).Below w := ⟨⟨hm.promises, hm.jobs⟩, h⟩

theorem below_idle (hm : m.Tame) (h : m.load < w) :
    (Turn.next { m with control := .idle }).Below w :=
  ⟨⟨hm.promises, hm.jobs⟩, h⟩

theorem below_proceed (hm : m.Tame) (h : m.load + framesWeight frames + 1 < w)
    (outcome : Except Value Value) : (Turn.next (m.proceed outcome frames)).Below w := by
  cases outcome with
  | ok v => exact below_deliver hm h v
  | error e => exact below_raise hm h e

theorem below_close {after : List Frame} (hm : m.Tame) (h : m.load + framesWeight frames + 1 < w)
    (hafter : m.load + framesWeight after + 1 < w) (name : Value) :
    (m.close name frames after).Below w := by
  unfold close
  split
  · exact below_ask hm h _
  · exact below_raise hm hafter _

theorem framesWeight_splitAsync (frames : List Frame) :
    framesWeight (splitAsync frames).1 + framesWeight (splitAsync frames).2 =
      framesWeight frames := by
  induction frames with
  | nil => rfl
  | cons f rest ih =>
    cases f <;> simp only [splitAsync, framesWeight_cons, framesWeight_nil] at ih ⊢ <;> omega

theorem below_await (hm : m.Tame) (h : m.load + framesWeight frames + 5 < w) (v : Value) :
    (Turn.next (m.await v frames)).Below w := by
  have hsplit := framesWeight_splitAsync frames
  have hpromise := costs_promiseOf m v
  have hwait :=
    costs_whenSettled (m.promiseOf v).1 (m.promiseOf v).2 (.resume (splitAsync frames).1)
  have hload :
    ((m.promiseOf v).1.whenSettled (m.promiseOf v).2 (.resume (splitAsync frames).1)).load ≤
      m.load + (2 + (framesWeight (splitAsync frames).1 + 2)) := (hpromise.trans hwait).load
  exact below_deliver (hwait.tame (hpromise.tame hm)) (by omega) _

theorem below_asking (hm : m.Tame) (h : m.load + framesWeight frames + 17 ≤ w) (b : Binding)
    (args : List Value) :
    (m.asking b args frames).Below w := by
  unfold asking
  split
  · exact below_raise hm (by omega) _
  · split
    · split
      · exact below_ask hm (by simp only [framesWeight_cons, Frame.weight]; omega) _
      · exact below_raise hm (by omega) _
    · refine below_ask hm ?_ _
      split
      · omega
      · simp only [framesWeight_cons, Frame.weight]
        omega

theorem below_callBinding (hm : m.Tame) (h : m.load + framesWeight frames + 20 ≤ w) (b : Binding)
    (args : List Value) : (m.callBinding b args frames).Below w := by
  rw [callBinding_eq]
  split
  · have hcosts := costs_pending m
    have hload := hcosts.load
    refine below_asking (hcosts.tame hm) ?_ b args
    simp only [framesWeight_cons, Frame.weight]
    omega
  · exact below_asking hm (by omega) b args

theorem below_callFunction (hm : m.Tame) (h : m.load + framesWeight frames + 20 ≤ w)
    (callee : Callee) (this : Value) (args : List Value) :
    (m.callFunction callee this args frames).Below w := by
  unfold callFunction
  split
  · exact below_deliver hm (by omega) _
  · exact below_callBinding hm h _ _
  · have hcosts := costs_promiseOf m (Builtin.arg args 0)
    have hload := hcosts.load
    exact below_deliver (hcosts.tame hm) (by omega) _
  · have hcosts : m.Costs (m.newPromise (.settled (.error (Builtin.arg args 0)))).1 0 :=
      costs_newPromise m rfl fun outcome h => by
        cases h
        exact settled_error _
    have hload := hcosts.load
    exact below_deliver (hcosts.tame hm) (by omega) _
  · exact below_proceed hm (by omega) _

theorem below_callTarget (hm : m.Tame) (h : m.load + framesWeight frames + 20 ≤ w)
    (this target : Value) (args : List Value) : (m.callTarget this target args frames).Below w := by
  unfold callTarget
  split
  · exact below_callFunction hm h _ _ _
  · split
    · exact below_callFunction hm h _ _ _
    · exact below_raise hm (by omega) _
  · exact below_callFunction hm h _ _ _
  · exact below_raise hm (by omega) _

theorem framesWeight_unwind (frames : List Frame) :
    framesWeight (unwind frames) ≤ framesWeight frames := by
  induction frames with
  | nil => exact Nat.le_refl _
  | cons f rest ih =>
    cases f <;> simp only [unwind, framesWeight_cons] <;> omega

/-- A statement pays for all that it leads to. -/
theorem below_exec (hm : m.Tame) (step : Step)
    (h : m.load + framesWeight frames + 32 * step.size < w) : (m.exec frames step).Below w := by
  have hkeep : ∀ store await, framesWeight (.keep store await :: frames) ≤
      framesWeight frames + 6 := by
    intro store await
    rw [framesWeight_cons, Frame.weight]
    split <;> omega
  have hsize : 1 ≤ step.size := by cases step <;> simp only [Step.size] <;> omega
  cases step with
  | call path args store await =>
    have := hkeep store await
    simp only [exec]
    split
    · exact below_raise hm (by omega) _
    · split
      · exact below_raise hm (by omega) _
      · exact below_callTarget hm (by omega) _ _ _
  | test path title kind steps store await =>
    have := hkeep store await
    rw [Step.size] at h
    simp only [exec]
    split
    · exact below_raise hm (by omega) _
    · split
      · exact below_raise hm (by omega) _
      · split
        · split
          · exact below_ask hm (by rw [framesWeight_cons, Frame.weight]; omega) _
          · exact below_raise hm (by omega) _
          · exact below_raise hm (by omega) _
        · exact below_callTarget hm (by omega) _ _ _
  | attempt steps handler =>
    rw [Step.size] at h
    exact below_deliver hm (by simp only [framesWeight_cons, Frame.weight]; omega) _
  | throw e =>
    simp only [exec]
    split <;> exact below_raise hm (by omega) _
  | leave e =>
    have := framesWeight_unwind frames
    simp only [exec]
    split
    · exact below_deliver hm (by omega) _
    · exact below_raise hm (by omega) _
  | assign e name =>
    simp only [exec]
    split
    · exact below_deliver (m := m.assign name _) ⟨hm.promises, hm.jobs⟩
        (by show m.load + _ + 1 < w; omega) _
    · exact below_raise hm (by omega) _
  | setGlobal name e =>
    simp only [exec]
    split
    · rename_i globals _
      exact below_deliver (m := { m with globals := globals }) ⟨hm.promises, hm.jobs⟩
        (by show m.load + _ + 1 < w; omega) _
    · exact below_raise hm (by omega) _
  | never =>
    simp only [exec]
    split
    · have hcosts := costs_pending m
      have hload := hcosts.load
      exact below_await (hcosts.tame hm) (by omega) _
    · exact below_raise hm (by omega) _
  | spin => exact below_raise hm (by omega) _
  | recurse => exact below_raise hm (by omega) _
  | allocate count =>
    simp only [exec]
    split
    · exact below_deliver hm (by omega) _
    · exact below_raise hm (by omega) _

theorem below_leaveBody (hm : m.Tame) (h : m.load + framesWeight frames + 15 ≤ w) (name v : Value) :
    (m.leaveBody name v frames).Below w := by
  unfold leaveBody
  split
  · split
    · have hcosts := costs_waitAnew m v (.closeTest name) 11 fun _ => rfl
      have hload := hcosts.load
      exact below_deliver (hcosts.tame hm) (by omega) _
    · exact below_raise hm (by omega) _
  · exact below_close hm (by simp only [framesWeight_cons, Frame.weight]; omega) (by omega) name

theorem below_deliverTo (hm : m.Tame) (f : Frame)
    (h : m.load + (f.weight + framesWeight frames) + 1 ≤ w) (v : Value) :
    (m.deliverTo v frames f).Below w := by
  cases f with
  | body steps =>
    cases steps with
    | nil => exact below_deliver hm (by simp only [Frame.weight] at h; omega) _
    | cons s rest =>
      refine below_exec hm s ?_
      simp only [Frame.weight, Step.sizeList, framesWeight_cons] at h ⊢
      omega
  | guard handler => exact below_deliver hm (by simp only [Frame.weight] at h; omega) _
  | keep store await =>
    cases await with
    | true =>
      simp only [Frame.weight, if_true] at h
      exact below_await hm
        (by simp only [framesWeight_cons, Frame.weight, Bool.false_eq_true, if_false]; omega) v
    | false =>
      simp only [Frame.weight, Bool.false_eq_true, if_false] at h
      cases store with
      | some name =>
        exact below_deliver (m := m.assign name v) ⟨hm.promises, hm.jobs⟩
          (by show m.load + _ + 1 < w; omega) _
      | none => exact below_deliver hm (by omega) _
  | discard => exact below_deliver hm (by simp only [Frame.weight] at h; omega) _
  | settle p =>
    have hcosts := costs_resolve m p v
    have hload := hcosts.load
    simp only [Frame.weight] at h
    exact below_deliver (hcosts.tame hm) (by omega) _
  | opened name kind steps =>
    simp only [Frame.weight] at h
    cases kind with
    | plain => exact below_deliver hm (by simp only [framesWeight_cons, Frame.weight]; omega) _
    | async =>
      have hcosts := costs_pending m
      have hload := hcosts.load
      exact below_deliver (hcosts.tame hm) (by simp only [framesWeight_cons, Frame.weight]; omega) _
  | openedValue name f =>
    simp only [Frame.weight] at h
    have hclose : framesWeight (.close name :: frames) = 14 + framesWeight frames :=
      framesWeight_cons _ _
    simp only [deliverTo]
    split
    · exact below_deliver hm (by omega) _
    · exact below_proceed hm (by omega) _
    · exact below_raise hm (by omega) _
  | close name =>
    simp only [Frame.weight] at h
    exact below_leaveBody hm (by omega) name v
  | closed outcome => exact below_proceed hm (by simp only [Frame.weight] at h; omega) _
  | closedLater outcome =>
    have hcosts := costs_waitAnew m v (.pass outcome) 3 fun _ => rfl
    have hload := hcosts.load
    simp only [Frame.weight] at h
    exact below_deliver (hcosts.tame hm) (by omega) _
  | capability p =>
    have hcosts := costs_resolve m p v
    have hload := hcosts.load
    simp only [Frame.weight] at h
    exact below_deliver (hcosts.tame hm) (by omega) _
  | top =>
    simp only [Frame.weight] at h
    simp only [deliverTo]
    split
    · rename_i p
      have hcosts := costs_whenSettled m p .finish
      have hload := hcosts.load
      rw [Handler.weight] at hload
      exact below_deliver (hcosts.tame hm) (by omega) _
    · exact below_deliver hm (by omega) _

theorem weight_pos (f : Frame) : 1 ≤ f.weight := by
  cases f <;> simp only [Frame.weight] <;> (try split) <;> omega

theorem below_raiseTo (hm : m.Tame) (f : Frame)
    (h : m.load + (f.weight + framesWeight frames) + 1 ≤ w) (e : Value) :
    (m.raiseTo e frames f).Below w := by
  have hpos := weight_pos f
  unfold raiseTo
  split
  · rename_i handler
    simp only [Frame.weight] at h
    split
    · exact below_raise hm (by omega) _
    · exact below_deliver (m := m.assign "e" e) ⟨hm.promises, hm.jobs⟩
        (by show m.load + _ + 1 < w; simp only [framesWeight_cons, Frame.weight]; omega) _
  · rename_i p
    have hcosts := costs_settle m p (settled_error e)
    have hload := hcosts.load
    exact below_deliver (hcosts.tame hm) (by omega) _
  · rename_i name
    simp only [Frame.weight] at h
    split
    · exact below_raise hm (by omega) _
    · exact below_close hm (by simp only [framesWeight_cons, Frame.weight]; omega) (by omega) name
  · rename_i p
    have hcosts := costs_settle m p (settled_error e)
    have hload := hcosts.load
    exact below_deliver (hcosts.tame hm) (by omega) _
  · exact below_raise hm (by omega) _

theorem finish_promises (m : Machine) (outcome : Except Value Value) :
    (m.finish outcome).promises = m.promises ∧ (m.finish outcome).jobs = m.jobs := by
  unfold finish
  dsimp only
  repeat' split
  all_goals exact ⟨rfl, rfl⟩

/-- A job pays for all that it leads to. -/
theorem below_runJob (hm : m.Tame) (j : Job)
    (hj : ∀ handler outcome, j = .react handler outcome → Settled outcome)
    (h : m.load + j.weight ≤ w) :
    (m.runJob j).Below w := by
  unfold runJob
  split
  · simp only [Job.weight, Handler.weight] at h
    exact below_proceed hm (by omega) _
  · simp only [Job.weight, Handler.weight] at h
    exact below_close hm (by simp only [framesWeight_cons, framesWeight_nil, Frame.weight]; omega)
      (by simp only [framesWeight_cons, framesWeight_nil, Frame.weight]; omega) _
  · rename_i outcome p _
    have hcosts := costs_complete m p outcome
    have hload := hcosts.load
    simp only [Job.weight, Handler.weight] at h
    exact below_idle (hcosts.tame hm) (by omega)
  · rename_i p outcome
    have hcosts := costs_complete_settled m p (hj _ _ rfl)
    have hload := hcosts.load
    simp only [Job.weight, Handler.weight] at h
    exact below_idle (hcosts.tame hm) (by omega)
  · rename_i outcome
    obtain ⟨hpromises, hjobs⟩ := finish_promises m outcome
    have hcosts : m.Costs (m.finish outcome) 0 := .of_same hpromises hjobs
    have hload := hcosts.load
    simp only [Job.weight, Handler.weight] at h
    exact below_idle (hcosts.tame hm) (by omega)
  · rename_i p v
    simp only [Job.weight] at h
    split
    · rename_i q
      have hcosts := costs_whenSettled m q (.forward p)
      have hload := hcosts.load
      rw [Handler.weight] at hload
      exact below_idle (hcosts.tame hm) (by omega)
    · have hseven : Settled (.ok (.number (.ofNat 7))) := fun v hv => by
        cases hv
        rfl
      have hcosts := costs_settle m p hseven
      have hload := hcosts.load
      exact below_idle (m := m.resolve p (.number (.ofNat 7))) (hcosts.tame hm) (by
        show (m.settle p (.ok (.number (.ofNat 7)))).load < w
        omega)
    · exact below_idle hm (by omega)

/-- Every turn makes the machine lighter. -/
theorem turn_below (hm : m.Tame) : m.turn.Below m.weight := by
  unfold turn
  split
  · rename_i v f frames hcontrol
    exact below_deliverTo hm f
      (by rw [weight, hcontrol, Control.weight, framesWeight_cons]; omega) v
  · rename_i e f frames hcontrol
    exact below_raiseTo hm f (by rw [weight, hcontrol, Control.weight, framesWeight_cons]; omega) e
  · rename_i hcontrol
    exact below_idle hm (by rw [weight, hcontrol, Control.weight]; omega)
  · rename_i hcontrol
    exact below_idle hm (by rw [weight, hcontrol, Control.weight]; omega)
  · exact trivial
  · rename_i hcontrol
    split
    · exact trivial
    · rename_i j rest hjobs
      have hrest : ({ m with jobs := rest } : Machine).Tame :=
        ⟨hm.promises, fun handler outcome h =>
          hm.jobs handler outcome (hjobs ▸ List.mem_cons_of_mem _ h)⟩
      have hj : ∀ handler outcome, j = .react handler outcome → Settled outcome :=
          fun handler outcome h =>
        hm.jobs handler outcome (by rw [hjobs, ← h]; exact List.mem_cons_self)
      refine below_runJob hrest j hj ?_
      have hload : m.load = ({ m with jobs := rest } : Machine).load + j.weight := by
        simp only [load, hjobs, List.map_cons, List.sum_cons]
        omega
      rw [weight, hload]
      omega

end Machine

end ScriptBench
