import ScriptBench.Proofs.Json.Records
import ScriptBench.Proofs.Script.Runs

/-!
How the end of a body is noted.

The body of a scope is an asynchronous function whose promise is the first one. The end of the scope
is noted under two global names when that promise is settled. A script is sparing if it sets neither
of them, nor hides the object that holds them.

1. Whatever a turn does, the first promise is watched, or its end is due, or it has been noted, as
   soon as the body has been left for the first time (`turn_ended`, `endState_comes`).
2. So a sparing body that has come to rest ended as its promise did. One that failed counts as
   settled if the text of what went wrong cannot be had (`ends_of_rests`, `Source.ends_of_makes`).
-/
namespace ScriptBench

open Machine Value

/-! ## Sparing scripts -/

/-- The names under which the end of a scope is noted, and the name of the object that holds
them. -/
def Machine.endNames : List Text16 := [.ofString doneFlag, .ofString errorSlot, Globals.self]

namespace Step

mutual

/-- The statement sets none of the names that tell of the end. -/
def Sparing : Step → Prop
  | .setGlobal name _ => ∀ t, keyOf name = .ok t → t ∉ endNames
  | .test _ _ _ body _ _ => AllSparing body
  | .attempt body handler => AllSparing body ∧ AllSparing handler
  | _ => True

def AllSparing : List Step → Prop
  | [] => True
  | s :: rest => Sparing s ∧ AllSparing rest

end

end Step

/-- A frame inside of a body, of sparing statements. -/
def Frame.Inner : Frame → Prop
  | .body steps | .guard steps | .opened _ _ steps => Step.AllSparing steps
  | .top => False
  | _ => True

def Handler.Inner : Handler → Prop
  | .resume frames => ∀ f ∈ frames, f.Inner
  | _ => True

/-- Frames that are inner ones, above the end of the body if it has not been left. -/
inductive Framed : Bool → List Frame → Prop where
  | nil : Framed false []
  | root : Framed true [.settle 0, .top]
  | cons {b : Bool} {f : Frame} {frames : List Frame} (hf : f.Inner) (h : Framed b frames) :
    Framed b (f :: frames)

/-- The same of what a machine does next. When the body is left its promise is handed over. -/
def Control.Framed (b : Bool) : Control → Prop
  | .deliver v frames => ScriptBench.Framed b frames ∨ b = true ∧ v = .promise 0 ∧ frames = [.top]
  | .raise _ frames => ScriptBench.Framed b frames
  | .asked _ => False
  | .idle => b = false

theorem framed_of_inner {frames : List Frame} (h : ∀ f ∈ frames, f.Inner) :
    Framed false frames := by
  induction frames with
  | nil => exact .nil
  | cons f rest ih =>
    exact .cons (h f List.mem_cons_self) (ih fun g hg => h g (List.mem_cons_of_mem _ hg))

/-! ## Notes -/

theorem lookup_setMember_self (name : Text16) (v : Value) (ms : List (Text16 × Value)) :
    lookup name (setMember name v ms) = some v := by
  induction ms with
  | nil => simp [lookup, setMember]
  | cons m rest ih =>
    obtain ⟨n, w⟩ := m
    unfold setMember
    split
    · rename_i heq
      simp [lookup, heq]
    · rename_i hne
      rw [← ih]
      simp [lookup, hne]

theorem lookup_setMember_of_ne {name other : Text16} (h : other ≠ name) (v : Value)
    (ms : List (Text16 × Value)) :
    lookup other (setMember name v ms) = lookup other ms := by
  induction ms with
  | nil => simp [lookup, setMember, h.symm]
  | cons m rest ih =>
    obtain ⟨n, w⟩ := m
    unfold setMember
    split
    · rename_i heq
      simp [lookup, heq, h.symm]
    · by_cases hn : n = other
      · simp [lookup, hn]
      · simp only [lookup, List.find?_cons, beq_eq_false_iff_ne.mpr hn]
        exact ih

theorem Globals.lookup_assign_of_ne {g globals : Globals} {name other : Text16} {v : Value}
    (hassign : g.assign name v = .ok globals) (h : other ≠ name) :
    lookup other globals = lookup other g := by
  unfold Globals.assign at hassign
  split at hassign
  · split at hassign
    · cases hassign
    · cases hassign
      exact lookup_setMember_of_ne h v g
  · cases hassign
  · cases hassign
  · split at hassign
    · cases hassign
      rfl
    · cases hassign

/-- Nothing has been noted. -/
structure Globals.Fresh (g : Globals) : Prop where
  self : lookup Globals.self g = none
  done : lookup (.ofString doneFlag) g = some (.bool false)
  error : lookup (.ofString errorSlot) g = none

/-- The globals with the word that the scope has ended. -/
def Globals.flagged (g : Globals) : Globals := setMember (.ofString doneFlag) (.bool true) g

/-- The globals with an end noted: what went wrong too, if its text can be had. -/
def Globals.ended (g : Globals) : Except Value Value → Globals
  | .ok _ => g.flagged
  | .error e =>
    match failureText g.flagged e with
    | .ok t => setMember (.ofString errorSlot) t g.flagged
    | .error _ => g.flagged

/-- The end has been noted with an outcome. What went wrong is the text it had, at the time, in a
machine that the first one came to, if it had any. -/
structure Globals.Noted (first : Machine) (g : Globals) (outcome : Except Value Value) : Prop where
  self : lookup Globals.self g = none
  done : lookup (.ofString doneFlag) g = some (.bool true)
  ok : ∀ v, outcome = .ok v → lookup (.ofString errorSlot) g = none
  error : ∀ e, outcome = .error e → ∃ m, first.Comes m ∧
    lookup (.ofString errorSlot) g = (failureText m.globals.flagged e).toOption

namespace Machine

/-- The end is noted by none but the first promise. -/
structure Guarded (m : Machine) : Prop where
  handlers : ∀ p hs, m.promises[p]? = some (.pending hs) → ∀ h ∈ hs, h.Inner ∧ (h = .finish → p = 0)
  jobs : ∀ h outcome, .react h outcome ∈ m.jobs →
    h.Inner ∧ (h = .finish → m.promises[0]? = some (.settled outcome))

/-- Nothing watches the first promise yet. -/
def Unwatched (m : Machine) : Prop := 0 < m.promises.length ∧ m.globals.Fresh

/-- The first promise has been handed over. -/
inductive Watched (first m : Machine) : Prop where
  | pending {hs : List Handler} (hpromise : m.promises[0]? = some (.pending hs))
    (hfinish : .finish ∈ hs)
    (hfresh : m.globals.Fresh)
  | due {outcome : Except Value Value} (hpromise : m.promises[0]? = some (.settled outcome))
    (hjob : .react .finish outcome ∈ m.jobs) (hfresh : m.globals.Fresh)
  | noted {outcome : Except Value Value} (hpromise : m.promises[0]? = some (.settled outcome))
    (hnoted : m.globals.Noted first outcome)

/-- What is true of the end in one machine is true of it in the other. -/
structure Keeps (first m m' : Machine) : Prop where
  guarded : m.Guarded → m'.Guarded
  unwatched : m.Guarded → m.Unwatched → m'.Unwatched
  watched : m.Guarded → Watched first m → Watched first m'

variable {first m m' : Machine}

theorem Keeps.trans {m'' : Machine} (h : Keeps first m m') (h' : Keeps first m' m'') :
    Keeps first m m'' where
  guarded hm := h'.guarded (h.guarded hm)
  unwatched hm hopen := h'.unwatched (h.guarded hm) (h.unwatched hm hopen)
  watched hm hafter := h'.watched (h.guarded hm) (h.watched hm hafter)

theorem Guarded.of_same (hm : m.Guarded) (hpromises : m'.promises = m.promises)
    (hjobs : m'.jobs = m.jobs) :
    m'.Guarded :=
  ⟨hpromises ▸ hm.handlers, by rw [hpromises, hjobs]; exact hm.jobs⟩

theorem Keeps.of_same (hpromises : m'.promises = m.promises) (hjobs : m'.jobs = m.jobs)
    (hglobals : m'.globals = m.globals) : Keeps first m m' where
  guarded hm := hm.of_same hpromises hjobs
  unwatched _ hopen := by rw [Unwatched, hpromises, hglobals]; exact hopen
  watched _ hafter := by
    cases hafter with
    | pending hpromise hfinish hfresh =>
      exact .pending (hpromises ▸ hpromise) hfinish (hglobals ▸ hfresh)
    | due hpromise hjob hfresh =>
      exact .due (hpromises ▸ hpromise) (hjobs ▸ hjob) (hglobals ▸ hfresh)
    | noted hpromise hnoted => exact .noted (hpromises ▸ hpromise) (hglobals ▸ hnoted)

theorem Keeps.refl (m : Machine) : Keeps first m m := .of_same rfl rfl rfl

/-! ## Promises -/

theorem keeps_adopt (m : Machine) (p : Nat) (v : Value) :
    Keeps first m (m.enqueue [.adopt p v]) where
  guarded hm := ⟨hm.handlers, fun h outcome hjob => by
    rcases List.mem_append.mp hjob with hjob | hjob
    · exact hm.jobs h outcome hjob
    · cases List.mem_singleton.mp hjob⟩
  unwatched _ hopen := hopen
  watched _ hafter := by
    cases hafter with
    | pending hpromise hfinish hfresh => exact .pending hpromise hfinish hfresh
    | due hpromise hjob hfresh => exact .due hpromise (List.mem_append_left _ hjob) hfresh
    | noted hpromise hnoted => exact .noted hpromise hnoted

theorem keeps_newPromise (m : Machine) {state : PromiseState}
    (hstate : ∀ h hs, state = .pending (h :: hs) → False) :
    Keeps first m (m.newPromise state).1 := by
  have hkept : ∀ {st : PromiseState}, m.promises[0]? = some st →
      (m.promises ++ [state])[0]? = some st := by
    intro st hst
    rw [List.getElem?_append_left (List.getElem?_eq_some_iff.mp hst).1, hst]
  refine ⟨fun hm => ⟨fun p hs hp h hh => ?_, fun h outcome hjob => ?_⟩, fun _ hopen =>
    ?_, fun _ hafter => ?_⟩
  · by_cases hlt : p < m.promises.length
    · rw [newPromise, List.getElem?_append_left hlt] at hp
      exact hm.handlers p hs hp h hh
    · have hlast : state = .pending hs := by
        rw [newPromise, List.getElem?_append_right (Nat.le_of_not_lt hlt)] at hp
        exact List.mem_singleton.mp (List.mem_of_getElem? hp) ▸ rfl
      cases hs with
      | nil => cases hh
      | cons h' hs' => exact (hstate h' hs' hlast).elim
  · obtain ⟨hinner, hfinish⟩ := hm.jobs h outcome hjob
    exact ⟨hinner, fun heq => hkept (hfinish heq)⟩
  · refine ⟨?_, hopen.2⟩
    rw [newPromise, List.length_append]
    exact Nat.lt_add_right _ hopen.1
  · cases hafter with
    | pending hpromise hfinish hfresh => exact .pending (hkept hpromise) hfinish hfresh
    | due hpromise hjob hfresh => exact .due (hkept hpromise) hjob hfresh
    | noted hpromise hnoted => exact .noted (hkept hpromise) hnoted

theorem keeps_pending (m : Machine) : Keeps first m (m.newPromise (.pending [])).1 :=
  keeps_newPromise m fun h hs heq => by cases heq

theorem getElem?_set_cases {α : Type} {xs : List α} {p q : Nat} {x y : α}
    (h : (xs.set p x)[q]? = some y) :
    q = p ∧ y = x ∨ q ≠ p ∧ xs[q]? = some y := by
  by_cases hq : p = q
  · subst hq
    have hlt : p < xs.length := by
      have := (List.getElem?_eq_some_iff.mp h).1
      rwa [List.length_set] at this
    rw [List.getElem?_set_self hlt] at h
    exact .inl ⟨rfl, (Option.some.inj h).symm⟩
  · rw [List.getElem?_set_ne hq] at h
    exact .inr ⟨fun heq => hq heq.symm, h⟩

theorem settled_set {ps : List PromiseState} {p q : Nat} {handlers : List Handler}
    {outcome : Except Value Value} (hp : ps[p]? = some (.pending handlers))
    (hq : ps[q]? = some (.settled outcome)) (state : PromiseState) :
    (ps.set p state)[q]? = some (.settled outcome) := by
  have hne : p ≠ q := by
    rintro rfl
    rw [hp] at hq
    cases hq
  rw [List.getElem?_set_ne hne, hq]

theorem keeps_settle (m : Machine) (p : Nat) (outcome : Except Value Value) :
    Keeps first m (m.settle p outcome) := by
  unfold settle
  split
  · rename_i handlers hp
    have hlt : p < m.promises.length := (List.getElem?_eq_some_iff.mp hp).1
    have hself : (m.promises.set p (.settled outcome))[p]? = some (.settled outcome) :=
      List.getElem?_set_self hlt
    refine ⟨fun hm => ⟨fun q hs hq h hh => ?_, fun h o hjob => ?_⟩, fun _ hopen =>
      ?_, fun _ hafter => ?_⟩
    · obtain ⟨-, heq⟩ | ⟨-, hq⟩ := getElem?_set_cases hq
      · cases heq
      · exact hm.handlers q hs hq h hh
    · rcases List.mem_append.mp hjob with hjob | hjob
      · obtain ⟨hinner, hfinish⟩ := hm.jobs h o hjob
        exact ⟨hinner, fun heq => settled_set hp (hfinish heq) _⟩
      · obtain ⟨h', hh', heq⟩ := List.mem_map.mp hjob
        cases heq
        obtain ⟨hinner, hfinish⟩ := hm.handlers p handlers hp h hh'
        refine ⟨hinner, fun heq => ?_⟩
        obtain rfl := hfinish heq
        exact hself
    · exact ⟨by rw [List.length_set]; exact hopen.1, hopen.2⟩
    · cases hafter with
      | @pending hs hpromise hfinish hfresh =>
        by_cases hzero : p = 0
        · subst hzero
          rw [hp] at hpromise
          cases hpromise
          exact .due hself (List.mem_append_right _ (List.mem_map_of_mem hfinish)) hfresh
        · exact .pending ((List.getElem?_set_ne hzero).trans hpromise) hfinish hfresh
      | due hpromise hjob hfresh =>
        exact .due (settled_set hp hpromise _) (List.mem_append_left _ hjob) hfresh
      | noted hpromise hnoted => exact .noted (settled_set hp hpromise _) hnoted
  · exact .refl m

theorem keeps_resolve (m : Machine) (p : Nat) (v : Value) : Keeps first m (m.resolve p v) := by
  unfold resolve
  split
  · exact keeps_adopt m p v
  · exact keeps_settle m p _

theorem keeps_complete (m : Machine) (p : Nat) (outcome : Except Value Value) :
    Keeps first m (m.complete p outcome) := by
  cases outcome with
  | ok v => exact keeps_resolve m p v
  | error e => exact keeps_settle m p _

/-- A handler that is no note of the end waits anywhere, that note for the first promise. -/
theorem keeps_whenSettled (m : Machine) (p : Nat) {handler : Handler} (hinner : handler.Inner)
    (hfinish : handler = .finish → p = 0) : Keeps first m (m.whenSettled p handler) := by
  unfold whenSettled
  split
  · rename_i handlers hp
    have hlt : p < m.promises.length := (List.getElem?_eq_some_iff.mp hp).1
    refine ⟨fun hm => ⟨fun q hs hq h hh => ?_, fun h o hjob => ?_⟩, fun _ hopen =>
      ?_, fun _ hafter => ?_⟩
    · obtain ⟨rfl, heq⟩ | ⟨-, hq⟩ := getElem?_set_cases hq
      · cases heq
        rcases List.mem_append.mp hh with hh | hh
        · exact hm.handlers q handlers hp h hh
        · cases List.mem_singleton.mp hh
          exact ⟨hinner, hfinish⟩
      · exact hm.handlers q hs hq h hh
    · obtain ⟨hjobInner, hjobFinish⟩ := hm.jobs h o hjob
      exact ⟨hjobInner, fun heq => settled_set hp (hjobFinish heq) _⟩
    · exact ⟨by rw [List.length_set]; exact hopen.1, hopen.2⟩
    · cases hafter with
      | @pending hs hpromise hwatch hfresh =>
        by_cases hzero : p = 0
        · subst hzero
          rw [hp] at hpromise
          cases hpromise
          exact .pending (List.getElem?_set_self hlt) (List.mem_append_left _ hwatch) hfresh
        · exact .pending ((List.getElem?_set_ne hzero).trans hpromise) hwatch hfresh
      | due hpromise hjob hfresh => exact .due (settled_set hp hpromise _) hjob hfresh
      | noted hpromise hnoted => exact .noted (settled_set hp hpromise _) hnoted
  · rename_i outcome hp
    refine ⟨fun hm => ⟨hm.handlers, fun h o hjob => ?_⟩, fun _ hopen => hopen, fun _ hafter => ?_⟩
    · rcases List.mem_append.mp hjob with hjob | hjob
      · exact hm.jobs h o hjob
      · cases List.mem_singleton.mp hjob
        refine ⟨hinner, fun heq => ?_⟩
        obtain rfl := hfinish heq
        exact hp
    · cases hafter with
      | pending hpromise hwatch hfresh => exact .pending hpromise hwatch hfresh
      | due hpromise hjob hfresh => exact .due hpromise (List.mem_append_left _ hjob) hfresh
      | noted hpromise hnoted => exact .noted hpromise hnoted
  · exact .refl m

theorem keeps_promiseOf (m : Machine) (v : Value) : Keeps first m (m.promiseOf v).1 := by
  have hnew : Keeps first m ((m.newPromise (.pending [])).1.resolve m.promises.length v) :=
    (keeps_pending m).trans (keeps_resolve _ _ v)
  cases v with
  | promise p => exact .refl m
  | _ => exact hnew

theorem keeps_setGlobal (m : Machine) {name : Text16} {v : Value} {globals : Globals}
    (hassign : m.globals.assign name v = .ok globals) (hname : name ∉ endNames) :
    Keeps first m { m with globals := globals } := by
  have hother : ∀ n ∈ endNames, lookup n globals = lookup n m.globals := by
    intro n hn
    have hne : n ≠ name := fun heq => hname (heq ▸ hn)
    exact Globals.lookup_assign_of_ne hassign hne
  have hdone := hother (.ofString doneFlag) (by simp [endNames])
  have herror := hother (.ofString errorSlot) (by simp [endNames])
  have hself := hother Globals.self (by simp [endNames])
  have hfresh : m.globals.Fresh → globals.Fresh := fun h =>
    ⟨hself.trans h.self, hdone.trans h.done, herror.trans h.error⟩
  refine ⟨fun hm => ⟨hm.handlers, hm.jobs⟩, fun _ hopen => ⟨hopen.1, hfresh hopen.2⟩,
    fun _ hafter => ?_⟩
  cases hafter with
  | pending hpromise hfinish h => exact .pending hpromise hfinish (hfresh h)
  | due hpromise hjob h => exact .due hpromise hjob (hfresh h)
  | noted hpromise h =>
    refine .noted hpromise ⟨hself.trans h.self, hdone.trans h.done, fun v hv =>
      herror.trans (h.ok v hv),
      fun e he => ?_⟩
    obtain ⟨m', hcomes, htext⟩ := h.error e he
    exact ⟨m', hcomes, herror.trans htext⟩

theorem keeps_assign (m : Machine) (name : String) (v : Value) : Keeps first m (m.assign name v) :=
  .of_same rfl rfl rfl

/-! ## Turns -/

end Machine

/-- The machine that goes on keeps what is true of the end, and its frames are inner ones above the
end of the body if that has not been left. -/
def Turn.Keeps (first m : Machine) (b : Bool) : Turn → Prop
  | .next m' | .spin m' => Machine.Keeps first m m' ∧ m'.control.Framed b
  | .ask _ m' => Machine.Keeps first m m' ∧ ∃ frames, m'.control = .asked frames ∧ Framed b frames
  | .halt => False

namespace Machine

variable {first m m' : Machine} {b : Bool} {frames : List Frame}

theorem turn_deliver (h : Keeps first m m') (hframes : Framed b frames) (v : Value) :
    (Turn.next (m'.deliver v frames)).Keeps first m b :=
  ⟨h.trans (.of_same rfl rfl rfl), .inl hframes⟩

theorem turn_raise (h : Keeps first m m') (hframes : Framed b frames) (e : Value) :
    (Turn.next (m'.raise e frames)).Keeps first m b := ⟨h.trans (.of_same rfl rfl rfl), hframes⟩

theorem turn_ask (h : Keeps first m m') (hframes : Framed b frames) (r : HostRequest) :
    (m'.ask r frames).Keeps first m b := ⟨h.trans (.of_same rfl rfl rfl), frames, rfl, hframes⟩

theorem turn_proceed (h : Keeps first m m') (hframes : Framed b frames)
    (outcome : Except Value Value) :
    (Turn.next (m'.proceed outcome frames)).Keeps first m b := by
  cases outcome with
  | ok v => exact turn_deliver h hframes v
  | error e => exact turn_raise h hframes e

theorem turn_close {after : List Frame} (h : Keeps first m m') (hframes : Framed b frames)
    (hafter : Framed b after) (name : Value) : (m'.close name frames after).Keeps first m b := by
  unfold close
  split
  · exact turn_ask h hframes _
  · exact turn_raise h hafter _

/-- Frames up to the end of the innermost asynchronous function are inner ones. If that is the body,
its end is what is left. -/
theorem framed_splitAsync (h : Framed b frames) :
    (∀ f ∈ (splitAsync frames).1, f.Inner) ∧
      (Framed b (splitAsync frames).2 ∨
        b = true ∧ (splitAsync frames).1.getLast? = some (.settle 0) ∧
          (splitAsync frames).2 = [.top]) := by
  induction h with
  | nil => exact ⟨fun f hf => by simp [splitAsync] at hf, .inl .nil⟩
  | root => exact ⟨fun f hf => by simp [splitAsync] at hf; exact hf ▸ trivial, .inr ⟨rfl, rfl, rfl⟩⟩
  | @cons b f frames hf h ih =>
    by_cases hsettle : ∃ p, f = .settle p
    · obtain ⟨p, rfl⟩ := hsettle
      refine ⟨fun g hg => ?_, .inl h⟩
      simp only [splitAsync, List.mem_singleton] at hg
      exact hg ▸ trivial
    · have hsplit : splitAsync (f :: frames) =
          (f :: (splitAsync frames).1, (splitAsync frames).2) := by
        cases f <;> first | rfl | exact absurd ⟨_, rfl⟩ hsettle
      rw [hsplit]
      refine ⟨fun g hg => ?_, ?_⟩
      · rcases List.mem_cons.mp hg with rfl | hg
        · exact hf
        · exact ih.1 g hg
      · refine ih.2.imp_right fun hroot => ⟨hroot.1, ?_, hroot.2.2⟩
        rw [List.getLast?_cons, hroot.2.1]
        rfl

theorem turn_await (h : Keeps first m m') (hframes : Framed b frames) (v : Value) :
    (Turn.next (m'.await v frames)).Keeps first m b := by
  obtain ⟨hinner, houter⟩ := framed_splitAsync hframes
  have hwait : Keeps first m
      ((m'.promiseOf v).1.whenSettled (m'.promiseOf v).2 (.resume (splitAsync frames).1)) :=
    (h.trans (keeps_promiseOf m' v)).trans (keeps_whenSettled _ _ hinner fun heq => by cases heq)
  obtain houter | ⟨hb, hlast, houter⟩ := houter
  · exact turn_deliver hwait houter _
  · refine ⟨hwait.trans (.of_same rfl rfl rfl), .inr ⟨hb, ?_, houter⟩⟩
    rw [promiseOfFrames, hlast]

theorem turn_asking (h : Keeps first m m') (hframes : Framed b frames) (binding : Binding)
    (args : List Value) :
    (m'.asking binding args frames).Keeps first m b := by
  unfold asking
  split
  · exact turn_raise h hframes _
  · split
    · split
      · exact turn_ask h (.cons (by trivial) hframes) _
      · exact turn_raise h hframes _
    · refine turn_ask h ?_ _
      split
      · exact hframes
      · exact .cons (by trivial) hframes

theorem turn_callBinding (h : Keeps first m m') (hframes : Framed b frames) (binding : Binding)
    (args : List Value) : (m'.callBinding binding args frames).Keeps first m b := by
  rw [callBinding_eq]
  split
  · exact turn_asking (h.trans (keeps_pending m')) (.cons (by trivial) hframes) binding args
  · exact turn_asking h hframes binding args

theorem turn_callFunction (h : Keeps first m m') (hframes : Framed b frames) (callee : Callee)
    (this : Value) (args : List Value) :
    (m'.callFunction callee this args frames).Keeps first m b := by
  unfold callFunction
  split
  · exact turn_deliver h hframes _
  · exact turn_callBinding h hframes _ _
  · exact turn_deliver (h.trans (keeps_promiseOf m' _)) hframes _
  · exact turn_deliver (h.trans (keeps_newPromise m' fun _ _ heq => by cases heq)) hframes _
  · exact turn_proceed h hframes _

theorem turn_callTarget (h : Keeps first m m') (hframes : Framed b frames) (this target : Value)
    (args : List Value) : (m'.callTarget this target args frames).Keeps first m b := by
  unfold callTarget
  split
  · exact turn_callFunction h hframes _ _ _
  · split
    · exact turn_callFunction h hframes _ _ _
    · exact turn_raise h hframes _
  · exact turn_callFunction h hframes _ _ _
  · exact turn_raise h hframes _

theorem framed_unwind (h : Framed b frames) : Framed b (unwind frames) := by
  induction h with
  | nil => exact .nil
  | root => exact .root
  | @cons b f frames hf h ih =>
    cases f with
    | body _ => exact ih
    | guard _ => exact ih
    | _ => exact .cons hf h

/-- A sparing statement does to the end what its frames do. -/
theorem turn_exec (m : Machine) (hframes : Framed b frames) (step : Step) (hstep : step.Sparing) :
    (m.exec frames step).Keeps first m b := by
  cases step with
  | call path args store await =>
    simp only [exec]
    split
    · exact turn_raise (.refl m) hframes _
    · split
      · exact turn_raise (.refl m) hframes _
      · exact turn_callTarget (.refl m) (.cons (by trivial) hframes) _ _ _
  | test path title kind steps store await =>
    have hkept : Framed b (.keep store await :: frames) := .cons (by trivial) hframes
    simp only [exec]
    split
    · exact turn_raise (.refl m) hkept _
    · split
      · exact turn_raise (.refl m) hkept _
      · split
        · split
          · refine turn_ask (.refl m) (.cons ?_ hkept) _
            exact hstep
          · exact turn_raise (.refl m) hkept _
          · exact turn_raise (.refl m) hkept _
        · exact turn_callTarget (.refl m) hkept _ _ _
  | attempt steps handler =>
    have hguard : Framed b (.guard handler :: frames) := .cons hstep.2 hframes
    have hbody : Framed b (.body steps :: .guard handler :: frames) := .cons hstep.1 hguard
    exact turn_deliver (.refl m) hbody _
  | throw e =>
    simp only [exec]
    split <;> exact turn_raise (.refl m) hframes _
  | leave e =>
    simp only [exec]
    split
    · exact turn_deliver (.refl m) (framed_unwind hframes) _
    · exact turn_raise (.refl m) hframes _
  | assign e name =>
    simp only [exec]
    split
    · exact turn_deliver (keeps_assign m name _) hframes _
    · exact turn_raise (.refl m) hframes _
  | setGlobal name e =>
    simp only [exec]
    split
    · rename_i globals hset
      obtain ⟨v, -, hset⟩ := bind_eq_ok_iff.mp hset
      obtain ⟨t, hkey, hassign⟩ := bind_eq_ok_iff.mp hset
      exact turn_deliver (keeps_setGlobal m hassign (hstep t hkey)) hframes _
    · exact turn_raise (.refl m) hframes _
  | never =>
    simp only [exec]
    split
    · exact turn_await (keeps_pending m) hframes _
    · exact turn_raise (.refl m) hframes _
  | spin => exact turn_raise (.refl m) hframes _
  | recurse => exact turn_raise (.refl m) hframes _
  | allocate count =>
    simp only [exec]
    split
    · exact turn_deliver (.refl m) hframes _
    · exact turn_raise (.refl m) hframes _

theorem keeps_waitAnew (m : Machine) (v : Value) (handler : Nat → Handler)
    (hinner : ∀ q, (handler q).Inner) (hfinish : ∀ q, handler q ≠ .finish) :
    Keeps first m
      ((((m.promiseOf v).1.newPromise (.pending [])).1).whenSettled (m.promiseOf v).2
        (handler ((m.promiseOf v).1.newPromise (.pending [])).2)) :=
  ((keeps_promiseOf m v).trans (keeps_pending _)).trans
    (keeps_whenSettled _ _ (hinner _) fun heq => absurd heq (hfinish _))

theorem turn_leaveBody (m : Machine) (hframes : Framed b frames) (name v : Value) :
    (m.leaveBody name v frames).Keeps first m b := by
  unfold leaveBody
  split
  · split
    · exact turn_deliver
        (keeps_waitAnew m v (.closeTest name) (fun _ => trivial) fun _ heq => by cases heq)
        hframes _
    · exact turn_raise (.refl m) hframes _
  · exact turn_close (.refl m) (.cons (by trivial) hframes) hframes name

theorem turn_deliverTo (m : Machine) {f : Frame} (hf : f.Inner) (hframes : Framed b frames)
    (v : Value) :
    (m.deliverTo v frames f).Keeps first m b := by
  cases f with
  | body steps =>
    cases steps with
    | nil => exact turn_deliver (.refl m) hframes _
    | cons s rest =>
      have hrest : Framed b (.body rest :: frames) := .cons hf.2 hframes
      exact turn_exec m hrest s hf.1
  | guard handler => exact turn_deliver (.refl m) hframes _
  | keep store await =>
    cases await with
    | true => exact turn_await (.refl m) (.cons (by trivial) hframes) v
    | false =>
      cases store with
      | some name => exact turn_deliver (keeps_assign m name v) hframes _
      | none => exact turn_deliver (.refl m) hframes _
  | discard => exact turn_deliver (.refl m) hframes _
  | settle p => exact turn_deliver (keeps_resolve m p v) hframes _
  | opened name kind steps =>
    have hclose : Framed b (.close name :: frames) := .cons trivial hframes
    cases kind with
    | plain =>
      have hbody : Framed b (.body steps :: .close name :: frames) := .cons hf hclose
      exact turn_deliver (.refl m) hbody _
    | async =>
      have hbody : Framed b (.body steps :: .settle m.promises.length :: .close name :: frames) :=
        .cons hf (.cons trivial hclose)
      exact turn_deliver (keeps_pending m) hbody _
  | openedValue name f =>
    have hclose : Framed b (.close name :: frames) := .cons trivial hframes
    simp only [deliverTo]
    split
    · exact turn_deliver (.refl m) hclose _
    · exact turn_proceed (.refl m) hclose _
    · exact turn_raise (.refl m) hclose _
  | close name => exact turn_leaveBody m hframes name v
  | closed outcome => exact turn_proceed (.refl m) hframes _
  | closedLater outcome =>
    exact turn_deliver
      (keeps_waitAnew m v (.pass outcome) (fun _ => trivial) fun _ heq => by cases heq)
      hframes _
  | capability p => exact turn_deliver (keeps_resolve m p v) hframes _
  | top => exact hf.elim

theorem turn_raiseTo (m : Machine) {f : Frame} (hf : f.Inner) (hframes : Framed b frames)
    (e : Value) :
    (m.raiseTo e frames f).Keeps first m b := by
  unfold raiseTo
  split
  · split
    · exact turn_raise (.refl m) hframes _
    · rename_i handler _
      have hbody : Framed b (.body handler :: frames) := .cons hf hframes
      exact turn_deliver (keeps_assign m "e" e) hbody _
  · exact turn_deliver (keeps_settle m _ _) hframes _
  · split
    · exact turn_raise (.refl m) hframes _
    · exact turn_close (.refl m) (.cons (by trivial) hframes) hframes _
  · exact turn_deliver (keeps_settle m _ _) hframes _
  · exact turn_raise (.refl m) hframes _

/-! ## The note of the end -/

theorem self_ne_notes : Globals.self ≠ .ofString doneFlag ∧ Globals.self ≠ .ofString errorSlot ∧
    Text16.ofString errorSlot ≠ .ofString doneFlag := by
  decide

theorem assign_note {g : Globals} (hself : lookup Globals.self g = none) {name : Text16}
    (hname : name ∉ Globals.fixedNames) (v : Value) :
    g.assign name v = .ok (setMember name v g) := by
  unfold Globals.assign
  rw [hself, if_neg hname]

theorem finish_globals (m : Machine) (hself : lookup Globals.self m.globals = none)
    (outcome : Except Value Value) :
    (m.finish outcome).globals = m.globals.ended outcome := by
  have hdone : m.globals.assign (.ofString doneFlag) (.bool true) = .ok m.globals.flagged :=
    assign_note hself (by decide) _
  have hflagged : lookup Globals.self m.globals.flagged = none :=
    (lookup_setMember_of_ne self_ne_notes.1 _ _).trans hself
  have hknows : m.globals.knowsSelf = true := by rw [Globals.knowsSelf, hself]; rfl
  unfold finish
  simp only [hknows, if_true, hdone]
  cases outcome with
  | ok v => rfl
  | error e =>
    simp only [Globals.ended]
    cases htext : failureText m.globals.flagged e with
    | error _ => rfl
    | ok t =>
      have herror : m.globals.flagged.assign (.ofString errorSlot) t =
          .ok (setMember (.ofString errorSlot) t m.globals.flagged) :=
            assign_note hflagged (by decide) t
      simp only [herror]

theorem noted_finish (hcomes : first.Comes m') (hsame : m.globals = m'.globals)
    {outcome : Except Value Value} (h : m.globals.Fresh ∨ m.globals.Noted first outcome) :
    (m.finish outcome).globals.Noted first outcome := by
  have hself : lookup Globals.self m.globals = none := h.elim (·.self) (·.self)
  have hflagged : lookup Globals.self m.globals.flagged = none :=
    (lookup_setMember_of_ne self_ne_notes.1 _ _).trans hself
  have hdone : lookup (.ofString doneFlag) m.globals.flagged = some (.bool true) :=
    lookup_setMember_self _ _ _
  have herror : lookup (.ofString errorSlot) m.globals.flagged =
      lookup (.ofString errorSlot) m.globals :=
    lookup_setMember_of_ne self_ne_notes.2.2 _ _
  rw [finish_globals m hself outcome]
  cases outcome with
  | ok v =>
    simp only [Globals.ended]
    have hnone : lookup (.ofString errorSlot) m.globals = none :=
      h.elim (·.error) fun h => h.ok v rfl
    exact ⟨hflagged, hdone, fun _ _ => herror.trans hnone, fun e he => by cases he⟩
  | error e =>
    simp only [Globals.ended]
    cases htext : failureText m.globals.flagged e with
    | ok t =>
      refine ⟨(lookup_setMember_of_ne self_ne_notes.2.1 _ _).trans hflagged,
        (lookup_setMember_of_ne self_ne_notes.2.2.symm _ _).trans hdone, nofun, fun e' he => ?_⟩
      cases he
      exact ⟨m', hcomes, by rw [← hsame, htext]; exact lookup_setMember_self _ _ _⟩
    | error thrown =>
      refine ⟨hflagged, hdone, nofun, fun e' he => ?_⟩
      cases he
      rcases h with h | h
      · exact ⟨m', hcomes, by rw [← hsame, htext]; exact herror.trans h.error⟩
      · obtain ⟨m'', hcomes', htext'⟩ := h.error e rfl
        exact ⟨m'', hcomes', herror.trans htext'⟩

/-! ## Runs -/

/-- What is true of the end before the body is left, and after. -/
def Stage (first m : Machine) : Bool → Prop
  | true => m.Unwatched
  | false => Watched first m

/-- The end is unwatched while the body has not been left, and watched from then on. -/
structure EndState (first m : Machine) : Prop where
  guarded : m.Guarded
  stage : ∃ b, Stage first m b ∧ m.control.Framed b

theorem Keeps.stage (h : Keeps first m m') (hm : m.Guarded) (hstage : Stage first m b) :
    Stage first m' b := by
  cases b with
  | true => exact h.unwatched hm hstage
  | false => exact h.watched hm hstage

end Machine

/-- The machine that goes on is fit for its end. If none does, the one that turned rests. -/
def Turn.Ended (first m : Machine) : Turn → Prop
  | .next m' | .spin m' => Machine.EndState first m'
  | .ask _ m' => ∀ a, Machine.EndState first (m'.answer a)
  | .halt => m.control = .idle ∧ m.jobs = []

namespace Machine

variable {first m m' : Machine} {b : Bool} {frames : List Frame}

theorem endState_of_keeps (h : (Turn.next m').Keeps first m b) (hm : m.Guarded)
    (hstage : Stage first m b) :
    EndState first m' := ⟨h.1.guarded hm, b, h.1.stage hm hstage, h.2⟩

theorem ended_of_keeps {turn : Turn} (h : turn.Keeps first m b) (hm : m.Guarded)
    (hstage : Stage first m b) :
    turn.Ended first m := by
  cases turn with
  | next m' => exact endState_of_keeps h hm hstage
  | spin m' => exact endState_of_keeps h hm hstage
  | halt => exact h.elim
  | ask r m' =>
    obtain ⟨hkeeps, frames, hcontrol, hframes⟩ := h
    intro a
    unfold answer
    rw [hcontrol]
    cases a with
    | ok v => exact endState_of_keeps (turn_deliver hkeeps hframes _) hm hstage
    | error e => exact endState_of_keeps (turn_raise hkeeps hframes _) hm hstage

/-- Handing over the first promise has it watched. -/
theorem ended_handover (hm : m.Guarded) (hopen : m.Unwatched) :
    EndState first ((m.whenSettled 0 .finish).deliver .undefined []) := by
  have hkeeps : Keeps first m (m.whenSettled 0 .finish) :=
    keeps_whenSettled m 0 trivial fun _ => rfl
  have hguarded : (m.whenSettled 0 .finish).Guarded := hkeeps.guarded hm
  refine ⟨⟨hguarded.handlers, hguarded.jobs⟩, false, ?_, .inl .nil⟩
  obtain ⟨state, hstate⟩ : ∃ state, m.promises[0]? = some state :=
    ⟨_, List.getElem?_eq_getElem hopen.1⟩
  cases state with
  | pending hs =>
    have hwait : m.whenSettled 0 .finish =
        { m with promises := m.promises.set 0 (.pending (hs ++ [.finish])) } := by
      rw [whenSettled, hstate]
    rw [hwait]
    exact .pending (List.getElem?_set_self hopen.1) (by simp) hopen.2
  | settled outcome =>
    have hwait : m.whenSettled 0 .finish = m.enqueue [.react .finish outcome] := by
      rw [whenSettled, hstate]
    rw [hwait]
    exact .due hstate (by simp [deliver, enqueue]) hopen.2

theorem keeps_takeJob {j : Job} {rest : List Job} (hjobs : m.jobs = j :: rest)
    (hj : ∀ outcome, j ≠ .react .finish outcome) : Keeps first m { m with jobs := rest } where
  guarded hm :=
    ⟨hm.handlers, fun h outcome hmem => hm.jobs h outcome (hjobs ▸ List.mem_cons_of_mem _ hmem)⟩
  unwatched _ hopen := hopen
  watched _ hafter := by
    cases hafter with
    | pending hpromise hfinish hfresh => exact .pending hpromise hfinish hfresh
    | due hpromise hjob hfresh =>
      rw [hjobs] at hjob
      rcases List.mem_cons.mp hjob with heq | hrest
      · exact absurd heq.symm (hj _)
      · exact .due hpromise hrest hfresh
    | noted hpromise hnoted => exact .noted hpromise hnoted

theorem turn_idle (h : Keeps first m m') :
    (Turn.next { m' with control := .idle }).Keeps first m false :=
  ⟨h.trans (.of_same rfl rfl rfl), rfl⟩

/-- A job does to the end what its frames do, if it does not note it. -/
theorem turn_runJob (h : Keeps first m m') (j : Job)
    (hinner : ∀ handler outcome, j = .react handler outcome → handler.Inner)
    (hj : ∀ outcome, j ≠ .react .finish outcome) : (m'.runJob j).Keeps first m false := by
  unfold runJob
  split
  · exact turn_proceed h (framed_of_inner (hinner _ _ rfl)) _
  · exact turn_close h (.cons (by trivial) (.cons (by trivial) .nil)) (.cons (by trivial) .nil) _
  · exact turn_idle (h.trans (keeps_complete m' _ _))
  · exact turn_idle (h.trans (keeps_complete m' _ _))
  · exact absurd rfl (hj _)
  · split
    · exact turn_idle (h.trans (keeps_whenSettled m' _ trivial nofun))
    · exact turn_idle (h.trans (keeps_resolve m' _ _))
    · exact turn_idle h

theorem ended_finish (hcomes : first.Comes m') (hsame : m.globals = m'.globals) (hm : m.Guarded)
    {outcome : Except Value Value} (hpromise : m.promises[0]? = some (.settled outcome))
    (hglobals : m.globals.Fresh ∨ m.globals.Noted first outcome) :
    EndState first { m.finish outcome with control := .idle } := by
  obtain ⟨hpromises, hjobs⟩ := finish_promises m outcome
  have hnoted : Watched first { m.finish outcome with control := .idle } :=
    .noted (hpromises ▸ hpromise) (noted_finish hcomes hsame hglobals)
  exact ⟨hm.of_same hpromises hjobs, false, hnoted, rfl⟩

/-- A turn leaves a machine fit for its end. -/
theorem turn_ended (hcomes : first.Comes m) (h : EndState first m) : m.turn.Ended first m := by
  obtain ⟨hm, b, hstage, hcontrol⟩ := h
  unfold turn
  split
  · rename_i v f frames heq
    rw [heq] at hcontrol
    rcases hcontrol with hframes | ⟨rfl, rfl, hframes⟩
    · cases hframes with
      | root =>
        have hkeeps : Keeps first m ((m.resolve 0 v).deliver (.promise 0) [.top]) :=
          (keeps_resolve m 0 v).trans (.of_same rfl rfl rfl)
        exact ⟨hkeeps.guarded hm, true, hkeeps.stage hm hstage, .inr ⟨rfl, rfl, rfl⟩⟩
      | cons hf hframes => exact ended_of_keeps (turn_deliverTo m hf hframes v) hm hstage
    · cases hframes
      exact ended_handover hm hstage
  · rename_i e f frames heq
    rw [heq] at hcontrol
    cases hcontrol with
    | root =>
      have hkeeps : Keeps first m ((m.settle 0 (.error e)).deliver (.promise 0) [.top]) :=
        (keeps_settle m 0 _).trans (.of_same rfl rfl rfl)
      exact ⟨hkeeps.guarded hm, true, hkeeps.stage hm hstage, .inr ⟨rfl, rfl, rfl⟩⟩
    | cons hf hframes => exact ended_of_keeps (turn_raiseTo m hf hframes e) hm hstage
  · rename_i heq
    rw [heq] at hcontrol
    obtain hframes | ⟨-, -, hframes⟩ := hcontrol
    · cases hframes
      exact ended_of_keeps (turn_idle (.refl m)) hm hstage
    · cases hframes
  · rename_i heq
    rw [heq] at hcontrol
    cases hcontrol
    exact ended_of_keeps (turn_idle (.refl m)) hm hstage
  · rename_i heq
    rw [heq] at hcontrol
    exact hcontrol.elim
  · rename_i heq
    rw [heq] at hcontrol
    cases hcontrol
    split
    · rename_i hjobs
      exact ⟨heq, hjobs⟩
    · rename_i j rest hjobs
      have hinner : ∀ handler outcome, j = .react handler outcome → handler.Inner := by
        rintro handler outcome rfl
        exact (hm.jobs handler outcome (hjobs ▸ List.mem_cons_self)).1
      by_cases hfinish : ∃ outcome, j = .react .finish outcome
      · obtain ⟨outcome, rfl⟩ := hfinish
        have hpromise : m.promises[0]? = some (.settled outcome) :=
          (hm.jobs .finish outcome (hjobs ▸ List.mem_cons_self)).2 rfl
        have hrest : ({ m with jobs := rest } : Machine).Guarded :=
          ⟨hm.handlers, fun h o hmem => hm.jobs h o (hjobs ▸ List.mem_cons_of_mem _ hmem)⟩
        refine ended_finish (m := { m with jobs := rest }) hcomes rfl hrest hpromise ?_
        cases hstage with
        | pending hpending _ _ => rw [hpromise] at hpending; cases hpending
        | due _ _ hfresh => exact .inl hfresh
        | noted hsettled hnoted =>
          rw [hpromise] at hsettled
          cases hsettled
          exact .inr hnoted
      · have hother : ∀ outcome, j ≠ .react .finish outcome := fun outcome heq =>
          hfinish ⟨outcome, heq⟩
        exact ended_of_keeps (turn_runJob (keeps_takeJob hjobs hother) j hinner hother) hm hstage

/-- So does a run, from the start of a sparing body. -/
theorem endState_comes {memoryLimit : Nat} {steps : List Step} (hsteps : Step.AllSparing steps)
    (h : (start memoryLimit steps).Comes m) : EndState (start memoryLimit steps) m := by
  induction h with
  | refl =>
    refine ⟨⟨fun p hs hp h hh => ?_, nofun⟩, true, ⟨Nat.one_pos, ?_⟩, .inl (.cons hsteps .root)⟩
    · have hlast : PromiseState.pending hs = .pending [] :=
        List.mem_singleton.mp (List.mem_of_getElem? hp)
      cases hlast
      cases hh
    · exact ⟨rfl, rfl, rfl⟩
  | next h hturn ih =>
    have hended := turn_ended h ih
    rwa [hturn] at hended
  | answer h hturn a ih =>
    have hended := turn_ended h ih
    rw [hturn] at hended
    exact hended a
  | interrupt h hturn ih =>
    have hended := turn_ended h ih
    rwa [hturn] at hended

/-! ## Rest -/

/-- The text of what went wrong, as far as the host can read it. -/
def failureMessage? (g : Globals) (e : Value) : Option String :=
  match failureText g.flagged e with
  | .ok (.string t) => t.toString?
  | _ => none

/-- How a body that has come to rest ended. -/
inductive Ends (scope : String) (first m : Machine) : Outcome → Prop where
  | returned {v : Value} (hpromise : m.promises[0]? = some (.settled (.ok v))) :
    Ends scope first m .settled
  | threw {e : Value} {m' : Machine} {message : String}
    (hpromise : m.promises[0]? = some (.settled (.error e))) (hcomes : first.Comes m')
    (htext : failureMessage? m'.globals e = some message) :
    Ends scope first m (.failed message)
  /-- It threw what has no text that the host can read. -/
  | unread {e : Value} {m' : Machine} (hpromise : m.promises[0]? = some (.settled (.error e)))
    (hcomes : first.Comes m') (htext : failureMessage? m'.globals e = none) :
    Ends scope first m .settled
  | stalled {handlers : List Handler} (hpromise : m.promises[0]? = some (.pending handlers)) :
    Ends scope first m
      (.failed ("script `" ++ scope ++ "` never settled (awaiting a promise nothing resolves)"))

theorem outcome_of_noted (scope : String) {g : Globals} {outcome : Except Value Value}
    (hglobals : m.globals = g) (hnoted : g.Noted first outcome) :
    (∃ v, outcome = .ok v ∧ m.outcome scope = .settled) ∨
      ∃ e m', outcome = .error e ∧ first.Comes m' ∧
        m.outcome scope = ((failureMessage? m'.globals e).map Outcome.failed).getD .settled := by
  cases outcome with
  | ok v =>
    refine .inl ⟨v, rfl, ?_⟩
    simp only [Machine.outcome, hglobals, hnoted.done, hnoted.ok v rfl, Option.getD_none,
      Option.getD_some]
  | error e =>
    obtain ⟨m', hcomes, herror⟩ := hnoted.error e rfl
    refine .inr ⟨e, m', rfl, hcomes, ?_⟩
    simp only [Machine.outcome, hglobals, hnoted.done, herror, Option.getD_some, failureMessage?]
    cases failureText m'.globals.flagged e with
    | error _ => rfl
    | ok t =>
      cases t with
      | string t =>
        simp only [Except.toOption, Option.getD_some]
        cases t.toString? <;> rfl
      | _ => rfl

/-- A sparing body that has come to rest ended as its promise did. -/
theorem ends_of_rests {memoryLimit : Nat} {steps : List Step} (scope : String)
    (hsteps : Step.AllSparing steps) (hcomes : (start memoryLimit steps).Comes m)
    (hrests : m.turn = .halt) :
    Ends scope (start memoryLimit steps) m (m.outcome scope) := by
  have hend := endState_comes hsteps hcomes
  have hturn := turn_ended hcomes hend
  rw [hrests] at hturn
  obtain ⟨hidle, hjobs⟩ := hturn
  obtain ⟨hm, b, hstage, hcontrol⟩ := hend
  rw [hidle] at hcontrol
  cases hcontrol
  cases hstage with
  | pending hpromise _ hfresh =>
    have hnever : m.outcome scope =
        .failed ("script `" ++ scope ++
            "` never settled (awaiting a promise nothing resolves)") := by
      simp only [Machine.outcome, hfresh.done, hfresh.error, Option.getD_none, Option.getD_some]
    rw [hnever]
    exact .stalled hpromise
  | due _ hjob _ =>
    rw [hjobs] at hjob
    cases hjob
  | noted hpromise hnoted =>
    obtain ⟨v, rfl, houtcome⟩ | ⟨e, m', rfl, hcomes', houtcome⟩ := outcome_of_noted scope rfl hnoted
    · rw [houtcome]
      exact .returned hpromise
    · rw [houtcome]
      cases htext : failureMessage? m'.globals e with
      | none => exact .unread hpromise hcomes' htext
      | some message => exact .threw hpromise hcomes' htext
end Machine

/-! ## Sources -/

namespace Source

open Machine

/-- The source sets none of the names that tell of the end. -/
def Sparing : Source → Prop
  | .body steps => Step.AllSparing steps
  | _ => True

/-- How a source ends. -/
inductive Ends (memoryLimit : Nat) (scope : String) : Source → Outcome → Prop where
  | refused {source : Source} (hlimit : memoryLimit ≤ 1) :
    Ends memoryLimit scope source (.refused "Allocation failed while creating object")
  | malformed : Ends memoryLimit scope .malformed (.failed "SyntaxError: expecting ';'")
  /-- It threw outside of the body, the value of the operand or what that threw itself. -/
  | thrown {e : Expr} {v : Value}
    (hvalue : Machine.eval [] [] e = .ok v ∨ Machine.eval [] [] e = .error v) :
    Ends memoryLimit scope (.throwsOutside e) (.failed (Program.thrownText v))
  | body {steps : List Step} {m : Machine} {outcome : Outcome}
    (hcomes : (start memoryLimit steps).Comes m) (hrests : m.turn = .halt)
    (hends : Machine.Ends scope (start memoryLimit steps) m outcome) :
    Ends memoryLimit scope (.body steps) outcome

/-- A source ends as its body does, or before it has one. -/
theorem ends_of_makes {memoryLimit : Nat} {scope : String} {source : Source}
    {calls : List (String × String)} {outcome : Outcome} (hsparing : source.Sparing)
    (h : (Program.ofSource memoryLimit scope source).Makes calls (.finish outcome)) :
    Ends memoryLimit scope source outcome := by
  unfold Program.ofSource at h
  split at h
  · rename_i hlimit
    cases made_of_finish h
    exact .refused hlimit
  · cases source with
    | malformed =>
      cases made_of_finish h
      exact .malformed
    | throwsOutside e =>
      dsimp only at h
      split at h
      · rename_i v hvalue
        cases made_of_finish h
        exact .thrown (.inl hvalue)
      · rename_i v hvalue
        cases made_of_finish h
        exact .thrown (.inr hvalue)
    | body steps =>
      obtain ⟨m, hcomes, hrests, rfl⟩ := rests_of_makes h
      exact .body hcomes hrests (ends_of_rests scope hsparing hcomes hrests)
where
  made_of_finish {outcome : Outcome} {calls : List (String × String)} {p : Program}
      (h : (Program.finish outcome).Makes calls p) : .finish outcome = p := by
    induction h with
    | start => rfl
    | call _ _ ih => cases ih
    | interrupt _ ih => cases ih

end Source

end ScriptBench
