import Mathlib.Data.List.Basic
import ScriptBench.Proofs.Run.Moves

/-!
What a run comes to does not depend on who listens.

1. An execution does the same whether anybody listens or not, until it is over (`advance_muted`,
   `elapse_muted`). Then its report is settled, and those who listen decide only when it is handed
   out.
2. So the moves of a run fall into two kinds. Some are made for those who listen: they receive, they
   go away, or an execution that is over finishes telling so. Without listeners, and with all
   settled reports handed out, such a move changes nothing (`muted_hidden`). Every other move
   changes what is left of the run in a way that depends on what is left of it (`muted_step`).
3. Runs whose moves of the second kind are the same come to the same reports (`report_muted`,
   `runReport_muted`), for example when they have the same moves but for those of the listeners
   (`regardless_eq`).
-/
namespace ScriptBench

/-- The same world, with nobody who listens. -/
def World.muted (w : World) : World := { w with channel := none }

theorem Host.Heard.muted {α : Type} {h : Host} {f : Host → Host × α} (hf : h.Heard f) :
    f ⟨h.inst, h.world.muted⟩ = (⟨(f h).1.inst, (f h).1.world.muted⟩, (f h).2) := by
  obtain ⟨lines, -, -, hall⟩ := hf
  exact hall none

/-! ## Executions -/

namespace Execution

variable {s : Settings} {clock : Nat} {e : Execution} {w : World}

/-- The execution with its report, if it is over: nobody is left to be told. -/
def handedOut (s : Settings) (e : Execution) : Execution :=
  match e.phase with
  | .leaving status => { e with phase := .finished (e.inst.report s.now status) }
  | _ => e

theorem handedOut_of_status (h : e.status? = none) : e.handedOut s = e := by
  unfold handedOut
  split
  · rename_i status hphase
    simp [status?, hphase] at h
  · rfl

theorem handedOut_of_report {report : InstanceReport} (h : e.report? = some report) :
    e.handedOut s = e := by
  unfold handedOut
  split
  · rename_i status hphase
    simp [report?, hphase] at h
  · rfl

theorem status?_handedOut (s : Settings) (e : Execution) : (e.handedOut s).status? = e.status? := by
  unfold handedOut
  split
  · rename_i status hphase
    simp [status?, hphase, Instance.report]
  · rfl

theorem handedOut_handedOut (s : Settings) (e : Execution) :
    (e.handedOut s).handedOut s = e.handedOut s := by
  cases hphase : e.phase <;> simp [handedOut, hphase]

theorem finish_muted (s : Settings) (e : Execution) (w : World) (result : Except ScriptError Unit) :
    e.finish s w.muted result = ((e.finish s w result).1, (e.finish s w result).2.muted) := by
  simp only [finish]
  split <;> rfl

/-- An execution that is not over moves the same whoever listens. -/
theorem advance_muted (h : e.status? = none) (clock : Nat) (w : World) :
    e.advance s clock w.muted = ((e.advance s clock w).1, (e.advance s clock w).2.muted) := by
  unfold advance
  dsimp only
  cases hphase : e.phase with
  | finished report => simp [status?, hphase] at h
  | leaving status => simp [status?, hphase] at h
  | between =>
    cases e.chain with
    | nil => exact finish_muted s e w _
    | cons scope rest =>
      dsimp only
      split
      · exact finish_muted s e w _
      · rfl
  | running p =>
    cases p with
    | call name args next =>
      have hcall := (Host.heard_call (s := s) (h := ⟨e.inst, w⟩) e.cancelled name args).muted
      dsimp only at hcall ⊢
      rw [hcall]
      rcases (⟨e.inst, w⟩ : Host).call s e.cancelled name args with ⟨h', a | on⟩ <;> rfl
    | finish outcome =>
      dsimp only
      split
      · rfl
      · exact finish_muted s e w _
    | spin p =>
      dsimp only
      split <;> rfl
  | suspended on since next =>
    have hinterrupt := (Host.heard_interrupt (h := ⟨e.inst, w⟩) on).muted
    have hconclude := (Host.heard_conclude (s := s) (h := ⟨e.inst, w⟩) on).muted
    dsimp only at hinterrupt hconclude ⊢
    split
    · rw [hinterrupt]
      rfl
    · cases on with
      | sleep ms => rfl
      | network => rfl
      | wait key id =>
        change (if ((w.store.resume id).result? id).isSome = true then _ else _) = _
        by_cases hready : ((w.store.resume id).result? id).isSome = true
        · rw [if_pos hready, hconclude]
          simp only [hready, if_true]
          rfl
        · rw [if_neg hready]
          simp only [hready]
          rfl

theorem elapse_muted (s : Settings) (clock : Nat) (e : Execution) (w : World) :
    e.elapse s clock w.muted = ((e.elapse s clock w).1, (e.elapse s clock w).2.muted) := by
  unfold elapse
  split
  · rename_i on _ _ _ _ _
    have hconclude := (Host.heard_conclude (s := s) (h := ⟨e.inst, w⟩) on).muted
    dsimp only at hconclude
    split
    · rw [hconclude]
      rfl
    · rfl
  · rfl

theorem advance_over {status : Status} (h : e.status? = some status) (clock : Nat) (w : World) :
    (e.advance s clock w).1.handedOut s = e.handedOut s ∧ (e.advance s clock w).2 = w := by
  unfold advance
  dsimp only
  cases hphase : e.phase with
  | finished report => exact ⟨rfl, rfl⟩
  | leaving status =>
    dsimp only
    split
    · exact ⟨rfl, rfl⟩
    · exact ⟨by simp [handedOut, hphase], rfl⟩
  | between => simp [status?, hphase] at h
  | running p => simp [status?, hphase] at h
  | suspended on since next => simp [status?, hphase] at h

theorem timeless_over {status : Status} (h : e.status? = some status) (clock : Nat) (w : World) :
    e.elapse s clock w = (e, w) ∧ e.expire s clock = e := by
  cases hphase : e.phase with
  | finished report => simp [elapse, expire, due?, limit?, hphase]
  | leaving status => simp [elapse, expire, due?, limit?, hphase]
  | between => simp [status?, hphase] at h
  | running p => simp [status?, hphase] at h
  | suspended on since next => simp [status?, hphase] at h

end Execution

/-! ## Runs -/

namespace Run

open Execution

variable {s : Settings} {r : Run} {i : Nat}

/-- What is left of a run when nobody listens and all reports are handed out. -/
def muted (s : Settings) (r : Run) : Run :=
  { r with executions := r.executions.map (·.handedOut s), world := r.world.muted }

/-- Whether a move is made whoever listens. -/
def isRegardless (r : Run) : Move → Bool
  | .receive => false
  | .unwatch => false
  | .advance i => (r.executions[i]?.bind status?).isNone
  | _ => true

/-- The moves that are made whoever listens. -/
def regardless (s : Settings) : Run → List Move → List Move
  | _, [] => []
  | r, m :: rest =>
    if r.isRegardless m then m :: regardless s (r.step s m) rest else regardless s (r.step s m) rest

theorem getElem?_muted (s : Settings) (r : Run) (i : Nat) :
    (r.muted s).executions[i]? = r.executions[i]?.map (·.handedOut s) := List.getElem?_map

theorem report?_muted {report : InstanceReport} (h : r.report? i = some report) :
    (r.muted s).report? i = some report := by
  obtain ⟨e, he, hreport⟩ := Option.bind_eq_some_iff.mp h
  rw [report?, getElem?_muted, he, Option.map_some, Option.bind_some, handedOut_of_report hreport,
    hreport]

theorem isRegardless_muted (s : Settings) (r : Run) (m : Move) :
    (r.muted s).isRegardless m = r.isRegardless m := by
  cases m with
  | advance i =>
    rw [isRegardless, isRegardless, getElem?_muted]
    cases r.executions[i]? with
    | none => rfl
    | some e => simp only [Option.map_some, Option.bind_some, status?_handedOut]
  | _ => rfl

/-- What an execution does is the same in what is left of the run, if it is so for the execution
itself. -/
theorem muted_act {f : Execution → World → Execution × World}
    (hf : ∀ e, r.executions[i]? = some e →
      (f (e.handedOut s) r.world.muted).1.handedOut s = (f e r.world).1.handedOut s ∧
        (f (e.handedOut s) r.world.muted).2.muted = (f e r.world).2.muted) :
    ((r.muted s).act i f).muted s = (r.act i f).muted s := by
  unfold act
  rw [getElem?_muted]
  have hidempotent : (r.executions.map (·.handedOut s)).map (·.handedOut s) =
      r.executions.map (·.handedOut s) := by
    simp [handedOut_handedOut]
  cases he : r.executions[i]? with
  | none =>
    dsimp only [Option.map_none, muted]
    rw [hidempotent]
    rfl
  | some e =>
    obtain ⟨hexecution, hworld⟩ := hf e he
    dsimp only [Option.map_some, muted]
    rw [List.map_set, List.map_set, hidempotent, hexecution, hworld]

/-- What is left of a run does not change by a move that is made for those who listen. -/
theorem muted_hidden {m : Move} (h : r.isRegardless m = false) :
    (r.step s m).muted s = r.muted s := by
  cases m with
  | receive => rfl
  | unwatch => rfl
  | advance i =>
    rw [step, act]
    cases he : r.executions[i]? with
    | none => rfl
    | some e =>
      obtain ⟨status, hstatus⟩ : ∃ status, e.status? = some status := by
        simpa [isRegardless, he, Option.isSome_iff_exists] using h
      obtain ⟨hexecution, hworld⟩ := advance_over (s := s) hstatus r.clock r.world
      obtain ⟨hi, rfl⟩ := List.getElem?_eq_some_iff.mp he
      dsimp only [muted]
      -- the execution is put where it has been
      rw [List.map_set, hexecution, hworld, ← List.map_set, List.set_getElem_self]
  | start setup chain => cases h
  | elapse i => cases h
  | expire i => cases h
  | cancel i => cases h
  | share key value => cases h
  | pass ms => cases h

/-- Any other move changes what is left of a run in a way that depends on that. -/
theorem muted_step {m : Move} (h : r.isRegardless m = true) :
    (r.step s m).muted s = ((r.muted s).step s m).muted s := by
  symm
  cases m with
  | receive => cases h
  | unwatch => cases h
  | start setup chain =>
    simp [step, muted, World.muted, handedOut_handedOut, List.length_map]
  | pass ms => simp [step, muted, World.muted, handedOut_handedOut]
  | share key value => simp [step, muted, World.muted, handedOut_handedOut]
  | advance i =>
    refine muted_act (f := Execution.advance s r.clock) ?_
    intro e he
    have hstatus : e.status? = none := by simpa [isRegardless, he] using h
    rw [handedOut_of_status hstatus, advance_muted hstatus]
    exact ⟨rfl, rfl⟩
  | elapse i =>
    refine muted_act (f := Execution.elapse s r.clock) ?_
    intro e _
    cases hstatus : e.status? with
    | none =>
      rw [handedOut_of_status hstatus, elapse_muted]
      exact ⟨rfl, rfl⟩
    | some status =>
      rw [(timeless_over hstatus r.clock r.world).1,
        (timeless_over ((status?_handedOut s e).trans hstatus) r.clock r.world.muted).1]
      exact ⟨handedOut_handedOut s e, rfl⟩
  | expire i =>
    refine muted_act (f := fun e w => (e.expire s r.clock, w)) ?_
    intro e _
    cases hstatus : e.status? with
    | none =>
      rw [handedOut_of_status hstatus]
      exact ⟨rfl, rfl⟩
    | some status =>
      rw [(timeless_over hstatus r.clock r.world).2,
        (timeless_over ((status?_handedOut s e).trans hstatus) r.clock r.world.muted).2]
      exact ⟨handedOut_handedOut s e, rfl⟩
  | cancel i =>
    refine muted_act (f := fun e w => ({ e with cancelled := true }, w)) ?_
    intro e _
    cases hphase : e.phase <;> simp [handedOut, hphase, World.muted]

/-- Runs whose moves are the same, but for those that are made for who listens, have the same left
of them. -/
theorem muted_follow {r₁ r₂ : Run} (hsame : r₁.muted s = r₂.muted s) {moves₁ moves₂ : List Move}
    (hmoves : r₁.regardless s moves₁ = r₂.regardless s moves₂) :
    (r₁.follow s moves₁).muted s = (r₂.follow s moves₂).muted s := by
  -- what is left after some moves is determined by what was left before
  have hfollow : ∀ (moves : List Move) (r : Run), (r.follow s moves).muted s =
      (r.regardless s moves).foldl (fun q m => (q.step s m).muted s) (r.muted s) := by
    intro moves
    induction moves with
    | nil =>
      intro r
      rfl
    | cons m rest ih =>
      intro r
      rw [follow, List.foldl_cons, ← follow, ih, regardless]
      split
      · rename_i h
        rw [List.foldl_cons, muted_step h]
      · rename_i h
        rw [muted_hidden (Bool.eq_false_iff.mpr h)]
  rw [hfollow, hfollow, hsame, hmoves]

/-- Of such runs the reports that are there are the same. -/
theorem report_muted {r₁ r₂ : Run} (hsame : r₁.muted s = r₂.muted s)
    {report₁ report₂ : InstanceReport} (h₁ : r₁.report? i = some report₁)
    (h₂ : r₂.report? i = some report₂) : report₁ = report₂ := by
  have hmuted : (r₁.muted s).report? i = some report₁ := report?_muted h₁
  rw [hsame, report?_muted h₂] at hmuted
  exact (Option.some.inj hmuted).symm

theorem runReport_muted {r₁ r₂ : Run} (hsame : r₁.muted s = r₂.muted s) {mine : List Nat}
    (hfinished : ∀ i ∈ mine, r₁.isFinished i = true ∧ r₂.isFinished i = true) :
    RunReport.ofInstances .nil (mine.filterMap r₁.report?) r₁.world.store.snapshot =
      .ofInstances .nil (mine.filterMap r₂.report?) r₂.world.store.snapshot := by
  have hstore : (r₁.muted s).world.store = (r₂.muted s).world.store := by rw [hsame]
  have hreports : mine.filterMap r₁.report? = mine.filterMap r₂.report? := by
    apply List.filterMap_congr
    intro i hi
    obtain ⟨report₁, h₁⟩ := Option.isSome_iff_exists.mp (hfinished i hi).1
    obtain ⟨report₂, h₂⟩ := Option.isSome_iff_exists.mp (hfinished i hi).2
    rw [h₁, h₂, report_muted hsame h₁ h₂]
  rw [hreports, show r₁.world.store = r₂.world.store from hstore]

/-- Whether a move is one of those who listen. -/
def Move.isListeners : Move → Bool
  | .receive => true
  | .unwatch => true
  | _ => false

theorem isRegardless_of_isListeners {m : Move} (h : m.isListeners = true) :
    r.isRegardless m = false := by
  cases m with
  | receive => rfl
  | unwatch => rfl
  | _ => cases h

/-- Which moves are made whoever listens can be told without those of the listeners. -/
theorem regardless_filter {r₁ r₂ : Run} (hsame : r₁.muted s = r₂.muted s) (moves : List Move) :
    r₁.regardless s moves = r₂.regardless s (moves.filter (!·.isListeners)) := by
  -- move by move: what is left of the runs stays the same, and with it what is over
  induction moves generalizing r₁ r₂ with
  | nil => rfl
  | cons m rest ih =>
    by_cases hlisteners : m.isListeners = true
    · have hhidden : r₁.isRegardless m = false := isRegardless_of_isListeners hlisteners
      simp only [regardless, hhidden, List.filter_cons, hlisteners]
      exact ih ((muted_hidden hhidden).trans hsame)
    · have hagree : r₁.isRegardless m = r₂.isRegardless m := by
        rw [← isRegardless_muted s r₁, hsame, isRegardless_muted]
      simp only [List.filter_cons, Bool.eq_false_iff.mpr hlisteners, Bool.not_false, if_true,
        regardless, ← hagree]
      by_cases h : r₁.isRegardless m = true
      · have hstep : (r₁.step s m).muted s = (r₂.step s m).muted s := by
          rw [muted_step h, hsame, ← muted_step (hagree.symm.trans h)]
        rw [if_pos h, if_pos h, ih hstep]
      · have hstep : (r₁.step s m).muted s = (r₂.step s m).muted s := by
          rw [Bool.not_eq_true] at h
          rw [muted_hidden h, hsame, ← muted_hidden (hagree.symm.trans h)]
        rw [if_neg h, if_neg h, ih hstep]

/-- Runs that have the same moves, but for those of the listeners, have the same moves that are made
whoever listens. -/
theorem regardless_eq {r₁ r₂ : Run} (hsame : r₁.muted s = r₂.muted s) {moves₁ moves₂ : List Move}
    (hmoves : moves₁.filter (!·.isListeners) = moves₂.filter (!·.isListeners)) :
    r₁.regardless s moves₁ = r₂.regardless s moves₂ := by
  rw [regardless_filter hsame, hmoves, ← regardless_filter rfl]

end Run

end ScriptBench
