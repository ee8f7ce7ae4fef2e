import ScriptBench.Cancel.Token

/-!
Nobody who waits for a cancel is forgotten, and nobody is let go early.

1. A token is cancelled from the moment at which some cancel raises the flag, and stays so
   (`cancelled_run`).
2. In every token that steps lead to, whoever has returned, was woken or prepares again does so
   because the flag is up (`Waiter.Fits`), and where a cancel has woken the waiters nobody sleeps on
   (`sound_run`).
3. From then on every step of a waiter brings it nearer to its return, whatever others do in between
   (`stepsLeft_run`).
-/
namespace ScriptBench

/-- What holds of every waiter: it is back at its start, or was woken, only under a raised flag, and
sees the flag up when it prepares for the second time. -/
def Waiter.Fits (cancelled : Bool) (w : Waiter) : Prop :=
  match w.phase with
  | .starting => w.rounds = 0 ∨ w.rounds = 1 ∧ cancelled = true
  | .prepared woken =>
    (w.rounds = 1 ∨ w.rounds = 2 ∧ cancelled = true) ∧ (woken = true → cancelled = true)
  | .asleep woken => w.rounds = 1 ∧ (woken = true → cancelled = true)
  | .returned => w.rounds ≤ 2 ∧ cancelled = true

/-- How many of its own steps a waiter is from its return once the flag is up and it has been
woken. -/
def WaiterPhase.stepsLeft : WaiterPhase → Nat
  | .asleep _ => 3
  | .starting => 2
  | .prepared _ => 1
  | .returned => 0

namespace Token

/-- What holds of every token that steps lead to. -/
structure Sound (t : Token) : Prop where
  fits : ∀ w ∈ t.waiters, w.Fits t.cancelled
  /-- Every cancel raises the flag first. -/
  raised : 0 < t.announcing + t.completed → t.cancelled = true
  /-- A cancel that is complete has woken whoever slept, and nobody falls asleep after it. -/
  awake : 0 < t.completed → ∀ w ∈ t.waiters, w.phase ≠ .asleep false

variable {t : Token} {w : Waiter} {cancelled : Bool}

theorem run_append (t : Token) (early late : List Step) :
    t.run (early ++ late) = (t.run early).run late :=
  List.foldl_append

/-! ## The flag -/

theorem cancelled_step (t : Token) (st : Step) :
    (t.step st).cancelled = (t.cancelled || decide (st = .raiseFlag)) := by
  cases st with
  | raiseFlag => exact (Bool.or_true _).symm
  | announce =>
    simp only [step, announce]
    split <;> exact (Bool.or_false _).symm
  | clone => exact (Bool.or_false _).symm
  | join => exact (Bool.or_false _).symm
  | advance i => exact (Bool.or_false _).symm

theorem cancelled_run (t : Token) (steps : List Step) :
    (t.run steps).cancelled = (t.cancelled || decide (.raiseFlag ∈ steps)) := by
  induction steps generalizing t with
  | nil => exact (Bool.or_false _).symm
  | cons st rest ih =>
    have hrest : (t.run (st :: rest)).cancelled =
      ((t.step st).cancelled || decide (.raiseFlag ∈ rest)) := ih _
    rw [hrest, cancelled_step, Bool.or_assoc]
    congr 1
    simp [eq_comm]

/-! ## Cancels, halfway and whole -/

theorem cancels_step (t : Token) (st : Step) :
    t.announcing + t.completed ≤ (t.step st).announcing + (t.step st).completed ∧
      t.completed ≤ (t.step st).completed := by
  cases st with
  | raiseFlag => exact ⟨Nat.add_le_add_right (Nat.le_succ _) _, Nat.le_refl _⟩
  | announce =>
    simp only [step, announce]
    split
    · exact ⟨Nat.le_refl _, Nat.le_refl _⟩
    · rename_i hannouncing
      dsimp only
      omega
  | clone => exact ⟨Nat.le_refl _, Nat.le_refl _⟩
  | join => exact ⟨Nat.le_refl _, Nat.le_refl _⟩
  | advance i => exact ⟨Nat.le_refl _, Nat.le_refl _⟩

theorem cancels_run (t : Token) (steps : List Step) :
    t.announcing + t.completed ≤ (t.run steps).announcing + (t.run steps).completed ∧
      t.completed ≤ (t.run steps).completed := by
  induction steps generalizing t with
  | nil => exact ⟨Nat.le_refl _, Nat.le_refl _⟩
  | cons st rest ih =>
    have hfirst := cancels_step t st
    have hrest := ih (t.step st)
    exact ⟨Nat.le_trans hfirst.1 hrest.1, Nat.le_trans hfirst.2 hrest.2⟩

/-- Waking the waiters completes a cancel, if any has raised the flag by then. -/
theorem completed_announce (h : 0 < t.announcing + t.completed) : 0 < t.announce.completed := by
  rw [announce]
  split
  · omega
  · exact Nat.succ_pos _

/-- A cancel is complete as soon as waiters are woken after the flag was raised. -/
theorem completed_run (t : Token) (early mid late : List Step) :
    0 < (t.run (early ++ .raiseFlag :: mid ++ .announce :: late)).completed := by
  rw [run_append, run_append]
  have hraised : 0 < ((t.run early).run (.raiseFlag :: mid)).announcing +
      ((t.run early).run (.raiseFlag :: mid)).completed :=
    Nat.lt_of_lt_of_le (by simp only [step, raiseFlag]; omega)
      (cancels_run ((t.run early).step .raiseFlag) mid).1
  exact Nat.lt_of_lt_of_le (completed_announce hraised) (cancels_run _ late).2

/-! ## One waiter -/

theorem fits_advance (h : w.Fits cancelled) : (advanceWaiter cancelled w).Fits cancelled := by
  obtain ⟨phase, rounds⟩ := w
  cases phase with
  | starting =>
    simp only [Waiter.Fits, advanceWaiter] at h ⊢
    exact ⟨h.imp (congrArg (· + 1)) (And.imp_left (congrArg (· + 1))), Bool.noConfusion⟩
  | prepared woken =>
    cases hflag : cancelled with
    | true =>
      have hrounds : rounds ≤ 2 := by
        have hprepared := h.1
        dsimp only at hprepared
        omega
      exact ⟨hrounds, rfl⟩
    | false =>
      simp only [Waiter.Fits, advanceWaiter, hflag] at h ⊢
      exact ⟨h.1.resolve_right fun h => Bool.noConfusion h.2, h.2⟩
  | asleep woken =>
    cases woken with
    | true => exact .inr ⟨h.1, h.2 rfl⟩
    | false => exact h
  | returned => exact h

theorem fits_raised (h : w.Fits cancelled) : w.Fits true := by
  obtain ⟨phase, rounds⟩ := w
  cases phase with
  | starting => exact h.imp_right fun h => ⟨h.1, rfl⟩
  | prepared woken => exact ⟨h.1.imp_right fun h => ⟨h.1, rfl⟩, fun _ => rfl⟩
  | asleep woken => exact ⟨h.1, fun _ => rfl⟩
  | returned => exact ⟨h.1, rfl⟩

theorem fits_wake (h : w.Fits true) : (wake w).Fits true := by
  obtain ⟨phase, rounds⟩ := w
  cases phase with
  | starting => exact h
  | prepared woken => exact ⟨h.1, fun _ => rfl⟩
  | asleep woken => exact ⟨h.1, fun _ => rfl⟩
  | returned => exact h

theorem awake_wake (w : Waiter) : (wake w).phase ≠ .asleep false := by
  obtain ⟨phase, rounds⟩ := w
  cases phase <;> simp [wake]

theorem awake_advance (h : w.phase ≠ .asleep false) :
    (advanceWaiter true w).phase ≠ .asleep false := by
  obtain ⟨phase, rounds⟩ := w
  cases phase with
  | asleep woken => cases woken <;> simp_all [advanceWaiter]
  | _ => simp [advanceWaiter]

theorem rounds_le (h : w.Fits cancelled) : w.rounds ≤ 2 := by
  obtain ⟨phase, rounds⟩ := w
  cases phase <;> dsimp only [Waiter.Fits] at h ⊢ <;> omega

/-! ## Every token that steps lead to -/

theorem forall_mem_modify {P : Waiter → Prop} {ws : List Waiter} {f : Waiter → Waiter}
    (h : ∀ w ∈ ws, P w) (hf : ∀ w, P w → P (f w)) (i : Nat) : ∀ w ∈ ws.modify i f, P w := by
  intro w hw
  obtain ⟨j, hj⟩ := List.mem_iff_getElem?.mp hw
  rw [List.getElem?_modify] at hj
  obtain ⟨v, hv, rfl⟩ := Option.map_eq_some_iff.mp hj
  have hPv := h v (List.mem_of_getElem? hv)
  split
  · exact hf v hPv
  · exact hPv

theorem sound_fresh : fresh.Sound := by
  refine ⟨?_, ?_, ?_⟩ <;> simp [fresh]

theorem sound_step (h : t.Sound) (st : Step) : (t.step st).Sound := by
  cases st with
  | clone => exact ⟨h.fits, h.raised, h.awake⟩
  | raiseFlag => exact ⟨fun w hw => fits_raised (h.fits w hw), fun _ => rfl, h.awake⟩
  | announce =>
    simp only [step, announce]
    split
    · exact h
    · rename_i n hannouncing
      have hraised : t.cancelled = true := h.raised (by omega)
      refine ⟨?_, fun _ => hraised, ?_⟩
      · intro w hw
        obtain ⟨v, hv, rfl⟩ := List.mem_map.mp hw
        have hfits := h.fits v hv
        rw [hraised] at hfits ⊢
        exact fits_wake hfits
      · intro _ w hw
        obtain ⟨v, -, rfl⟩ := List.mem_map.mp hw
        exact awake_wake v
  | join =>
    refine ⟨?_, h.raised, fun hcompleted => ?_⟩
    · exact List.forall_mem_append.mpr ⟨h.fits, by simp [Waiter.Fits]⟩
    · exact List.forall_mem_append.mpr ⟨h.awake hcompleted, by simp⟩
  | advance i =>
    refine ⟨forall_mem_modify h.fits (fun _ => fits_advance) i, h.raised, fun hcompleted => ?_⟩
    have hraised : t.cancelled = true := h.raised (Nat.add_pos_right _ hcompleted)
    refine forall_mem_modify (h.awake hcompleted) (fun w hw => ?_) i
    rw [hraised]
    exact awake_advance hw

theorem sound_run (h : t.Sound) (steps : List Step) : (t.run steps).Sound := by
  induction steps generalizing t with
  | nil => exact h
  | cons st rest ih => exact ih (sound_step h st)

/-! ## The way to the return -/

theorem stepsLeft_wake (w : Waiter) : (wake w).phase.stepsLeft = w.phase.stepsLeft := by
  obtain ⟨phase, rounds⟩ := w
  cases phase <;> rfl

theorem stepsLeft_advance (h : w.phase ≠ .asleep false) :
    (advanceWaiter true w).phase.stepsLeft = w.phase.stepsLeft - 1 := by
  obtain ⟨phase, rounds⟩ := w
  cases phase with
  | asleep woken =>
    cases woken with
    | true => rfl
    | false => exact absurd rfl h
  | _ => rfl

/-- A step of its own brings a waiter nearer to its return; no other step takes it back. -/
theorem stepsLeft_step (h : t.Sound) (hcompleted : 0 < t.completed) {i : Nat}
    (hw : t.waiters[i]? = some w) (st : Step) :
    ∃ w', (t.step st).waiters[i]? = some w' ∧
      w'.phase.stepsLeft = w.phase.stepsLeft - (if st = .advance i then 1 else 0) := by
  cases st with
  | announce =>
    simp only [step, announce]
    split
    · exact ⟨w, hw, rfl⟩
    · exact ⟨wake w, by simp [hw], stepsLeft_wake w⟩
  | join => exact ⟨w, (List.getElem?_append_left (List.getElem?_eq_some_iff.mp hw).1).trans hw, rfl⟩
  | advance j =>
    have hraised : t.cancelled = true := h.raised (Nat.add_pos_right _ hcompleted)
    by_cases hj : j = i
    · subst hj
      refine ⟨advanceWaiter true w, by simp [step, advance, hw, hraised], ?_⟩
      rw [if_pos rfl]
      exact stepsLeft_advance (h.awake hcompleted w (List.mem_of_getElem? hw))
    · have hne : Step.advance j ≠ .advance i := fun h => hj (Step.advance.inj h)
      exact ⟨w, by simp [step, advance, hj, hw], by rw [if_neg hne]; rfl⟩
  | clone => exact ⟨w, hw, rfl⟩
  | raiseFlag => exact ⟨w, hw, rfl⟩

theorem stepsLeft_run (h : t.Sound) (hcompleted : 0 < t.completed) {i : Nat}
    (hw : t.waiters[i]? = some w) (steps : List Step) :
    ∃ w', (t.run steps).waiters[i]? = some w' ∧
      w'.phase.stepsLeft = w.phase.stepsLeft - steps.count (.advance i) := by
  induction steps generalizing t w with
  | nil => exact ⟨w, hw, rfl⟩
  | cons st rest ih =>
    obtain ⟨v, hv, hleft⟩ := stepsLeft_step h hcompleted hw st
    obtain ⟨w', hw', hrest⟩ :=
      ih (sound_step h st) (Nat.lt_of_lt_of_le hcompleted (cancels_step t st).2) hv
    refine ⟨w', hw', ?_⟩
    rw [hrest, hleft, List.count_cons, Nat.sub_sub, Nat.add_comm]
    simp

theorem returned_of_stepsLeft {p : WaiterPhase} (h : p.stepsLeft = 0) : p = .returned := by
  cases p <;> first | rfl | cases h

theorem stepsLeft_le (p : WaiterPhase) : p.stepsLeft ≤ 3 := by
  cases p <;> simp [WaiterPhase.stepsLeft]

end Token

open Token in
/-- However those who cancel and those who wait take turns: all clones say the same, namely whether
some cancel has raised the flag, and never take it back. A waiter has returned only if that has
happened, and prepares at most twice. Once a cancel has also woken the waiters nobody sleeps
unwoken, and every waiter is back after three steps of its own. -/
theorem no_waiter_misses_a_cancel :
    (∀ (steps : List Token.Step) (clone : Nat),
      let t := fresh.run steps
      (t.isCancelled clone = true ↔ .raiseFlag ∈ steps) ∧
        ∀ (more : List Token.Step) (other : Nat), t.isCancelled clone = true →
          (t.run more).isCancelled other = true) ∧
      (∀ (steps : List Token.Step), ∀ w ∈ (fresh.run steps).waiters,
        (w.phase = .returned → .raiseFlag ∈ steps) ∧ w.rounds ≤ 2) ∧
      ∀ early mid late : List Token.Step,
        let t := fresh.run (early ++ .raiseFlag :: mid ++ .announce :: late)
        (∀ w ∈ t.waiters, w.phase ≠ .asleep false) ∧
          ∀ (i : Nat) (more : List Token.Step), i < t.waiters.length → 3 ≤ more.count (.advance i) →
            ((t.run more).waiters[i]?.map (·.phase)) = some .returned := by
  have hflag : ∀ steps, (fresh.run steps).cancelled = decide (.raiseFlag ∈ steps) := by
    intro steps
    rw [cancelled_run]
    rfl
  refine ⟨?_, ?_, ?_⟩
  · intro steps clone t
    refine ⟨?_, fun more other hcancelled => ?_⟩
    · rw [isCancelled, hflag, decide_eq_true_eq]
    · rw [isCancelled, cancelled_run]
      rw [isCancelled] at hcancelled
      rw [hcancelled, Bool.true_or]
  · intro steps w hw
    have hfits := (sound_run sound_fresh steps).fits w hw
    refine ⟨fun hreturned => ?_, rounds_le hfits⟩
    rw [Waiter.Fits, hreturned, hflag] at hfits
    exact of_decide_eq_true hfits.2
  · intro early mid late t
    have hsound : t.Sound := sound_run sound_fresh _
    have hcompleted : 0 < t.completed := completed_run fresh early mid late
    refine ⟨hsound.awake hcompleted, fun i more hi hcount => ?_⟩
    obtain ⟨w, hw, hleft⟩ := stepsLeft_run hsound hcompleted (List.getElem?_eq_getElem hi) more
    have hle := stepsLeft_le t.waiters[i].phase
    have hreturned : w.phase = .returned := returned_of_stepsLeft (by omega)
    rw [hw, Option.map_some, hreturned]

/-- Looking at the flag before preparing would lose a wake-up; the waiter here prepares first, is
woken before it looks, and returns. -/
example :
    (Token.fresh.run [.join, .advance 0, .raiseFlag, .announce, .advance 0]).waiters =
      [⟨.returned, 1⟩] := by
  decide

end ScriptBench
