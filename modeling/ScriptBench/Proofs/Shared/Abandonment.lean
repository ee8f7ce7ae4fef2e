import ScriptBench.Proofs.Shared.Expiry
import ScriptBench.Proofs.Shared.Sifting

/-!
What an abandoned wait leaves behind.

1. Whether a wait sleeps can be read off the run: nobody has set its key, and it has not been
   abandoned (`phase_eq_parked_iff`). So the count of a key can be, too.
2. A run without one wait ends as the run with it, but for that wait (`waits_leaveOut`,
   `get?_leaveOut`): other waits, reads and snapshots do not show it. Nor do counts once it does not
   sleep (`waiterCount_leaveOut`).
3. Abandoned waits stay on the list of their key until somebody else registers or sets it. The list
   is never longer than the count was at some moment before (`length_waiters_le`).
-/
namespace ScriptBench

namespace Store

open KeyMap (Ordered)

/-! ## Who sleeps -/

theorem lastSet?_eq_none_iff (key : String) (steps : List Step) :
    lastSet? key steps = none ↔ firstSet? key steps = none := by
  rw [lastSet?, firstSet?, firstSet?, List.findSome?_eq_none_iff, List.findSome?_eq_none_iff]
  simp only [List.mem_reverse]

/-- A wait that sleeps after a run has slept all the time, with nothing delivered to it. -/
theorem afterAll_eq_parked {key : String} {id : Nat} {p : WaitPhase} {steps : List Step}
    (h : p.afterAll key id steps = .parked) :
    p = .parked ∧ firstSet? key steps = none ∧ .abandon id ∉ steps := by
  induction steps generalizing p with
  | nil => exact ⟨h, rfl, List.not_mem_nil⟩
  | cons st rest ih =>
    rw [afterAll_cons] at h
    obtain ⟨hst, hset, hab⟩ := ih h
    obtain ⟨rfl, hnone⟩ := WaitPhase.after_eq_parked hst
    refine ⟨rfl, by rw [firstSet?_cons, hnone, hset]; rfl, fun hmem => ?_⟩
    rcases List.mem_cons.mp hmem with heq | hmem
    · rw [← heq, WaitPhase.parked_abandon, if_pos rfl] at hst
      cases hst
    · exact hab hmem

theorem run_begin (before : List Step) (key : String) (later : List Step) :
    empty.run (before ++ .begin key :: later) = ((empty.run before).begin key).run later :=
  run_append _ _ _

/-- A wait sleeps as long as its key has never been set and it has not been abandoned. -/
theorem phase_eq_parked_iff (before : List Step) (key : String) (later : List Step) :
    (empty.run (before ++ .begin key :: later)).phase (empty.run before).nextWait = .parked ↔
      lastSet? key (before ++ later) = none ∧ .abandon (empty.run before).nextWait ∉ later := by
  have hs : Sound (empty.run before) := sound_reached before
  have hs' : Sound ((empty.run before).begin key) := sound_step hs (.begin key)
  have hvalue := value_reached before key
  rw [run_begin, lastSet?_append, Option.or_eq_none_iff, lastSet?_eq_none_iff key later]
  cases hset : lastSet? key before with
  | some x =>
    rw [hset] at hvalue
    have hw : ((empty.run before).begin key).waits[(empty.run before).nextWait]? =
        some ⟨key, .returned x.text, 1⟩ := by
      simp [begin_of_value hvalue, nextWait]
    rw [phase_eq (wait_run hs' hw later), returned_afterAll]
    simp
  | none =>
    rw [hset] at hvalue
    rw [phase_eq (wait_run hs' (waiting_begin hvalue) later)]
    constructor
    · intro hp
      obtain ⟨-, hnone, hab⟩ := afterAll_eq_parked hp
      exact ⟨⟨hnone, rfl⟩, hab⟩
    · rintro ⟨⟨hnone, -⟩, hab⟩
      exact parked_afterAll hnone hab

/-- A wait that is asked for has a value if and only if its key was set before, be it before it
began or later. -/
theorem result?_eq_none_iff (before : List Step) (key : String) {between : List Step}
    (hab : .abandon (empty.run before).nextWait ∉ between) :
    (empty.run (before ++ .begin key :: (between ++ [.resume (empty.run before).nextWait]))).result?
        (empty.run before).nextWait = none ↔ lastSet? key (before ++ between) = none := by
  have hs : Sound (empty.run before) := sound_reached before
  have hvalue := value_reached before key
  have hab' : .abandon (empty.run before).nextWait ∉ between ++
      [.resume (empty.run before).nextWait] := by
    simpa using hab
  constructor
  · intro hnone
    rw [run_begin] at hnone
    by_contra hset
    cases hbefore : lastSet? key before with
    | some x =>
      rw [hbefore] at hvalue
      have hvalued := (wait_of_value hs hvalue (between ++ [.resume (empty.run before).nextWait])).1
      exact Option.some_ne_none _ (hvalued.symm.trans hnone)
    | none =>
      rw [hbefore] at hvalue
      rw [lastSet?_append, hbefore, Option.or_none, lastSet?_eq_none_iff] at hset
      -- the first value set wakes it
      obtain ⟨x, hfirst⟩ := Option.ne_none_iff_exists'.mp hset
      obtain ⟨early, st, late, rfl, hst, hearly⟩ := List.findSome?_eq_some_iff.mp hfirst
      cases st with
      | set k y =>
        obtain ⟨rfl, rfl⟩ : k = key ∧ y = x := by simpa [Step.sets?] using hst
        have hnever : firstSet? k early = none := List.findSome?_eq_none_iff.mpr hearly
        rw [List.append_assoc, List.cons_append] at hab' hnone
        have hwoken := (wait_of_none hs hvalue hnever hab').2.1 (by simp)
        rw [result?, hwoken] at hnone
        cases hnone
      | _ => cases hst
  · intro hset
    have hsleep : lastSet? key (before ++ (between ++ [.resume (empty.run before).nextWait])) =
        none := by
      rw [← List.append_assoc, lastSet?_append, hset]
      rfl
    rw [result?, (phase_eq_parked_iff before key _).mpr ⟨hsleep, hab'⟩]

/-! ## Runs without one wait -/

/-- All but one wait stay, and those behind it move up. -/
def Sieve.without (d : Nat) : Sieve where
  keys _ := true
  waits id := id ≠ d
  place id := if id ≤ d then id else id - 1
  apart := by
    intro i j hi hj h
    have hi : i ≠ d := of_decide_eq_true hi
    have hj : j ≠ d := of_decide_eq_true hj
    split at h <;> split at h <;> omega

/-- The run without one wait: neither its start nor anything that it does is left. -/
def leaveOut (d : Nat) (steps : List Step) : List Step := (Sieve.without d).sift 0 steps

variable (d : Nat) (steps : List Step)

theorem sifted_leaveOut : Sifted (.without d) (empty.run steps) (empty.run (leaveOut d steps)) := by
  refine sifted_run sound_empty sound_empty (sifted_empty ?_ fun n => ?_) steps fun _ _ _ _ => rfl
  · show (if 0 ≤ d then 0 else 0 - 1) = 0
    exact ite_self _
  · show (if n + 1 ≤ d then n + 1 else n) = (if n ≤ d then n else n - 1) + (decide (n ≠ d)).toNat
    by_cases hn : n = d
    · subst hn
      simp
    · rw [decide_eq_true hn]
      split <;> split <;> simp <;> omega

/-- The other waits stand where they stand in the whole run. -/
theorem waits_leaveOut :
    (empty.run (leaveOut d steps)).waits = (empty.run steps).waits.eraseIdx d := by
  have h := sifted_leaveOut d steps
  refine List.ext_getElem? fun j => ?_
  rw [List.getElem?_eraseIdx]
  split
  · rename_i hlt
    have hplace : (Sieve.without d).place j = j := if_pos (Nat.le_of_lt hlt)
    rw [← h.waits j (decide_eq_true (Nat.ne_of_lt hlt)), hplace]
  · rename_i hge
    have hplace : (Sieve.without d).place (j + 1) = j := if_neg (by omega)
    rw [← h.waits (j + 1) (decide_eq_true (by omega)), hplace]

theorem get?_leaveOut (key : String) :
    (empty.run (leaveOut d steps)).get? key = (empty.run steps).get? key := by
  rw [get?, get?, (sifted_leaveOut d steps).values key rfl]

theorem snapshot_leaveOut : (empty.run (leaveOut d steps)).snapshot = (empty.run steps).snapshot :=
  snapshot_congr (ordered_run List.Pairwise.nil _) (ordered_run List.Pairwise.nil _)
    (get?_leaveOut d steps)

/-- Counts show a wait only while it sleeps. -/
theorem waiterCount_leaveOut (hd : (empty.run steps).phase d ≠ .parked) (key : String) :
    (empty.run (leaveOut d steps)).waiterCount key = (empty.run steps).waiterCount key := by
  refine (sifted_leaveOut d steps).waiterCount (sound_reached _) (sound_reached _)
    fun id w hw _ hp => ?_
  refine decide_eq_true ?_
  rintro rfl
  exact hd ((phase_eq hw).trans hp)

/-! ## The length of the lists -/

/-- Whoever is registered when a wait has just registered sleeps. -/
theorem waiterCount_begin {s : Store} (hs : Sound s) {key : String}
    (h : (s.slot key).value = none) :
    (s.begin key).waiterCount key = ((s.begin key).slot key).waiters.length := by
  have hwaiters := waiters_step hs (.begin key) key
  simp only [h, and_self, if_true] at hwaiters
  refine List.countP_eq_length.mpr fun id hid => ?_
  rw [show ((s.begin key).slot key).waiters = s.live key ++ [s.nextWait] from hwaiters] at hid
  rcases List.mem_append.mp hid with hid | hid
  · obtain ⟨w, hw, -, hp⟩ := (mem_live hs key id).mp hid
    have hw' := wait_step hs hw (.begin key)
    rw [hp, WaitPhase.after_begin] at hw'
    simp [isClosed, phase_eq (show (s.begin key).waits[id]? = _ from hw')]
  · rw [List.mem_singleton.mp hid]
    simp [isClosed, phase_eq (waiting_begin h)]

/-- The list of a key is never longer than its count has been. -/
theorem length_waiters_le (steps : List Step) (key : String) :
    ∃ early, early <+: steps ∧ ((empty.run steps).slot key).waiters.length ≤
      (empty.run early).waiterCount key := by
  induction steps using List.reverseRecOn with
  | nil => exact ⟨[], List.prefix_refl [], Nat.zero_le _⟩
  | append_singleton steps st ih =>
    have hs : Sound (empty.run steps) := sound_reached steps
    have hrun : empty.run (steps ++ [st]) = (empty.run steps).step st := run_append _ _ _
    obtain ⟨early, hearly, hle⟩ := ih
    have hstays : early <+: steps ++ [st] := hearly.trans (List.prefix_append _ _)
    have hwaiters := waiters_step hs st key
    rw [← hrun] at hwaiters
    cases st with
    | set k x =>
      refine ⟨early, hstays, ?_⟩
      rw [hwaiters]
      dsimp only
      split
      · exact Nat.zero_le _
      · exact hle
    | begin k =>
      by_cases hk : k = key ∧ ((empty.run steps).slot key).value = none
      · obtain ⟨rfl, hvalue⟩ := hk
        refine ⟨steps ++ [.begin k], List.prefix_refl _, ?_⟩
        rw [hrun]
        exact Nat.le_of_eq (waiterCount_begin hs hvalue).symm
      · refine ⟨early, hstays, ?_⟩
        rw [hwaiters]
        dsimp only
        rw [if_neg hk]
        exact hle
    | resume i =>
      rw [hwaiters]
      exact ⟨early, hstays, hle⟩
    | abandon i =>
      rw [hwaiters]
      exact ⟨early, hstays, hle⟩

end Store

open Store in
/-- In every interleaving of clients the count of a key is the number of waits that sleep on it:
those that nobody has abandoned, and whose key nobody has set. A run without one wait agrees with
the whole run, at each of its moments, on all other waits, on every key and on the snapshot, and on
the counts unless the wait sleeps. A wait that is asked for has a value if its key was ever set; it
gives up only if nobody had set the key when its time was over. And the list of a key never holds
more than the count has been. -/
theorem abandoned_waits_leave_no_trace :
    (∀ (steps : List Store.Step) (key : String),
      (empty.run steps).waiterCount key =
        (empty.run steps).waits.countP fun w => w.key = key ∧ w.phase = .parked) ∧
      (∀ (before : List Store.Step) (key : String) (later : List Store.Step),
        let id := (empty.run before).nextWait
        (empty.run (before ++ .begin key :: later)).phase id = .parked ↔
          lastSet? key (before ++ later) = none ∧ .abandon id ∉ later) ∧
      (∀ (d : Nat) (early late : List Store.Step),
        let s := empty.run early
        let t := empty.run (leaveOut d early)
        leaveOut d early <+: leaveOut d (early ++ late) ∧
          t.waits = s.waits.eraseIdx d ∧ (∀ key, t.get? key = s.get? key) ∧
            t.snapshot = s.snapshot ∧
          (s.phase d ≠ .parked → ∀ key, t.waiterCount key = s.waiterCount key)) ∧
      (∀ (before : List Store.Step) (key : String) (between : List Store.Step),
        let id := (empty.run before).nextWait
        .abandon id ∉ between →
          ((empty.run (before ++ .begin key :: (between ++ [.resume id]))).result? id = none ↔
            lastSet? key (before ++ between) = none)) ∧
      (∀ calls : List Clients.Step,
        (∃ acts, (Clients.after calls).store = empty.run acts) ∧
          ∀ name key, ((Clients.after calls).step (.join name)).2 =
            .joined (.error (.timeout key)) →
            ∃ early limit later, calls ++ [.join name] =
              early ++ .wait name key (some limit) :: later ∧
              Clients.GivesUp early name key limit later) ∧
      ∀ (steps : List Store.Step) (key : String),
        ∃ early, early <+: steps ∧
          ((empty.run steps).slot key).waiters.length ≤ (empty.run early).waiterCount key := by
  refine ⟨?_, ?_, ?_, ?_, ?_, ?_⟩
  · intro steps key
    exact waiterCount_eq (sound_reached steps) key
  · intro before key later
    exact phase_eq_parked_iff before key later
  · intro d early late
    refine ⟨?_, waits_leaveOut d early, get?_leaveOut d early, snapshot_leaveOut d early, ?_⟩
    · rw [leaveOut, leaveOut, Sieve.sift_append]
      exact List.prefix_append _ _
    · exact waiterCount_leaveOut d early
  · intro before key between id hab
    exact result?_eq_none_iff before key hab
  · intro calls
    obtain ⟨acts, hstore, -⟩ := Clients.clients_run .empty calls
    exact ⟨⟨acts, hstore⟩, fun name key h => Clients.gives_up h⟩
  · intro steps key
    exact length_waiters_le steps key

/-- A wait with a limit of 5, asked for when nobody has set its key. -/
theorem abandoned_waits_leave_no_trace_unset :
    ((Clients.after [.wait "w" "k" (some 5)]).step (.join "w")).2 =
      .joined (.error (.timeout "k")) ∧
      ∃ early limit later, [.wait "w" "k" (some 5)] ++ [.join "w"] =
        early ++ .wait "w" "k" (some limit) :: later ∧
        Clients.GivesUp early "w" "k" limit later := by
  have hover : ((Clients.after [.wait "w" "k" (some 5)]).step (.join "w")).2 =
      .joined (.error (.timeout "k")) := rfl
  obtain ⟨-, -, -, -, hclients, -⟩ := abandoned_waits_leave_no_trace
  exact ⟨hover, (hclients [.wait "w" "k" (some 5)]).2 "w" "k" hover⟩

end ScriptBench
