import Mathlib.Data.List.Induction
import ScriptBench.Proofs.Shared.Snapshot

/-!
Waits that give up when their time is over.

1. The waits that clients still ask for have numbers of their own, and each of them sleeps or has
   returned as long as its time is not over (`orderly_step`): what a `set` delivers is taken at
   once, and giving up one wait leaves the others alone.
2. So when the time of a wait is over and it has no value, nobody has ever set its key
   (`unset_of_rests`), and the calls tell when that was (`began_due`, `began_after`, `gives_up`).
-/
namespace ScriptBench

namespace Clients

open KeyMap (Ordered)
open Store (Sound wait_run wait_step phase_eq)

/-- The clients after some calls. -/
def after (calls : List Step) : Clients := (Clients.empty.run calls).1

theorem after_concat (calls : List Step) (st : Step) :
    after (calls ++ [st]) = ((after calls).step st).1 := by
  rw [after, after, run_fst, run_fst, List.foldl_append]
  rfl

end Clients

/-- A wait that sleeps or has returned: nobody has given it up, and nothing waits for it to go
on. -/
def NamedWait.Rests (w : NamedWait) (s : Store) : Prop :=
  ∃ v, s.waits[w.id]? = some v ∧ v.key = w.key ∧
    (v.phase = .parked ∨ ∃ text, v.phase = .returned text)

namespace NamedWait

open Store (Sound wait_run phase_eq)

variable {w : NamedWait} {s : Store}

/-- A wait that rests stays so if its key is not set and it is not abandoned. -/
theorem Rests.run (h : w.Rests s) (hs : Sound s) (steps : List Store.Step)
    (hset : Store.firstSet? w.key steps = none) (hab : .abandon w.id ∉ steps) :
    w.Rests (s.run steps) := by
  obtain ⟨v, hv, hkey, hp | ⟨text, hp⟩⟩ := h
  · refine ⟨_, wait_run hs hv steps, hkey, .inl ?_⟩
    show v.phase.afterAll v.key w.id steps = .parked
    rw [hp, hkey]
    exact Store.parked_afterAll hset hab
  · refine ⟨_, wait_run hs hv steps, hkey, .inr ⟨text, ?_⟩⟩
    show v.phase.afterAll v.key w.id steps = .returned text
    rw [hp, Store.returned_afterAll]

theorem Rests.set (h : w.Rests s) (hs : Sound s) (key : String) (x : Json) {ids : List Nat}
    (hid : w.id ∈ ids) :
    w.Rests ((s.set key x).run (ids.map .resume)) := by
  have hset : Store.firstSet? w.key (ids.map .resume) = none := by
    simp [Store.firstSet?, Store.Step.sets?]
  have hab : Store.Step.abandon w.id ∉ ids.map .resume := by simp
  have hs' : Sound (s.set key x) := Store.sound_step hs (.set key x)
  obtain ⟨v, hv, hkey, hp | ⟨text, hp⟩⟩ := h
  · have hv' := Store.wait_step hs hv (.set key x)
    rw [hp, WaitPhase.parked_set] at hv'
    by_cases hk : key = v.key
    · -- the value is delivered to it, and it goes on with that
      rw [if_pos hk] at hv'
      refine ⟨_, wait_run hs' hv' _, hkey, .inr ⟨x.text, ?_⟩⟩
      exact (Store.delivered_afterAll x.text hab).1 (List.mem_map_of_mem hid)
    · rw [if_neg hk] at hv'
      exact Rests.run ⟨_, hv', hkey, .inl rfl⟩ hs' _ hset hab
  · have hv' := Store.wait_step hs hv (.set key x)
    rw [hp, WaitPhase.returned_after] at hv'
    exact Rests.run ⟨_, hv', hkey, .inr ⟨text, rfl⟩⟩ hs' _ hset hab

/-- A wait that rests and has no value waits for a key that has none. -/
theorem Rests.unset (h : w.Rests s) (hs : Sound s) (hnone : s.result? w.id = none) :
    (s.slot w.key).value = none := by
  obtain ⟨v, hv, hkey, hp | ⟨text, hp⟩⟩ := h
  · have hmem := hs.parked w.id v hv hp
    rw [hkey] at hmem
    cases hvalue : (s.slot w.key).value with
    | none => rfl
    | some text =>
      rw [hs.valued w.key text hvalue] at hmem
      cases hmem
  · rw [Store.result?, phase_eq hv, hp] at hnone
    cases hnone

end NamedWait

namespace Clients

open KeyMap (Ordered)
open Store (Sound wait_run)

/-- What holds of the waits of clients, whatever they call. -/
structure Orderly (c : Clients) : Prop where
  sound : c.store.Sound
  ordered : Ordered c.waits
  known : ∀ w ∈ c.allWaits, ∃ v, c.store.waits[w.id]? = some v
  /-- No two names stand for one wait. -/
  apart : ∀ e ∈ c.waits, ∀ e' ∈ c.waits, e.2.id = e'.2.id → e = e'
  /-- A wait that has lost its name has no other one. -/
  alone : ∀ e ∈ c.waits, ∀ w ∈ c.nameless, w.id ≠ e.2.id
  rests : ∀ e ∈ c.waits, e.2.expired = false → e.2.Rests c.store

variable {c : Clients} {name key : String} {w : NamedWait}

theorem orderly_empty : Orderly .empty where
  sound := Store.sound_empty
  ordered := List.Pairwise.nil
  known := by simp [empty, allWaits]
  apart := by simp [empty]
  alone := by simp [empty]
  rests := by simp [empty]

theorem mem_allWaits_of_mem {e : String × NamedWait} (he : e ∈ c.waits) : e.2 ∈ c.allWaits :=
  List.mem_append_left _ (List.mem_map_of_mem he)

theorem Orderly.of_store (h : Orderly c) {store : Store} (steps : List Store.Step)
    (hstore : store = c.store.run steps)
    (hrests : ∀ e ∈ c.waits, e.2.expired = false → e.2.Rests store) :
    Orderly { c with store } := by
  subst hstore
  refine ⟨Store.sound_run h.sound steps, h.ordered, ?_, h.apart, h.alone, hrests⟩
  intro w hw
  obtain ⟨v, hv⟩ := h.known w hw
  exact ⟨_, wait_run h.sound hv steps⟩

theorem Orderly.drop (h : Orderly c) (name : String) : Orderly (c.drop name) := by
  have hsub : ∀ e ∈ (c.drop name).waits, e ∈ c.waits := fun e he => (List.mem_filter.mp he).1
  refine ⟨h.sound, h.ordered.filter _, ?_, ?_, ?_, ?_⟩
  · intro w hw
    rcases List.mem_append.mp hw with hw | hw
    · obtain ⟨e, he, rfl⟩ := List.mem_map.mp hw
      exact h.known e.2 (mem_allWaits_of_mem (hsub e he))
    · exact h.known w (List.mem_append_right _ hw)
  · intro e he e' he'
    exact h.apart e (hsub e he) e' (hsub e' he')
  · intro e he
    exact h.alone e (hsub e he)
  · intro e he
    exact h.rests e (hsub e he)

theorem Orderly.set (h : Orderly c) (key : String) (x : Json) :
    Orderly ({ c with store := c.store.set key x }.settle) := by
  let ids := c.allWaits.map (·.id)
  have hsettle : { c with store := c.store.set key x }.settle =
      { c with store := (c.store.set key x).run (ids.map .resume) } := by
    rw [List.map_map]
    exact congrArg (fun store => { c with store })
      (foldl_step .resume (c.store.set key x) c.allWaits)
  rw [hsettle]
  refine h.of_store (.set key x :: ids.map .resume) rfl fun e he hopen => ?_
  exact (h.rests e he hopen).set h.sound key x (List.mem_map_of_mem (mem_allWaits_of_mem he))

theorem Orderly.wait (h : Orderly c) (name key : String) (limit : Option Nat) :
    Orderly (c.step (.wait name key limit)).1 := by
  let w : NamedWait := ⟨c.store.nextWait, key, limit.map (c.now + ·), false⟩
  have hfresh : ∀ w' ∈ c.allWaits, w'.id ≠ w.id := by
    intro w' hw'
    obtain ⟨v, hv⟩ := h.known w' hw'
    exact Nat.ne_of_lt (List.getElem?_eq_some_iff.mp hv).1
  have hnew : ∃ v, (c.store.begin key).waits[w.id]? = some v ∧ v.key = key ∧
      (v.phase = .parked ∨ ∃ text, v.phase = .returned text) := by
    cases hvalue : (c.store.slot key).value with
    | none => exact ⟨_, Store.waiting_begin hvalue, rfl, .inl rfl⟩
    | some text =>
      refine ⟨⟨key, .returned text, 1⟩, ?_, rfl, .inr ⟨text, rfl⟩⟩
      simp [Store.begin_of_value hvalue, w, Store.nextWait]
  have hinsert : ∀ e ∈ c.waits.insert name w, e = (name, w) ∨ e ∈ c.waits := fun e he =>
    KeyMap.mem_insert he
  have hordered : Ordered (c.waits.insert name w) := KeyMap.ordered_insert h.ordered name w
  have hstays : ∀ w' ∈ c.allWaits, ∃ v, (c.store.begin key).waits[w'.id]? = some v := by
    intro w' hw'
    obtain ⟨v, hv⟩ := h.known w' hw'
    exact ⟨_, Store.wait_step h.sound hv (.begin key)⟩
  have hnameless : ∀ w' ∈ (c.waits.get? name).toList ++ c.nameless,
      w' ∈ c.nameless ∨ (name, w') ∈ c.waits := by
    intro w' hw'
    rcases List.mem_append.mp hw' with hw' | hw'
    · exact .inr ((KeyMap.mem_iff_get? h.ordered name w').mpr (Option.mem_toList.mp hw'))
    · exact .inl hw'
  refine ⟨Store.sound_step h.sound (.begin key), hordered, ?_, ?_, ?_, ?_⟩
  · intro w' hw'
    rcases List.mem_append.mp hw' with hw' | hw'
    · obtain ⟨e, he, rfl⟩ := List.mem_map.mp hw'
      obtain rfl | he := hinsert e he
      · obtain ⟨v, hv, -⟩ := hnew
        exact ⟨v, hv⟩
      · exact hstays e.2 (mem_allWaits_of_mem he)
    · obtain hw' | hw' := hnameless w' hw'
      · exact hstays w' (List.mem_append_right _ hw')
      · exact hstays w' (mem_allWaits_of_mem hw')
  · intro e he e' he' hid
    obtain rfl | he := hinsert e he
    · obtain rfl | he' := hinsert e' he'
      · rfl
      · exact absurd hid.symm (hfresh e'.2 (mem_allWaits_of_mem he'))
    · obtain rfl | he' := hinsert e' he'
      · exact absurd hid (hfresh e.2 (mem_allWaits_of_mem he))
      · exact h.apart e he e' he' hid
  · intro e he w' hw' hid
    obtain rfl | hmem := hinsert e he
    · obtain hw' | hw' := hnameless w' hw'
      · exact hfresh w' (List.mem_append_right _ hw') hid
      · exact hfresh w' (mem_allWaits_of_mem hw') hid
    · obtain hw' | hw' := hnameless w' hw'
      · exact h.alone e hmem w' hw' hid
      · -- who had the name before has given it up
        obtain rfl := h.apart e hmem (name, w') hw' hid.symm
        have hsame := (KeyMap.mem_iff_get? hordered name w').mp he
        rw [KeyMap.get?_insert_self] at hsame
        obtain rfl := Option.some.inj hsame
        exact hfresh w (mem_allWaits_of_mem hmem) rfl
  · intro e he hopen
    obtain rfl | he := hinsert e he
    · exact hnew
    · exact (h.rests e he hopen).run h.sound [.begin key] rfl (by simp)

/-- Whether the time of a wait is over at a moment, and it has no value. -/
def isOver (c : Clients) (moment : Nat) (w : NamedWait) : Bool :=
  match w.deadline with
  | some d => d ≤ moment && (c.store.result? w.id).isNone
  | none => false

theorem isOver_iff {moment : Nat} :
    c.isOver moment w = true ↔ ∃ d, w.deadline = some d ∧ d ≤ moment ∧
      c.store.result? w.id = none := by
  rw [isOver]
  cases w.deadline with
  | none => simp
  | some d => simp

theorem waits_passTime (c : Clients) (moment : Nat) : (c.passTime moment).waits =
    c.waits.map fun e => (e.1, { e.2 with expired := e.2.expired || c.isOver moment e.2 }) := rfl

theorem Orderly.passTime (h : Orderly c) (moment : Nat) : Orderly (c.passTime moment) := by
  let late : List Store.Step := (c.allWaits.filter (c.isOver moment)).map fun w => .abandon w.id
  have hstore : (c.passTime moment).store = c.store.run late := foldl_step .abandon _ _
  have hstays : ∀ w ∈ c.allWaits, ∃ v, (c.passTime moment).store.waits[w.id]? = some v := by
    intro w hw
    obtain ⟨v, hv⟩ := h.known w hw
    rw [hstore]
    exact ⟨_, wait_run h.sound hv late⟩
  refine ⟨hstore ▸ Store.sound_run h.sound late, ?_, ?_, ?_, ?_, ?_⟩
  · rw [waits_passTime]
    exact List.pairwise_map.mpr h.ordered
  · intro w hw
    rcases List.mem_append.mp hw with hw | hw
    · rw [waits_passTime, List.map_map] at hw
      obtain ⟨e, he, rfl⟩ := List.mem_map.mp hw
      exact hstays e.2 (mem_allWaits_of_mem he)
    · exact hstays w (List.mem_append_right _ hw)
  · rw [waits_passTime]
    intro e he e' he' hid
    obtain ⟨d, hd, rfl⟩ := List.mem_map.mp he
    obtain ⟨d', hd', rfl⟩ := List.mem_map.mp he'
    rw [h.apart d hd d' hd' hid]
  · rw [waits_passTime]
    intro e he w hw
    obtain ⟨d, hd, rfl⟩ := List.mem_map.mp he
    exact h.alone d hd w hw
  · rw [waits_passTime, hstore]
    intro e he hopen
    obtain ⟨d, hd, rfl⟩ := List.mem_map.mp he
    obtain ⟨hexpired, hnot⟩ := Bool.or_eq_false_iff.mp hopen
    have hab : .abandon d.2.id ∉ late := by
      intro hmem
      obtain ⟨w, hw, heq⟩ := List.mem_map.mp hmem
      obtain ⟨hw, hover⟩ := List.mem_filter.mp hw
      have hid : w.id = d.2.id := Store.Step.abandon.inj heq
      rcases List.mem_append.mp hw with hw | hw
      · obtain ⟨d', hd', rfl⟩ := List.mem_map.mp hw
        rw [h.apart d' hd' d hd hid, hnot] at hover
        cases hover
      · exact h.alone d hd w hw hid
    have hset : Store.firstSet? d.2.key late = none := by
      refine List.findSome?_eq_none_iff.mpr fun st hst => ?_
      obtain ⟨w, -, rfl⟩ := List.mem_map.mp hst
      rfl
    exact (h.rests d hd hexpired).run h.sound late hset hab

theorem Orderly.abort (h : Orderly c) (hget : c.waits.get? name = some w) :
    Orderly ({ c with store := c.store.abandon w.id }.drop name) := by
  have hmem := (KeyMap.mem_iff_get? h.ordered name w).mpr hget
  -- the wait that is given up loses its name first, so that all who have one still rest
  refine (h.drop name).of_store [.abandon w.id] rfl fun e he hopen => ?_
  obtain ⟨he, hname⟩ := List.mem_filter.mp he
  refine (h.rests e he hopen).run h.sound [.abandon w.id] rfl fun hab => ?_
  have hid : e.2.id = w.id := Store.Step.abandon.inj (List.mem_singleton.mp hab)
  obtain rfl := h.apart e he (name, w) hmem hid
  simp at hname

/-- The clients when somebody asks for a wait: time passes up to its end, if it has no value
before. -/
def due (c : Clients) (w : NamedWait) : Clients :=
  match w.deadline, c.store.result? w.id with
  | some d, none => c.passTime d
  | _, _ => c

theorem step_join (c : Clients) (name : String) : c.step (.join name) =
    match c.waits.get? name with
    | none => (c, .unknown)
    | some w =>
      ((c.due w).drop name, (c.due w).resultOf (((c.due w).waits.get? name).getD w)) := rfl

theorem due_cases (c : Clients) (w : NamedWait) :
    c.due w = c ∨ ∃ moment, c.due w = c.passTime moment := by
  unfold due
  split
  · exact .inr ⟨_, rfl⟩
  · exact .inl rfl

theorem Orderly.due (h : Orderly c) (w : NamedWait) : Orderly (c.due w) := by
  obtain heq | ⟨moment, heq⟩ := c.due_cases w
  · rw [heq]
    exact h
  · rw [heq]
    exact h.passTime moment

theorem orderly_step (h : Orderly c) (st : Step) : Orderly (c.step st).1 := by
  cases st with
  | set k x => exact h.set k x
  | wait name k limit => exact h.wait name k limit
  | abort name =>
    rw [step]
    split
    · rename_i w hget
      exact h.abort hget
    · exact h
  | join name =>
    rw [step_join]
    split
    · exact h
    · exact (h.due _).drop name
  | _ => exact h

theorem orderly_after (calls : List Step) : Orderly (after calls) := by
  induction calls using List.reverseRecOn with
  | nil => exact orderly_empty
  | append_singleton calls st ih =>
    rw [after_concat]
    exact orderly_step ih st

/-! ## When a wait gave up -/

/-- A wait that began after `early` gave up in the course of `later`: its time was over, and nobody
had ever set its key. -/
def GivesUp (early : List Step) (name key : String) (limit : Nat) (later : List Step) : Prop :=
  ∃ between late, later = between ++ late ∧
    lastSet? key (early ++ .wait name key (some limit) :: between) = none ∧
    (after early).now + limit ≤ (after (early ++ .wait name key (some limit) :: between)).now

/-- What the calls so far tell of a wait. -/
def Began (calls : List Step) (name : String) (w : NamedWait) : Prop :=
  ∃ early limit later, calls = early ++ .wait name w.key limit :: later ∧
    w.deadline = limit.map ((after early).now + ·) ∧
    (w.expired = true → ∃ t, limit = some t ∧ GivesUp early name w.key t later)

theorem Began.concat {calls : List Step} (h : Began calls name w) (st : Step) :
    Began (calls ++ [st]) name w := by
  obtain ⟨early, limit, later, rfl, hdeadline, hexpired⟩ := h
  refine ⟨early, limit, later ++ [st], by simp, hdeadline, fun hover => ?_⟩
  obtain ⟨t, ht, between, late, rfl, hrest⟩ := hexpired hover
  exact ⟨t, ht, between, late ++ [st], by simp, hrest⟩

/-- Nobody has set the key of a wait that rests without a value. -/
theorem unset_of_rests {calls : List Step} (h : w.Rests (after calls).store)
    (hnone : (after calls).store.result? w.id = none) : lastSet? w.key calls = none := by
  obtain ⟨acts, hstore, hset⟩ := clients_run .empty calls
  have hsound : Sound (after calls).store := (orderly_after calls).sound
  have hvalue := h.unset hsound hnone
  rw [after, hstore] at hvalue
  rw [← hset]
  have hrun := Store.value_run Clients.empty.store acts w.key
  rw [hvalue] at hrun
  cases hlast : Store.lastSet? w.key acts with
  | none => rfl
  | some x =>
    rw [hlast] at hrun
    cases hrun

theorem lastSet?_concat_join (key : String) (calls : List Step) (name : String) :
    lastSet? key (calls ++ [.join name]) = lastSet? key calls := by
  rw [lastSet?, List.flatMap_append, Store.lastSet?_append]
  rfl

/-- When time passes for whoever asks for a wait, each wait that gives up has had no value until
then. -/
theorem began_due {calls : List Step} (h : ∀ e ∈ (after calls).waits, Began calls e.1 e.2)
    {asked : NamedWait} (hget : (after calls).waits.get? name = some asked) :
    ∀ e ∈ ((after calls).due asked).waits, Began (calls ++ [.join name]) e.1 e.2 := by
  have hnow : (after (calls ++ [.join name])).now = ((after calls).due asked).now := by
    rw [after_concat, step_join, hget]
    rfl
  obtain heq | ⟨moment, heq⟩ := (after calls).due_cases asked
  · rw [heq]
    intro e he
    exact (h e he).concat _
  · rw [heq] at hnow ⊢
    rw [waits_passTime]
    intro e he
    obtain ⟨d, hd, rfl⟩ := List.mem_map.mp he
    cases hbefore : d.2.expired with
    | true =>
      obtain ⟨early, limit, later, hcalls, hdeadline, hexpired⟩ := (h d hd).concat (.join name)
      exact ⟨early, limit, later, hcalls, hdeadline, fun _ => hexpired hbefore⟩
    | false =>
      obtain ⟨early, limit, later, hcalls, hdeadline, -⟩ := h d hd
      refine ⟨early, limit, later ++ [.join name], by simp [hcalls], hdeadline, fun hover => ?_⟩
      -- its time is over now: it has slept on so far, and the clock has moved to its end or beyond
      obtain ⟨deadline, hat, hle, hnone⟩ := isOver_iff.mp hover
      have hunset := unset_of_rests ((orderly_after calls).rests d hd hbefore) hnone
      obtain ⟨t, rfl, hend⟩ := Option.map_eq_some_iff.mp (hdeadline.symm.trans hat)
      refine ⟨t, rfl, later ++ [.join name], [], by simp, ?_, ?_⟩
      · rw [← List.cons_append, ← List.append_assoc, ← hcalls, lastSet?_concat_join]
        exact hunset
      · rw [← List.cons_append, ← List.append_assoc, ← hcalls, hnow, hend]
        exact Nat.le_trans hle (Nat.le_max_right _ _)

/-- The calls tell when each wait began that clients still ask for. -/
theorem began_after (calls : List Step) : ∀ e ∈ (after calls).waits, Began calls e.1 e.2 := by
  induction calls using List.reverseRecOn with
  | nil => simp [after, run, empty]
  | append_singleton calls st ih =>
    have hkept : ∀ e ∈ (after calls).waits, Began (calls ++ [st]) e.1 e.2 := fun e he =>
      (ih e he).concat st
    rw [after_concat]
    cases st with
    | wait name key limit =>
      intro e he
      obtain rfl | he := KeyMap.mem_insert he
      · exact ⟨calls, limit, [], rfl, rfl, fun hover => absurd hover Bool.false_ne_true⟩
      · exact hkept e he
    | abort name =>
      rw [step]
      split
      · intro e he
        exact hkept e (List.mem_filter.mp he).1
      · exact hkept
    | join name =>
      rw [step_join]
      split
      · exact hkept
      · rename_i w hget
        intro e he
        exact began_due ih hget e (List.mem_filter.mp he).1
    | _ => exact hkept

/-- A wait that is asked for is still there when time has passed for it. -/
theorem exists_get?_due (h : Orderly c) (hget : c.waits.get? name = some w) (asked : NamedWait) :
    ∃ w', (c.due asked).waits.get? name = some w' := by
  obtain heq | ⟨moment, heq⟩ := c.due_cases asked
  · exact ⟨w, by rw [heq, hget]⟩
  · have hmem := (KeyMap.mem_iff_get? h.ordered name w).mpr hget
    have hmem' := List.mem_map_of_mem (f := fun e : String × NamedWait =>
      (e.1, { e.2 with expired := e.2.expired || c.isOver moment e.2 })) hmem
    rw [heq]
    exact ⟨_, (KeyMap.mem_iff_get? (h.passTime moment).ordered name _).mp hmem'⟩

/-- A wait that answers that its time is over was given a limit when it began, and nobody had set
its key when that time had passed. -/
theorem gives_up {calls : List Step}
    (h : ((after calls).step (.join name)).2 = .joined (.error (.timeout key))) :
    ∃ early limit later, calls ++ [.join name] = early ++ .wait name key (some limit) :: later ∧
      GivesUp early name key limit later := by
  rw [step_join] at h
  split at h
  · cases h
  · rename_i w hget
    obtain ⟨w', hget'⟩ := exists_get?_due (orderly_after calls) hget w
    have hordered : Ordered ((after calls).due w).waits := ((orderly_after calls).due w).ordered
    obtain ⟨early, limit, later, hcalls, -, hexpired⟩ :=
      began_due (began_after calls) hget _ ((KeyMap.mem_iff_get? hordered name w').mpr hget')
    dsimp only at h
    rw [hget', Option.getD_some, resultOf] at h
    split at h
    · rename_i hover
      obtain ⟨t, rfl, hgives⟩ := hexpired hover
      cases h
      exact ⟨early, t, later, hcalls, hgives⟩
    · split at h <;> cases h

end Clients

end ScriptBench
