import ScriptBench.Proofs.Shared.Waiting
import ScriptBench.Shared.Clients

/-!
No wake-up is missed and none comes twice.

A client sees one wait at a time, so the statements follow a single wait through an arbitrary run:
`wait_run` says where it stands, `wakeups` counts how often a value reaches it. A wait that starts
without a value stays asleep until the first `set` of its key, gets the text of that `set` and keeps
it, whatever is set later (`parked_afterAll`, `delivered_afterAll`).

Limits on waiting add nothing: a client with a clock acts on the store by the same steps
(`clients_run`), and gives up a wait by abandoning it.
-/
namespace ScriptBench

/-- Where a sequence of steps leaves the wait `id` for `key`. -/
def WaitPhase.afterAll (key : String) (id : Nat) (p : WaitPhase) (steps : List Store.Step) :
    WaitPhase :=
  steps.foldl (fun p st => p.after key id st) p

def WaitPhase.isDelivered : WaitPhase → Bool
  | .delivered _ => true
  | _ => false

namespace Store

/-- The first value that a sequence of steps sets under a key. -/
def firstSet? (key : String) (steps : List Step) : Option Json := steps.findSome? (Step.sets? key)

/-- The last value that a sequence of steps sets under a key. -/
def lastSet? (key : String) (steps : List Step) : Option Json := firstSet? key steps.reverse

/-- How often a run delivers something to a wait. -/
def wakeups (id : Nat) : Store → List Step → Nat
  | _, [] => 0
  | s, st :: rest =>
    (if (s.step st).phase id ≠ s.phase id ∧ ((s.step st).phase id).isDelivered then 1 else 0) +
      wakeups id (s.step st) rest

/-! ## Runs -/

theorem run_append (s : Store) (xs ys : List Step) : s.run (xs ++ ys) = (s.run xs).run ys :=
  List.foldl_append

theorem sound_reached (steps : List Step) : Sound (empty.run steps) := sound_run sound_empty steps

theorem lastSet?_append (key : String) (xs ys : List Step) :
    lastSet? key (xs ++ ys) = (lastSet? key ys).or (lastSet? key xs) := by
  simp [lastSet?, firstSet?, List.findSome?_append]

theorem lastSet?_eq_none {key : String} {steps : List Step}
    (h : ∀ st ∈ steps, st.sets? key = none) :
    lastSet? key steps = none :=
  List.findSome?_eq_none_iff.mpr fun st hst => h st (List.mem_reverse.mp hst)

theorem lastSet?_cons (key : String) (st : Step) (rest : List Step) :
    lastSet? key (st :: rest) = (lastSet? key rest).or (st.sets? key) := by
  rw [← List.singleton_append, lastSet?_append]
  cases h : st.sets? key <;> simp [lastSet?, firstSet?, h]

/-- The value of a key is the last one set. -/
theorem value_run (s : Store) (steps : List Step) (key : String) :
    ((s.run steps).slot key).value =
      ((lastSet? key steps).map Json.text).or (s.slot key).value := by
  induction steps generalizing s with
  | nil => rfl
  | cons st rest ih =>
    rw [lastSet?_cons, run, List.foldl_cons, ← run, ih, value_step]
    cases lastSet? key rest <;> rfl

theorem value_reached (steps : List Step) (key : String) :
    ((empty.run steps).slot key).value = (lastSet? key steps).map Json.text := by
  rw [value_run, slot_empty, Option.or_none]

theorem wait_run {s : Store} (hs : Sound s) {id : Nat} {w : Wait} (hw : s.waits[id]? = some w)
    (steps : List Step) :
    (s.run steps).waits[id]? = some { w with phase := w.phase.afterAll w.key id steps } := by
  induction steps generalizing s w with
  | nil => exact hw
  | cons st rest ih => exact ih (sound_step hs st) (wait_step hs hw st)

/-! ## A wait through a run -/

theorem firstSet?_cons (key : String) (st : Step) (rest : List Step) :
    firstSet? key (st :: rest) = (st.sets? key).or (firstSet? key rest) := by
  rw [firstSet?, List.findSome?_cons]
  cases st.sets? key <;> rfl

theorem afterAll_cons (key : String) (id : Nat) (p : WaitPhase) (st : Step) (rest : List Step) :
    p.afterAll key id (st :: rest) = (p.after key id st).afterAll key id rest := rfl

theorem afterAll_append (key : String) (id : Nat) (p : WaitPhase) (xs ys : List Step) :
    p.afterAll key id (xs ++ ys) = (p.afterAll key id xs).afterAll key id ys :=
  List.foldl_append

theorem parked_afterAll {key : String} {id : Nat} {steps : List Step}
    (hset : firstSet? key steps = none) (hab : .abandon id ∉ steps) :
    WaitPhase.parked.afterAll key id steps = .parked := by
  induction steps with
  | nil => rfl
  | cons st rest ih =>
    rw [firstSet?_cons, Option.or_eq_none_iff] at hset
    have ih := ih hset.2 fun h => hab (List.mem_cons_of_mem _ h)
    rw [afterAll_cons]
    cases st with
    | set k v =>
      have hk : k ≠ key := fun h => by simp [Step.sets?, h] at hset
      simpa [hk] using ih
    | begin k => simpa using ih
    | resume i => simpa using ih
    | abandon i =>
      have hi : i ≠ id := fun hi => hab (by simp [hi])
      simpa [hi] using ih

theorem returned_afterAll (key : String) (id : Nat) (text : String) (steps : List Step) :
    (WaitPhase.returned text).afterAll key id steps = .returned text := by
  induction steps with
  | nil => rfl
  | cons st rest ih => rw [afterAll_cons, WaitPhase.returned_after, ih]

/-- What has been delivered stays, until the wait goes on and returns with it. -/
theorem delivered_afterAll {key : String} {id : Nat} (text : String) {steps : List Step}
    (hab : .abandon id ∉ steps) :
    (.resume id ∈ steps → (WaitPhase.delivered text).afterAll key id steps = .returned text) ∧
      (.resume id ∉ steps → (WaitPhase.delivered text).afterAll key id steps =
        .delivered text) := by
  induction steps with
  | nil => simp [WaitPhase.afterAll]
  | cons st rest ih =>
    have ih := ih fun h => hab (List.mem_cons_of_mem _ h)
    rw [afterAll_cons]
    cases st with
    | resume i =>
      by_cases hi : i = id
      · subst hi
        simp [returned_afterAll]
      · simpa [hi, Ne.symm hi] using ih
    | abandon i =>
      have hi : i ≠ id := fun hi => hab (by simp [hi])
      simpa [hi] using ih
    | set k v => simpa using ih
    | begin k => simpa using ih

/-! ## Counting wake-ups -/

/-- A step delivers something exactly when it sets the key of a wait that sleeps. -/
theorem delivers_iff {key : String} {id : Nat} {p : WaitPhase} {st : Step} :
    (p.after key id st ≠ p ∧ (p.after key id st).isDelivered) ↔ p = .parked ∧
      (st.sets? key).isSome := by
  cases p <;> cases st <;> grind [WaitPhase.after, WaitPhase.isDelivered, Step.sets?]

theorem wakeups_awake {s : Store} (hs : Sound s) {id : Nat} {w : Wait} (hw : s.waits[id]? = some w)
    (hp : w.phase ≠ .parked) (steps : List Step) : wakeups id s steps = 0 := by
  induction steps generalizing s w with
  | nil => rfl
  | cons st rest ih =>
    have hw' := wait_step hs hw st
    have hp' : w.phase.after w.key id st ≠ .parked := fun h => hp (WaitPhase.after_eq_parked h).1
    rw [wakeups, ih (sound_step hs st) hw' hp', phase_eq hw, phase_eq hw', if_neg]
    exact fun h => hp (delivers_iff.mp h).1

/-- A wait that sleeps and is not abandoned is woken once if its key is ever set, and else never. -/
theorem wakeups_parked {s : Store} (hs : Sound s) {id : Nat} {w : Wait} (hw : s.waits[id]? = some w)
    (hp : w.phase = .parked) {steps : List Step} (hab : .abandon id ∉ steps) :
    wakeups id s steps = if (firstSet? w.key steps).isSome then 1 else 0 := by
  -- the wait sleeps up to the first `set` of its key, and from there `wakeups_awake` counts
  induction steps generalizing s w with
  | nil => rfl
  | cons st rest ih =>
    have hab' : .abandon id ∉ rest := fun h => hab (List.mem_cons_of_mem _ h)
    have hw' := wait_step hs hw st
    rw [wakeups, phase_eq hw, phase_eq hw', firstSet?_cons]
    cases hst : st.sets? w.key with
    | some v =>
      have hp' : w.phase.after w.key id st ≠ .parked := fun h => by
        rw [(WaitPhase.after_eq_parked h).2] at hst
        cases hst
      rw [if_pos (delivers_iff.mpr ⟨hp, by simp [hst]⟩), wakeups_awake (sound_step hs st) hw' hp']
      rfl
    | none =>
      have hp' : w.phase.after w.key id st = .parked := by
        have hset : firstSet? w.key [st] = none := by simp [firstSet?, hst]
        rw [hp]
        exact parked_afterAll hset fun h => hab (by simp_all)
      rw [if_neg fun h => by simp [delivers_iff, hst] at h, ih (sound_step hs st) hw' hp' hab',
        Nat.zero_add, Option.none_or]

/-! ## Registration -/

/-- No wait of the store can be forgotten. -/
structure Attended (s : Store) : Prop where
  /-- Nobody is registered under a key with a value. -/
  valued : ∀ key text, (s.slot key).value = some text → (s.slot key).waiters = []
  /-- Whoever sleeps is registered once, under its key. -/
  once : ∀ (id : Nat) (w : Wait), s.waits[id]? = some w → w.phase = .parked →
    ∀ key, (s.slot key).waiters.count id = if key = w.key then 1 else 0
  /-- A wait that is not abandoned leaves its list only with the value that is being set. -/
  kept : ∀ (st : Step) (key : String), ∀ id ∈ (s.slot key).waiters, s.isClosed id = false →
    id ∈ ((s.step st).slot key).waiters ∨
      ∃ v, st.sets? key = some v ∧ (s.step st).phase id = .delivered v.text
  /-- Whoever sleeps goes on sleeping when asked: it does not look again. -/
  asleep : ∀ id, s.phase id = .parked → s.resume id = s
  /-- Every wait has looked for a value exactly once. -/
  looked : ∀ (id : Nat) (w : Wait), s.waits[id]? = some w → w.looks = 1

theorem exists_of_phase_parked {s : Store} {id : Nat} (h : s.phase id = .parked) :
    ∃ w, s.waits[id]? = some w ∧ w.phase = .parked := by
  cases hw : s.waits[id]? with
  | none => simp [phase, hw] at h
  | some w => exact ⟨w, rfl, by rw [← phase_eq hw, h]⟩

theorem Sound.attended {s : Store} (hs : Sound s) : Attended s where
  valued := hs.valued
  once id w hw hp key := by
    rw [(hs.nodup key).count]
    simp only [hs.mem_iff hw hp]
  kept st key id hid hlive := by
    cases hst : st.sets? key with
    | none => exact .inl (stays_registered hs hid hlive hst)
    | some v =>
      obtain ⟨w, hw, rfl, hp⟩ := hs.registered key id hid
      -- it is not abandoned, so it sleeps and takes the value
      have hp : w.phase = .parked := hp.resolve_right fun h => by
        simp [isClosed, phase_eq hw, h] at hlive
      refine .inr ⟨v, rfl, ?_⟩
      rw [phase_eq (wait_step hs hw st), hp]
      cases st <;> simp_all [Step.sets?]
  asleep id hp := by
    obtain ⟨w, hw, hp⟩ := exists_of_phase_parked hp
    exact hs.resume_parked hw hp
  looked := hs.looked

/-! ## A wait from its start -/

/-- A wait for a key that holds a value has returned with it when it starts, and is never woken. -/
theorem wait_of_value {s : Store} (hs : Sound s) {key text : String}
    (h : (s.slot key).value = some text) (after : List Step) :
    ((s.begin key).run after).result? s.nextWait = some (decode text) ∧
      wakeups s.nextWait (s.begin key) after = 0 := by
  have hs' : Sound (s.begin key) := sound_step hs (.begin key)
  have hw : (s.begin key).waits[s.nextWait]? = some ⟨key, .returned text, 1⟩ := by
    simp [begin_of_value h, nextWait]
  refine ⟨?_, wakeups_awake hs' hw (by simp) after⟩
  rw [result?, phase_eq (wait_run hs' hw after), returned_afterAll]

theorem waiting_begin {s : Store} {key : String} (h : (s.slot key).value = none) :
    (s.begin key).waits[s.nextWait]? = some ⟨key, .parked, 1⟩ := by
  simp [begin_of_none h, nextWait]

/-- A wait for a key without a value sleeps until the key is first set, and gets that value. -/
theorem wait_of_none {s : Store} (hs : Sound s) {key : String} (h : (s.slot key).value = none)
    {early late : List Step} {v : Json} (hearly : firstSet? key early = none)
    (hab : .abandon s.nextWait ∉ early ++ .set key v :: late) :
    ((s.begin key).run early).phase s.nextWait = .parked ∧
      (.resume s.nextWait ∈ late →
        ((s.begin key).run (early ++ .set key v :: late)).phase s.nextWait = .returned v.text) ∧
      (.resume s.nextWait ∉ late →
        ((s.begin key).run (early ++ .set key v :: late)).phase s.nextWait =
          .delivered v.text) := by
  have hs' : Sound (s.begin key) := sound_step hs (.begin key)
  have hw := waiting_begin h
  have hsleep : WaitPhase.parked.afterAll key s.nextWait early = .parked :=
    parked_afterAll hearly fun h => hab (List.mem_append_left _ h)
  have hlate : .abandon s.nextWait ∉ late := fun h => hab (by simp [h])
  refine ⟨?_, ?_⟩
  · rw [phase_eq (wait_run hs' hw early), hsleep]
  · rw [phase_eq (wait_run hs' hw _)]
    -- the run splits at the first `set`
    have hsplit : WaitPhase.parked.afterAll key s.nextWait (early ++ .set key v :: late) =
        (WaitPhase.delivered v.text).afterAll key s.nextWait late := by
      rw [afterAll_append, hsleep, afterAll_cons, WaitPhase.parked_set, if_pos rfl]
    rw [hsplit]
    exact delivered_afterAll v.text hlate

/-- A wait that starts without a value is woken once if its key is ever set, and else never. -/
theorem wakeups_started {s : Store} (hs : Sound s) {key : String} (h : (s.slot key).value = none)
    {after : List Step} (hab : .abandon s.nextWait ∉ after) :
    wakeups s.nextWait (s.begin key) after = if (firstSet? key after).isSome then 1 else 0 :=
  wakeups_parked (sound_step hs (.begin key)) (waiting_begin h) rfl hab

end Store

/-! ## Clients with a clock -/

namespace Clients

/-- What a step writes to the store. -/
def Step.writes : Step → List Store.Step
  | .set key v => [.set key v]
  | _ => []

/-- The last value that a sequence of steps sets under a key. -/
def lastSet? (key : String) (steps : List Step) : Option Json :=
  Store.lastSet? key (steps.flatMap Step.writes)

theorem run_fst (c : Clients) (steps : List Step) :
    (c.run steps).1 = steps.foldl (fun c st => (c.step st).1) c := by
  unfold run
  generalize ([] : List Reply) = replies
  induction steps generalizing c replies with
  | nil => rfl
  | cons st rest ih => exact ih (c.step st).1 _

/-- To act on the waits one after the other is to run the steps for them. -/
theorem foldl_step (act : Nat → Store.Step) (s : Store) (ws : List NamedWait) :
    ws.foldl (fun s w => s.step (act w.id)) s = s.run (ws.map fun w => act w.id) := by
  rw [Store.run, List.foldl_map]

theorem store_passTime (c : Clients) (moment : Nat) :
    ∃ ws : List NamedWait, (c.passTime moment).store =
      c.store.run (ws.map fun w => .abandon w.id) :=
  ⟨_, foldl_step .abandon _ _⟩

/-- A step of a client is some steps of the store, and sets what they set. -/
theorem store_step (c : Clients) (st : Step) :
    ∃ acts, (c.step st).1.store = c.store.run acts ∧
      ∀ key, Store.lastSet? key acts = Store.lastSet? key st.writes := by
  cases st with
  | set k v =>
    refine ⟨.set k v :: c.allWaits.map fun w => .resume w.id, ?_, fun key => ?_⟩
    · exact foldl_step .resume (c.store.set k v) c.allWaits
    · -- the waits that go on afterwards set nothing
      rw [Store.lastSet?_cons, Store.lastSet?_eq_none (by simp [Store.Step.sets?]), Step.writes,
        Store.lastSet?_cons]
      rfl
  | wait name k limit => exact ⟨[.begin k], rfl, fun _ => rfl⟩
  | abort name =>
    simp only [step]
    split
    · rename_i w _
      exact ⟨[.abandon w.id], rfl, fun _ => rfl⟩
    · exact ⟨[], rfl, fun _ => rfl⟩
  | join name =>
    simp only [step]
    split
    · exact ⟨[], rfl, fun _ => rfl⟩
    · split
      · rename_i d _ _
        obtain ⟨ws, hws⟩ := store_passTime c d
        exact ⟨_, hws, fun key => Store.lastSet?_eq_none (by simp [Store.Step.sets?])⟩
      · exact ⟨[], rfl, fun _ => rfl⟩
  | get k => exact ⟨[], rfl, fun _ => rfl⟩
  | count k => exact ⟨[], rfl, fun _ => rfl⟩
  | snapshot => exact ⟨[], rfl, fun _ => rfl⟩
  | done name => exact ⟨[], rfl, fun _ => rfl⟩

theorem clients_run (c : Clients) (steps : List Step) :
    ∃ acts, (c.run steps).1.store = c.store.run acts ∧
      ∀ key, Store.lastSet? key acts = lastSet? key steps := by
  rw [run_fst]
  induction steps generalizing c with
  | nil => exact ⟨[], rfl, fun _ => rfl⟩
  | cons st rest ih =>
    obtain ⟨acts, hstore, hset⟩ := store_step c st
    obtain ⟨more, hmore, hset'⟩ := ih (c.step st).1
    refine ⟨acts ++ more, ?_, fun key => ?_⟩
    · rw [List.foldl_cons, hmore, hstore, Store.run_append]
    · rw [Store.lastSet?_append, hset, hset', lastSet?, lastSet?, List.flatMap_cons,
        Store.lastSet?_append]

/-- A client that asks for a key with a value has it at once, whatever its limit. -/
theorem wait_answered {c : Clients} (hs : c.store.Sound) {key text : String}
    (h : (c.store.slot key).value = some text) (name : String) (limit : Option Nat) :
    ((c.step (.wait name key limit)).1.step (.done name)).2 = .done true ∧
      ((c.step (.wait name key limit)).1.step (.join name)).2 =
        .joined (.ok (Store.decode text)) := by
  have hres : (c.store.begin key).result? c.store.nextWait = some (Store.decode text) :=
    (Store.wait_of_value hs h []).1
  refine ⟨?_, ?_⟩
  · simp [step, hres]
  · simp [step, hres, resultOf]

end Clients

open Store in
/-- In every interleaving of clients no wait is forgotten; a wait for a key with a value has the
last one set at once; any other wait that is not abandoned is woken once, by the first `set` that
follows it and with the value of that one. All of it holds of clients with a clock, whatever their
limits. -/
theorem every_wait_is_woken_once :
    (∀ before : List Store.Step, (empty.run before).Attended) ∧
      (∀ (before : List Store.Step) (key : String) (v : Json), lastSet? key before = some v →
        let s := empty.run before
        (s.begin key).result? s.nextWait = some (decode v.text) ∧
          ∀ after, ((s.begin key).run after).result? s.nextWait = some (decode v.text) ∧
            wakeups s.nextWait (s.begin key) after = 0) ∧
      (∀ (before : List Store.Step) (key : String) (after : List Store.Step),
        lastSet? key before = none → .abandon (empty.run before).nextWait ∉ after →
        let s := empty.run before
        wakeups s.nextWait (s.begin key) after = (if (firstSet? key after).isSome then 1 else 0) ∧
          ∀ early v late, after = early ++ .set key v :: late → firstSet? key early = none →
            ((s.begin key).run early).phase s.nextWait = .parked ∧
              ((s.begin key).run (early ++ [.set key v])).phase s.nextWait = .delivered v.text ∧
              (.resume s.nextWait ∈ late →
                ((s.begin key).run after).phase s.nextWait = .returned v.text) ∧
              (.resume s.nextWait ∉ late →
                ((s.begin key).run after).phase s.nextWait = .delivered v.text)) ∧
      ∀ calls : List Clients.Step,
        let c := (Clients.empty.run calls).1
        (∃ acts, c.store = empty.run acts ∧ ∀ key, lastSet? key acts = Clients.lastSet? key calls) ∧
          ∀ (key : String) (v : Json), Clients.lastSet? key calls = some v →
            ∀ (name : String) (limit : Option Nat),
              let c' := (c.step (.wait name key limit)).1
              (c'.step (.done name)).2 = .done true ∧
                (c'.step (.join name)).2 = .joined (.ok (decode v.text)) := by
  refine ⟨fun before => (sound_reached before).attended, ?_, ?_, ?_⟩
  · intro before key v hset
    have hv : ((empty.run before).slot key).value = some v.text := by rw [value_run, hset]; rfl
    exact ⟨(wait_of_value (sound_reached before) hv []).1, wait_of_value (sound_reached before) hv⟩
  · intro before key after hset hab
    have hs := sound_reached before
    have hv : ((empty.run before).slot key).value = none := by rw [value_run, hset]; rfl
    refine ⟨wakeups_started hs hv hab, ?_⟩
    rintro early v late rfl hearly
    obtain ⟨hsleep, hwake⟩ := wait_of_none hs hv hearly hab
    have hfirst : .abandon (empty.run before).nextWait ∉ early ++ [.set key v] := by
      simp_all
    exact ⟨hsleep, (wait_of_none hs hv hearly hfirst).2.2 (by simp), hwake⟩
  · intro calls
    obtain ⟨acts, hstore, hset⟩ := Clients.clients_run .empty calls
    refine ⟨⟨acts, hstore, hset⟩, fun key v hv name limit => ?_⟩
    have hs : (Clients.empty.run calls).1.store.Sound := hstore ▸ sound_reached acts
    refine Clients.wait_answered hs ?_ name limit
    rw [hstore, Clients.empty, value_run, hset, hv]
    rfl

end ScriptBench
