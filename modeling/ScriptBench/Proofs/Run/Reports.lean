import ScriptBench.Proofs.Run.Progress

/-!
The report of a run.

1. To carry a run on is to make moves (`carry_eq_follow`), and to execute instances is to gather
   their reports by some steps: all are started, the run moves, and all reports are taken
   (`execute_is_gathered`).
2. Whatever the steps, the report of the run is that of its instances, each at its place, and it is
   there in the end (`every_instance_is_reported`).
3. A shared value is reported as its stored text is read back. That is the value itself if it has no
   doubles; a double may come back as one of its neighbours (`double_comes_back_changed`).
-/
namespace ScriptBench

namespace Run

variable {s : Settings}

theorem settle_eq_follow (s : Settings) (fuel : Nat) (r : Run) :
    ∃ moves, r.settle s fuel = r.follow s moves := by
  induction fuel generalizing r with
  | zero => exact ⟨[], rfl⟩
  | succ fuel ih =>
    rw [settle]
    split
    · obtain ⟨moves, hmoves⟩ := ih (r.turn s)
      refine ⟨r.numbers.map .advance ++ moves, ?_⟩
      rw [hmoves, follow_append]
      rfl
    · exact ⟨[], rfl⟩

theorem carry_eq_follow (s : Settings) (goal : Run → Bool) (fuel : Nat) (r : Run) :
    ∃ moves, r.carry s goal fuel = r.follow s moves := by
  induction fuel generalizing r with
  | zero => exact ⟨[], rfl⟩
  | succ fuel ih =>
    obtain ⟨turns, hturns⟩ := settle_eq_follow s r.enough r
    rw [carry, hturns]
    split
    · exact ⟨turns, rfl⟩
    · split
      · exact ⟨turns, rfl⟩
      · rename_i moment _
        obtain ⟨moves, hmoves⟩ := ih ((r.follow s turns).passTo s moment)
        rw [hmoves, passTo, ← follow_append, ← follow_append]
        exact ⟨_, rfl⟩

theorem awaits_eq_follow (s : Settings) (mine : List Nat) (r : Run) :
    ∃ moves, mine.foldl (await s) r = r.follow s moves := by
  induction mine generalizing r with
  | nil => exact ⟨[], rfl⟩
  | cons i rest ih =>
    have hawait : ∃ moves, r.await s i = r.follow s moves := by
      rw [await, carryOn]
      split
      · exact ⟨[], rfl⟩
      · exact carry_eq_follow s _ _ r
    obtain ⟨moves, hmoves⟩ := hawait
    obtain ⟨more, hmore⟩ := ih (r.follow s moves)
    refine ⟨moves ++ more, ?_⟩
    rw [List.foldl_cons, hmoves, hmore, follow_append]

end Run

namespace Gathering

variable {s : Settings} {g : Gathering} {instances : List (Setup × List Scope)}
  {marked : Nat → List Execution.Mark}

theorem spawn_all (s : Settings) (g : Gathering) :
    g.follow s (List.replicate g.coming.length .spawn) =
      { g with
        run := g.run.follow s (g.coming.map fun given => .start given.1 given.2)
        coming := []
        started :=
            g.started ++ (List.range g.coming.length).map (g.run.executions.length + ·) } := by
  obtain ⟨run, coming, started, reports, result⟩ := g
  induction coming generalizing run started with
  | nil => simp [follow, Run.follow]
  | cons given rest ih =>
    obtain ⟨setup, chain⟩ := given
    have hlength : (run.step s (.start setup chain)).executions.length =
        run.executions.length + 1 := by
      simp [Run.step]
    have hplaces : (List.range (rest.length + 1)).map (run.executions.length + ·) =
        run.executions.length :: (List.range rest.length).map (run.executions.length + 1 + ·) := by
      rw [List.range_succ_eq_map, List.map_cons, List.map_map]
      congr 1
      apply List.map_congr_left
      intro k _
      simp only [Function.comp_apply]
      omega
    have hrest := ih (run.step s (.start setup chain)) (started ++ [run.executions.length])
    rw [hlength, List.append_assoc, List.singleton_append, ← hplaces] at hrest
    exact hrest

theorem Gathered.reports_eq (h : Gathered s instances marked g)
    (hall : g.reports.length = g.started.length) :
    g.reports = g.started.filterMap g.run.report? := by
  have hmap : g.started.map g.run.report? = g.reports.map some := by
    apply List.ext_getElem?
    intro k
    rw [List.getElem?_map, List.getElem?_map]
    cases hreport : g.reports[k]? with
    | some report =>
      obtain ⟨i, hi, htaken⟩ := h.reports k report hreport
      rw [hi, Option.map_some, htaken, Option.map_some]
    | none =>
      have hnone : g.started[k]? = none := by
        rw [List.getElem?_eq_none_iff] at hreport ⊢
        omega
      rw [hnone, Option.map_none, Option.map_none]
  calc g.reports
      = (g.reports.map some).filterMap id := by simp
    _ = (g.started.map g.run.report?).filterMap id := by rw [hmap]
    _ = g.started.filterMap g.run.report? := by rw [List.filterMap_map]; rfl

/-- Who executes instances and gets all their reports has gathered them. -/
theorem execute_is_gathered (s : Settings) (r : Run) (instances : List (Setup × List Scope))
    (hfinished : ∀ k < instances.length,
      (r.execute s instances).1.isFinished (r.executions.length + k) = true) :
    ∃ steps, ((ofRun r instances).follow s steps).result = none ∧
      ((ofRun r instances).follow s (steps ++ [.conclude])).result =
        some (r.execute s instances).2 := by
  let mine := (List.range instances.length).map (r.executions.length + ·)
  let opened := r.follow s (instances.map fun given => .start given.1 given.2)
  obtain ⟨moves, hmoves⟩ := Run.awaits_eq_follow s mine opened
  let ended := opened.follow s moves
  have hexecute : r.execute s instances =
      (ended, .ofInstances .nil (mine.filterMap ended.report?) ended.world.store.snapshot) := by
    dsimp only [ended]
    rw [← hmoves]
    rfl
  rw [hexecute] at hfinished ⊢
  -- all are started, and the run moves
  let moved : Gathering := ⟨ended, [], mine, [], none⟩
  have hmoved : (ofRun r instances).follow s
      (List.replicate instances.length .spawn ++ moves.map .move) = moved := by
    have hspawned := spawn_all s (ofRun r instances)
    rw [follow_append]
    change ((ofRun r instances).follow s
      (List.replicate (ofRun r instances).coming.length .spawn)).follow s _ = moved
    rw [hspawned, follow_moves]
    rfl
  have hgathered := gathered_follow (gathered_ofRun s r instances)
    (List.replicate instances.length .spawn ++ moves.map .move)
  rw [hmoved] at hgathered
  -- all reports are taken
  have hthere : ∀ i ∈ moved.started, moved.run.isFinished i = true := by
    intro i hi
    obtain ⟨k, hk, rfl⟩ := List.mem_map.mp hi
    exact hfinished k (List.mem_range.mp hk)
  obtain ⟨n, reports, hjoined, hall⟩ := joins (s := s) (g := moved) rfl (Nat.zero_le _) hthere
  have hreports := gathered_follow hgathered (List.replicate n .join)
  rw [hjoined] at hreports
  have heq : reports = mine.filterMap ended.report? := Gathered.reports_eq hreports hall
  refine ⟨List.replicate instances.length .spawn ++ moves.map .move ++
    List.replicate n .join, ?_, ?_⟩
  · rw [follow_append, hmoved, hjoined]
  · rw [follow_append, follow_append, hmoved, hjoined, ← heq]
    simp [follow, step, moved, hall]

end Gathering

/-- Whatever the schedule, the report of a run has the reports of its instances, each once and at
its place, and the values that were shared last; it is there in the end, however the run goes on;
and executing instances is one such schedule. -/
theorem every_instance_is_reported (s : Settings) (early : List Store.Step) (visits : Visits)
    (channel : Option (Channel Event)) (instances : List (Setup × List Scope)) :
    let start : Run := .ofWorld ⟨Store.empty.run early, visits, channel⟩
    let g := Gathering.ofRun start instances
    (∀ (steps : List Gathering.Step) (report : RunReport), (g.follow s steps).result = none →
      (g.follow s (steps ++ [.conclude])).result = some report →
        Gathering.Reported s instances early g steps report) ∧
    ((∀ c, channel = some c → c.Fit) → ∀ steps : List Gathering.Step,
      ∃ more, (∀ st ∈ more, st.Natural) ∧ (g.follow s (steps ++ more)).result.isSome = true) ∧
    ∀ moves : List Run.Move,
      let r := start.follow s moves
      (∀ k < instances.length,
        (r.execute s instances).1.isFinished (r.executions.length + k) = true) →
      ∃ steps, (g.follow s steps).result = none ∧
        (g.follow s (steps ++ [.conclude])).result = some (r.execute s instances).2 := by
  intro start g
  refine ⟨?_, ?_, ?_⟩
  · intro steps report hnone hreport
    exact Gathering.reported_of_conclude hnone hreport
  · intro hfit steps
    have hlively : g.run.Lively := ⟨hfit, List.forall_mem_nil _⟩
    have hgathered := Gathering.gathered_follow (Gathering.gathered_ofRun s start instances) steps
    obtain ⟨more, hnatural, hresult⟩ :=
      Gathering.comes_to_end (Gathering.lively_follow (s := s) hlively steps) hgathered
    refine ⟨more, hnatural, ?_⟩
    rw [Gathering.follow_append]
    exact hresult
  · intro moves r hfinished
    obtain ⟨steps, hnone, hresult⟩ := Gathering.execute_is_gathered s r instances hfinished
    have hmoved : g.follow s (moves.map .move) = Gathering.ofRun r instances :=
      Gathering.follow_moves g moves
    refine ⟨moves.map .move ++ steps, ?_, ?_⟩
    · rw [Gathering.follow_append, hmoved, hnone]
    · rw [List.append_assoc, Gathering.follow_append, hmoved, hresult]

/-- One instance waits for what another one shares, and is reported first. -/
example :
    let consumer : Program := .call "wait_shared" "[\"token\"]" fun _ => .finish .settled
    let producer : Program := .call "set_shared" "[\"token\",\"abc\"]" fun _ => .finish .settled
    let given : List (Setup × List Scope) :=
      [(⟨"consumer", .null, [], none⟩, [⟨"scope", consumer, 1⟩]),
       (⟨"producer", .null, [], none⟩, [⟨"scope", producer, 1⟩])]
    let report := (Run.execute default (.ofWorld .empty) given).2
    report.instances.map (fun r => (r.name, r.status)) =
      [("consumer", .success), ("producer", .success)] ∧
      report.shared.map (fun e => (e.1, e.2.text)) = [("token", "\"abc\"")] := by decide +kernel

/-- The double that `1e-28` is read as is stored under a key, and the report of the run has a
neighbour of it. -/
theorem double_comes_back_changed :
    ¬ ∀ (s : Settings) (early : List Store.Step) (instances : List (Setup × List Scope))
      (steps : List Gathering.Step) (report : RunReport),
      let g := Gathering.ofRun (.ofWorld ⟨Store.empty.run early, [], none⟩) instances
      (g.follow s steps).result = none → (g.follow s (steps ++ [.conclude])).result = some report →
        ∀ key v, (key, v) ∈ report.shared ↔
          Store.lastSet? key (early ++ g.sets s steps) = some v := by
  intro h
  let double : Json := .float ((Binary64.ofNat 1).div (.tenPow 28))
  let early : List Store.Step := [.set "k" double]
  have hmem : ("k", double) ∈ (Store.empty.run early).snapshot :=
    (h default early [] [] _ rfl rfl "k" double).mpr rfl
  obtain ⟨x, hx, hback⟩ := (Store.mem_snapshot_run early "k" double).mp hmem
  obtain rfl : double = x := Option.some.inj hx
  have hchanged : (Store.decode double.text).text ≠ double.text := by decide +kernel
  exact hchanged (congrArg Json.text hback).symm

end ScriptBench
