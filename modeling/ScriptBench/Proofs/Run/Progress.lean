import ScriptBench.Proofs.Run.Gathering

/-!
Every run comes to its end.

Nobody has to step in for that: it is enough that executions move, that time passes, and that
whoever watches receives (`Run.Move.Natural`).

1. When its time is over an execution is cancelled (`expires`), and a cancelled one comes to the end
   of its chain: every call it makes is answered, and its programs are finite (`leaves`).
2. When all is received that is sent, nothing waits for room (`drains`). So every execution has its
   report in the end (`finishes`).
3. Then all reports can be taken, and the report of the run is made (`comes_to_end`).
-/
namespace ScriptBench

open Execution

/-- Nobody steps in: an execution moves, time passes, or an event is received. -/
inductive Run.Move.Natural : Run.Move → Prop where
  | advance (i : Nat) : Natural (.advance i)
  | expire (i : Nat) : Natural (.expire i)
  | pass (ms : Nat) : Natural (.pass ms)
  | receive : Natural .receive

/-- Reports are gathered, and nobody steps in. -/
inductive Gathering.Step.Natural : Gathering.Step → Prop where
  | spawn : Natural .spawn
  | join : Natural .join
  | conclude : Natural .conclude
  | move {m : Run.Move} (h : m.Natural) : Natural (.move m)

theorem Channel.fit_hear {c : Channel Event} (h : c.Fit) (number : Nat) (lines : List LogEntry) :
    (c.hear number lines).Fit := by
  induction lines generalizing c with
  | nil => exact h
  | cons line rest ih => exact ih (fit_offer h _)

namespace Run

variable {s : Settings} {r : Run} {i : Nat} {e : Execution}

theorem follow_append (r : Run) (xs ys : List Move) :
    r.follow s (xs ++ ys) = (r.follow s xs).follow s ys :=
  List.foldl_append

/-- What keeps a run from standing still: only a full channel makes anybody wait, and whose time is
over is cancelled. -/
structure Lively (r : Run) : Prop where
  fit : ∀ c, r.world.channel = some c → c.Fit
  cancelled : ∀ e ∈ r.executions, e.timedOut = true → e.cancelled = true

theorem lively_act (hr : r.Lively) (i : Nat) {f : Execution → World → Execution × World}
    (hfit : ∀ e c, r.executions[i]? = some e → (f e r.world).2.channel = some c → c.Fit)
    (hcancelled : ∀ e w, (e.timedOut = true → e.cancelled = true) →
      (f e w).1.timedOut = true → (f e w).1.cancelled = true) : (r.act i f).Lively := by
  unfold act
  split
  · exact hr
  · rename_i e he
    refine ⟨fun c hc => hfit e c he hc, fun d hd => ?_⟩
    rcases List.mem_or_eq_of_mem_set hd with hd | rfl
    · exact hr.cancelled d hd
    · exact hcancelled e r.world (hr.cancelled e (List.mem_of_getElem? he))

theorem fit_moved {e' : Execution} {w' : World} {mark : Option Mark} (hr : r.Lively)
    (h : Moved s e r.world mark e' w') (c : Channel Event) (hc : w'.channel = some c) : c.Fit := by
  obtain ⟨lines, -, ⟨-, hchannel⟩ | ⟨-, status, -, hchannel⟩⟩ := channel_moved h
  all_goals
    rw [hchannel] at hc
    obtain ⟨c', hc', rfl⟩ := Option.map_eq_some_iff.mp hc
    have hfit := Channel.fit_hear (hr.fit c' hc') e.inst.number lines
  · exact hfit
  · exact Channel.fit_send hfit _

theorem lively_step (hr : r.Lively) (m : Move) : (r.step s m).Lively := by
  cases m with
  | start setup chain =>
    refine ⟨hr.fit, fun e he => ?_⟩
    rcases List.mem_append.mp he with he | he
    · exact hr.cancelled e he
    · rw [List.mem_singleton.mp he]
      exact id
  | advance i =>
    refine lively_act hr i (fun e c _ hc => fit_moved hr (moved_advance s r.clock e r.world) c hc)
      fun e w h => ?_
    rw [(flags_advance e r.clock w).1, (flags_advance e r.clock w).2]
    exact h
  | elapse i =>
    refine lively_act hr i (fun e c _ hc => fit_moved hr (moved_elapse s r.clock e r.world) c hc)
      fun e w h => ?_
    rw [(flags_elapse e r.clock w).1, (flags_elapse e r.clock w).2]
    exact h
  | expire i =>
    show (r.act i fun e w => (e.expire s r.clock, w)).Lively
    refine lively_act hr i (fun e c _ hc => hr.fit c hc) fun e w h => ?_
    obtain heq | heq := expire_eq s r.clock e <;> dsimp only <;> rw [heq]
    · exact h
    · exact fun _ => rfl
  | cancel i =>
    show (r.act i fun e w => ({ e with cancelled := true }, w)).Lively
    exact lively_act hr i (fun e c _ hc => hr.fit c hc) fun e w _ _ => rfl
  | share key value => exact ⟨hr.fit, hr.cancelled⟩
  | pass ms => exact ⟨hr.fit, hr.cancelled⟩
  | receive =>
    refine ⟨fun c hc => ?_, hr.cancelled⟩
    obtain ⟨c', hc', rfl⟩ := Option.map_eq_some_iff.mp hc
    exact Channel.fit_receive (hr.fit c' hc')
  | unwatch =>
    refine ⟨fun c hc => ?_, hr.cancelled⟩
    obtain ⟨c', hc', rfl⟩ := Option.map_eq_some_iff.mp hc
    exact Channel.fit_abandon (hr.fit c' hc')

theorem lively_follow (hr : r.Lively) (moves : List Move) : (r.follow s moves).Lively := by
  induction moves generalizing r with
  | nil => exact hr
  | cons m rest ih => exact ih (lively_step hr m)

/-! ## One execution -/

/-- An execution comes to have a property, nobody stepping in. -/
def Reaches (s : Settings) (r : Run) (i : Nat) (P : Run → Execution → Prop) : Prop :=
  ∃ moves, (∀ m ∈ moves, m.Natural) ∧ ∃ e, (r.follow s moves).executions[i]? = some e ∧
    P (r.follow s moves) e

variable {P Q : Run → Execution → Prop}

theorem Reaches.here (he : r.executions[i]? = some e) (h : P r e) : Reaches s r i P :=
  ⟨[], List.forall_mem_nil _, e, he, h⟩

theorem Reaches.after {m : Move} (hm : m.Natural) (h : Reaches s (r.step s m) i P) :
    Reaches s r i P := by
  obtain ⟨moves, hmoves, hreaches⟩ := h
  exact ⟨m :: moves, List.forall_mem_cons.mpr ⟨hm, hmoves⟩, hreaches⟩

theorem Reaches.bind (h : Reaches s r i P) (hr : r.Lively)
    (hnext : ∀ r e, r.Lively → r.executions[i]? = some e → P r e → Reaches s r i Q) :
    Reaches s r i Q := by
  obtain ⟨moves, hmoves, e, he, hP⟩ := h
  obtain ⟨more, hmore, hreaches⟩ := hnext _ e (lively_follow hr moves) he hP
  refine ⟨moves ++ more, fun m hm => (List.mem_append.mp hm).elim (hmoves m) (hmore m), ?_⟩
  rw [follow_append]
  exact hreaches

theorem expires (hr : r.Lively) (he : r.executions[i]? = some e) :
    Reaches s r i fun _ e => e.status?.isSome = true ∨ e.cancelled = true := by
  by_cases hover : e.status?.isSome = true
  · exact .here he (.inl hover)
  by_cases ht : e.timedOut = true
  · exact .here he (.inr (hr.cancelled e (List.mem_of_getElem? he) ht))
  -- the clock goes as far as the time of the execution
  have hlimit : e.limit? s = some (e.startedAt + s.config.timeoutMs) := by
    unfold limit?
    unfold status? at hover
    split
    · rename_i hphase
      rw [hphase] at hover
      exact absurd rfl hover
    · rename_i hphase
      rw [hphase] at hover
      exact absurd rfl hover
    · rw [if_neg ht]
  refine .after (.pass (e.startedAt + s.config.timeoutMs))
    (.after (.expire i) (.here (act_self he) (.inr ?_)))
  dsimp only [step]
  rw [expire, hlimit]
  dsimp only
  rw [if_pos (Nat.le_add_left _ _)]

theorem Reaches.advance (he : r.executions[i]? = some e)
    (h : (r.step s (.advance i)).executions[i]? = some (e.advance s r.clock r.world).1 →
      Reaches s (r.step s (.advance i)) i P) : Reaches s r i P :=
  .after (.advance i) (h (act_self he))

theorem leaves_between (he : r.executions[i]? = some e) (hcancelled : e.cancelled = true)
    (hphase : e.phase = .between) : Reaches s r i fun _ e => e.status?.isSome = true := by
  refine .advance he fun he' => .here he' ?_
  simp only [Execution.advance, hphase]
  cases e.chain with
  | nil => rfl
  | cons scope rest =>
    dsimp only
    rw [if_pos hcancelled]
    rfl

/-- Cancelled, a script comes to its end, and with it the chain. -/
theorem leaves_running (p : Program) {r : Run} {e : Execution} (he : r.executions[i]? = some e)
    (hcancelled : e.cancelled = true) (hphase : e.phase = .running p) :
    Reaches s r i fun _ e => e.status?.isSome = true := by
  -- on the program: whatever the answer is, what follows is smaller
  induction p generalizing r e with
  | call name args next ih =>
    refine .advance he fun he' => ?_
    simp only [Execution.advance, hphase] at he'
    rcases hcall : (⟨e.inst, r.world⟩ : Host).call s e.cancelled name args with ⟨h, a | on⟩
    · rw [hcall] at he'
      exact ih a he' hcancelled rfl
    · rw [hcall] at he'
      -- the call is told at once that its execution is cancelled
      refine .advance he' fun he'' => ?_
      simp only [Execution.advance, hcancelled, if_true] at he''
      exact ih _ he'' rfl rfl
  | finish outcome =>
    refine .advance he fun he' => ?_
    simp only [Execution.advance, hphase] at he'
    split at he'
    · exact leaves_between he' hcancelled rfl
    · exact .here he' rfl
  | spin p ih =>
    refine .advance he fun he' => ?_
    simp only [Execution.advance, hphase, hcancelled, if_true] at he'
    exact ih he' hcancelled rfl

theorem leaves (he : r.executions[i]? = some e) (hcancelled : e.cancelled = true) :
    Reaches s r i fun _ e => e.status?.isSome = true := by
  cases hphase : e.phase with
  | between => exact leaves_between he hcancelled hphase
  | running p => exact leaves_running p he hcancelled hphase
  | suspended on since next =>
    refine .advance he fun he' => ?_
    simp only [Execution.advance, hphase, hcancelled, if_true] at he'
    exact leaves_running _ he' hcancelled rfl
  | leaving status => exact .here he (by rw [status?, hphase]; rfl)
  | finished report => exact .here he (by rw [status?, hphase]; rfl)

/-- When enough is received nothing waits for room. -/
theorem drains (hr : r.Lively) (he : r.executions[i]? = some e) :
    Reaches s r i fun r e' => e' = e ∧ ∀ c, r.world.channel = some c → c.waiting = [] := by
  cases hchannel : r.world.channel with
  | none => exact .here he ⟨rfl, fun c hc => by cases hchannel.symm.trans hc⟩
  | some c =>
    induction hn : c.waiting.length generalizing r c with
    | zero =>
      refine .here he ⟨rfl, fun c' hc' => ?_⟩
      rw [← Option.some.inj (hchannel.symm.trans hc')]
      exact List.length_eq_zero_iff.mp hn
    | succ n ih =>
      have hchannel' : (r.step s .receive).world.channel = some c.receive := by
        rw [step, withChannel, hchannel]
        rfl
      have hn' : c.receive.waiting.length = n := by
        rw [Channel.length_waiting_receive (hr.fit c hchannel), hn]
        rfl
      exact .after .receive (ih (lively_step hr .receive) he c.receive hchannel' hn')

theorem finishes (hr : r.Lively) (he : r.executions[i]? = some e) :
    Reaches s r i fun _ e => e.report?.isSome = true := by
  -- first its chain is over, then there is room to tell so
  have hover : Reaches s r i fun _ e => e.status?.isSome = true := by
    refine (expires hr he).bind hr fun r e _ he h => ?_
    obtain hover | hcancelled := h
    · exact .here he hover
    · exact leaves he hcancelled
  refine hover.bind hr fun r e hr he hover => ?_
  cases hphase : e.phase with
  | finished report => exact .here he (by rw [Execution.report?, hphase]; rfl)
  | leaving status =>
    refine (drains hr he).bind hr fun r e' _ he' h => ?_
    obtain ⟨rfl, hdrained⟩ := h
    refine .advance he' fun he'' => .here he'' ?_
    have hdone : Host.isAnnouncing ⟨e'.inst, r.world⟩ status = false := by
      rw [Host.isAnnouncing]
      split
      · rename_i c hc
        rw [hdrained c hc]
        rfl
      · rfl
    simp only [Execution.advance, hphase, hdone]
    rfl
  | between => simp [status?, hphase] at hover
  | running p => simp [status?, hphase] at hover
  | suspended on since next => simp [status?, hphase] at hover

theorem report?_follow {report : InstanceReport} (h : r.report? i = some report)
    (moves : List Move) :
    (r.follow s moves).report? i = some report := by
  obtain ⟨e, he, hreport⟩ := Option.bind_eq_some_iff.mp h
  obtain ⟨e', he', hreport'⟩ := follow_becomes (P := fun e _ => e.report? = some report)
    (fun _ _ _ _ h hbecomes => (report_becomes h hbecomes).1) he [] hreport moves
  rw [report?, he', Option.bind_some, hreport']

theorem all_finish (hr : r.Lively) (mine : List Nat)
    (hmine : ∀ i ∈ mine, ∃ e, r.executions[i]? = some e) :
    ∃ moves, (∀ m ∈ moves, m.Natural) ∧ ∀ i ∈ mine, (r.follow s moves).isFinished i = true := by
  induction mine generalizing r with
  | nil => exact ⟨[], List.forall_mem_nil _, List.forall_mem_nil _⟩
  | cons i rest ih =>
    obtain ⟨e, he⟩ := hmine i List.mem_cons_self
    -- the first has its report, and keeps it while the others get theirs
    obtain ⟨moves, hmoves, e', he', hreport⟩ := finishes (s := s) hr he
    obtain ⟨more, hmore, hfinished⟩ := ih (lively_follow (s := s) hr moves) fun j hj => by
      obtain ⟨d, hd⟩ := hmine j (List.mem_cons_of_mem _ hj)
      obtain ⟨d', hd', -⟩ :=
        follow_becomes (s := s) (P := fun _ _ => True) (fun _ _ _ _ _ _ => trivial) hd [] trivial
          moves
      exact ⟨d', hd'⟩
    refine ⟨moves ++ more, fun m hm => (List.mem_append.mp hm).elim (hmoves m) (hmore m), ?_⟩
    rw [follow_append]
    refine List.forall_mem_cons.mpr ⟨?_, hfinished⟩
    obtain ⟨report, hreport⟩ := Option.isSome_iff_exists.mp hreport
    have hthere : (r.follow s moves).report? i = some report := by
      rw [report?, he', Option.bind_some, hreport]
    rw [isFinished, report?_follow hthere]
    rfl

end Run

/-! ## Gathering -/

namespace Gathering

variable {s : Settings} {g : Gathering} {instances : List (Setup × List Scope)}
  {marked : Nat → List Mark}

theorem lively_step (hg : g.run.Lively) (st : Step) : (g.step s st).run.Lively := by
  cases st with
  | spawn =>
    rw [step]
    split
    · exact hg
    · exact (Run.lively_step (s := s) hg (.start _ _) :)
  | join =>
    rw [step]
    split <;> exact hg
  | conclude =>
    rw [step]
    split <;> exact hg
  | move m => exact Run.lively_step hg m
  | use st => exact ⟨hg.fit, hg.cancelled⟩

theorem lively_follow (hg : g.run.Lively) (steps : List Step) : (g.follow s steps).run.Lively := by
  induction steps generalizing g with
  | nil => exact hg
  | cons st rest ih => exact ih (lively_step hg st)

theorem follow_moves (g : Gathering) (moves : List Run.Move) :
    g.follow s (moves.map .move) = { g with run := g.run.follow s moves } := by
  induction moves generalizing g with
  | nil => rfl
  | cons m rest ih => exact ih (g.step s (.move m))

/-- All that are still to come can be started. -/
theorem spawns (g : Gathering) : ∃ n, (g.follow s (List.replicate n .spawn)).coming = [] := by
  induction hcoming : g.coming generalizing g with
  | nil => exact ⟨0, hcoming⟩
  | cons given rest ih =>
    have hstep : (g.step s .spawn).coming = rest := by rw [step, hcoming]
    obtain ⟨n, hn⟩ := ih (g.step s .spawn) hstep
    exact ⟨n + 1, hn⟩

theorem joins (hcoming : g.coming = []) (hcount : g.reports.length ≤ g.started.length)
    (hreports : ∀ i ∈ g.started, g.run.isFinished i = true) :
    ∃ n reports, g.follow s (List.replicate n .join) = { g with reports } ∧ reports.length =
      g.started.length := by
  induction hleft : g.started.length - g.reports.length generalizing g with
  | zero => exact ⟨0, g.reports, rfl, Nat.le_antisymm hcount (Nat.sub_eq_zero_iff_le.mp hleft)⟩
  | succ left ih =>
    have hnext : g.reports.length < g.started.length := Nat.lt_of_sub_eq_succ hleft
    obtain ⟨report, hreport⟩ := Option.isSome_iff_exists.mp (hreports _ (List.getElem_mem hnext))
    have hstep : g.step s .join = { g with reports := g.reports ++ [report] } := by
      rw [step, hcoming, List.getElem?_eq_getElem hnext, Option.bind_some, hreport]
    have hlength : (g.reports ++ [report]).length = g.reports.length + 1 := List.length_append
    obtain ⟨n, reports, hn, hall⟩ :=
      ih (g := { g with reports := g.reports ++ [report] }) hcoming (hlength ▸ hnext)
        hreports (by dsimp only; omega)
    refine ⟨n + 1, reports, ?_, hall⟩
    rw [List.replicate_succ, follow, List.foldl_cons, hstep]
    exact hn

theorem Gathered.length_reports_le (h : Gathered s instances marked g) :
    g.reports.length ≤ g.started.length := by
  refine Nat.le_of_not_lt fun hlt => ?_
  obtain ⟨i, hi, -⟩ := h.reports _ _ (List.getElem?_eq_getElem hlt)
  exact Nat.lt_irrefl _ (List.getElem?_eq_some_iff.mp hi).1

/-- Whatever has happened, the report of the run is there in the end, nobody stepping in. -/
theorem comes_to_end (hg : g.run.Lively) (hgathered : Gathered s instances marked g) :
    ∃ more, (∀ st ∈ more, st.Natural) ∧ (g.follow s more).result.isSome = true := by
  obtain ⟨spawned, hcoming⟩ := spawns (s := s) g
  let g₁ := g.follow s (List.replicate spawned .spawn)
  have hgathered₁ := gathered_follow hgathered (List.replicate spawned .spawn)
  have hthere : ∀ i ∈ g₁.started, ∃ e, g₁.run.executions[i]? = some e := fun i hi => by
    obtain ⟨_, _, e, he, -⟩ := hgathered₁.exists_lives hi
    exact ⟨e, he⟩
  obtain ⟨moves, hmoves, hfinished⟩ :=
    Run.all_finish (s := s) (lively_follow hg _) g₁.started hthere
  obtain ⟨joined, reports, hjoined, hall⟩ :=
    joins (s := s) (g := { g₁ with run := g₁.run.follow s moves }) hcoming
      hgathered₁.length_reports_le hfinished
  refine ⟨List.replicate spawned .spawn ++
    (moves.map .move ++ (List.replicate joined .join ++ [.conclude])),
    fun st hst => ?_, ?_⟩
  · simp only [List.mem_append, List.mem_replicate, List.mem_map, List.mem_singleton] at hst
    obtain ⟨-, rfl⟩ | ⟨m, hm, rfl⟩ | ⟨-, rfl⟩ | rfl := hst
    · exact .spawn
    · exact .move (hmoves m hm)
    · exact .join
    · exact .conclude
  · rw [follow_append, follow_append, follow_moves, follow_append, hjoined]
    show (step s { g₁ with run := g₁.run.follow s moves, reports } .conclude).result.isSome = true
    rw [step]
    split
    · rfl
    · -- all is ready, so the report must have been made before
      rename_i hready
      cases hresult : g₁.result with
      | some report => rfl
      | none =>
        refine absurd ?_ hready
        rw [hresult, show g₁.coming = [] from hcoming, show reports.length =
          g₁.started.length from hall]
        simp

end Gathering

end ScriptBench
