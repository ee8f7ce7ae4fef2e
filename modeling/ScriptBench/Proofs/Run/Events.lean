import ScriptBench.Proofs.Run.Muted
import ScriptBench.Proofs.Run.Progress

/-!
The events of a run.

1. What an execution does adds events about its own instance to a channel, and nothing else
   (`Gains`, `gains_hear`, `gains_send`).
2. Of an instance a channel holds lines of its log, in their order, and then that it has ended, once
   it has. Lines may be missing; the end is not, as long as somebody listens (`Tells`). Where there
   is a report, the end waits for room no longer (`Shown`, kept by a move of the execution:
   `shown_moved`, and by moves of others: `Shown.gains`).
3. So it is for all executions of a run (`Watched`, kept by every move: `watched_step`), and what
   has been received is an ordered part of what the logs have (`events_follow_logs`).
-/
namespace ScriptBench

namespace Event

/-- The instance that an event is about. -/
def number : Event → Nat
  | .log n _ => n
  | .finished n _ => n

/-- The line of a log that an event tells. -/
def line? : Event → Option LogEntry
  | .log _ line => some line
  | .finished _ _ => none

/-- The events about one instance. -/
def about (number : Nat) (events : List Event) : List Event := events.filter (·.number == number)

variable {i : Nat} {xs ys : List Event}

theorem about_append (i : Nat) (xs ys : List Event) :
    about i (xs ++ ys) = about i xs ++ about i ys :=
  List.filter_append _ _

theorem mem_about {x : Event} : x ∈ about i xs ↔ x ∈ xs ∧ x.number = i := by
  simp [about]

theorem about_eq_nil (h : ∀ x ∈ xs, x.number ≠ i) : about i xs = [] := by
  apply List.filter_eq_nil_iff.mpr
  intro x hx
  simpa using h x hx

theorem about_eq_nil_of_subset (hxs : about i xs = []) (h : ∀ y ∈ ys, y.number = i → y ∈ xs) :
    about i ys = [] := by
  apply about_eq_nil
  intro y hy hnumber
  have hmem : y ∈ about i xs := mem_about.mpr ⟨h y hy hnumber, hnumber⟩
  rw [hxs] at hmem
  cases hmem

theorem about_eq_self (h : ∀ x ∈ xs, x.number = i) : about i xs = xs := by
  apply List.filter_eq_self.mpr
  intro x hx
  simpa using h x hx

theorem lines_log (i : Nat) (lines : List LogEntry) :
    (lines.map (Event.log i)).filterMap line? = lines := by
  induction lines with
  | nil => rfl
  | cons line rest ih => rw [List.map_cons, List.filterMap_cons, line?, ih]

end Event

open Event (about)

/-! ## What a channel gets -/

namespace Channel

variable {c c' c'' : Channel Event} {i : Nat} {new more : List Event}

/-- Events about one instance have got into the channel, and nothing else has happened to it. -/
structure Gains (i : Nat) (c c' : Channel Event) (new : List Event) : Prop where
  stream : c'.stream = c.stream ++ new
  number : ∀ x ∈ new, x.number = i
  receiving : c'.receiving = c.receiving
  /-- What waits besides tells that the instance has ended. -/
  waiting : ∀ x ∈ c'.waiting, x ∈ c.waiting ∨ ∃ status, x = .finished i status

theorem Gains.refl (i : Nat) (c : Channel Event) : Gains i c c [] where
  stream := (List.append_nil _).symm
  number := List.forall_mem_nil _
  receiving := rfl
  waiting _ hx := .inl hx

theorem Gains.trans (h : Gains i c c' new) (h' : Gains i c' c'' more) :
    Gains i c c'' (new ++ more) where
  stream := by rw [h'.stream, h.stream, List.append_assoc]
  number x hx := (List.mem_append.mp hx).elim (h.number x) (h'.number x)
  receiving := h'.receiving.trans h.receiving
  waiting x hx := (h'.waiting x hx).elim (h.waiting x) .inr

/-- Of the lines that are offered some get in, in their order, and none if nobody listens. -/
theorem gains_hear (i : Nat) (lines : List LogEntry) (c : Channel Event) :
    ∃ heard : List LogEntry, heard.Sublist lines ∧ (c.receiving = false → heard = []) ∧
      Gains i c (c.hear i lines) (heard.map (.log i)) := by
  -- line by line: each finds the channel as the lines before have left it
  induction lines generalizing c with
  | nil => exact ⟨[], .slnil, fun _ => rfl, .refl i c⟩
  | cons line rest ih =>
    obtain ⟨heard, hheard, hgone, hgains⟩ := ih (c.offer (.log i line))
    obtain ⟨hwaiting, hreceiving⟩ := kept_offer c (.log i line)
    obtain hstream | ⟨hlistens, hstream⟩ := stream_offer c (.log i line)
    · refine ⟨heard, hheard.cons line, fun h => hgone (hreceiving.trans h), ?_⟩
      have hoffer : Gains i c (c.offer (.log i line)) [] :=
        { stream := by rw [hstream, List.append_nil]
          number := List.forall_mem_nil _
          receiving := hreceiving
          waiting := fun x hx => .inl (hwaiting ▸ hx) }
      exact hoffer.trans hgains
    · refine ⟨line :: heard, hheard.cons_cons line, fun h => ?_, ?_⟩
      · rw [hlistens] at h
        cases h
      · have hoffer : Gains i c (c.offer (.log i line)) [.log i line] :=
          { stream := hstream
            number := by simp [Event.number]
            receiving := hreceiving
            waiting := fun x hx => .inl (hwaiting ▸ hx) }
        exact hoffer.trans hgains

theorem gains_send (i : Nat) (status : Status) (c : Channel Event) :
    Gains i c (c.send (.finished i status)) (if c.receiving then [.finished i status] else []) := by
  cases hreceiving : c.receiving with
  | false =>
    rw [send_of_gone hreceiving]
    exact .refl i c
  | true =>
    exact
      { stream := stream_send hreceiving _
        number := by simp [Event.number]
        receiving := receiving_send c _
        waiting := fun x hx => (mem_waiting_send hx).imp_right fun h => ⟨status, h⟩ }

theorem Gains.others (h : Gains i c c' new) {j : Nat} (hj : j ≠ i) :
    about j c'.stream = about j c.stream := by
  have hnone : about j new = [] := Event.about_eq_nil fun x hx => by
    rw [h.number x hx]
    exact hj.symm
  rw [h.stream, Event.about_append, hnone, List.append_nil]

theorem Gains.own (h : Gains i c c' new) : about i c'.stream = about i c.stream ++ new := by
  rw [h.stream, Event.about_append, Event.about_eq_self h.number]

/-- Of an instance the channel holds some lines of its log, in their order, and then what tells of
its end. Nothing of that is lost while somebody listens. -/
def Tells (i : Nat) (logs : List LogEntry) (farewell : List Event) (c : Channel Event) : Prop :=
  ∃ kept : List LogEntry, kept.Sublist logs ∧ about i c.stream <+: kept.map (.log i) ++ farewell ∧
    (c.receiving = true → about i c.stream = kept.map (.log i) ++ farewell)

variable {logs : List LogEntry} {farewell : List Event}

theorem Tells.congr (h : c.Tells i logs farewell) (hstream : about i c'.stream = about i c.stream)
    (hreceiving : c'.receiving = c.receiving) : c'.Tells i logs farewell := by
  rw [Tells, hstream, hreceiving]
  exact h

theorem tells_hear (h : c.Tells i logs []) (lines : List LogEntry) :
    (c.hear i lines).Tells i (logs ++ lines) [] := by
  obtain ⟨kept, hkept, hfirst, hall⟩ := h
  obtain ⟨heard, hheard, hgone, hgains⟩ := gains_hear i lines c
  rw [List.append_nil] at hfirst hall
  refine ⟨kept ++ heard, hkept.append hheard, ?_, ?_⟩
  · rw [hgains.own, List.append_nil, List.map_append]
    cases hreceiving : c.receiving with
    | true => exact ⟨[], by rw [hall hreceiving, List.append_nil]⟩
    | false =>
      rw [hgone hreceiving, List.map_nil, List.append_nil, List.append_nil]
      exact hfirst
  · intro hreceiving
    rw [hgains.own, List.append_nil, List.map_append, hall (hgains.receiving ▸ hreceiving)]

theorem tells_send (h : c.Tells i logs []) (status : Status) :
    (c.send (.finished i status)).Tells i logs [.finished i status] := by
  obtain ⟨kept, hkept, hfirst, hall⟩ := h
  have hgains := gains_send i status c
  rw [List.append_nil] at hfirst hall
  refine ⟨kept, hkept, ?_, ?_⟩
  · rw [hgains.own]
    cases hreceiving : c.receiving with
    | true => exact ⟨[], by rw [hall hreceiving, List.append_nil, if_pos rfl]⟩
    | false =>
      simp only [Bool.false_eq_true, if_false, List.append_nil]
      exact hfirst.trans (List.prefix_append _ _)
  · intro hreceiving
    have hreceiving : c.receiving = true := hgains.receiving ▸ hreceiving
    rw [hgains.own, hall hreceiving, if_pos hreceiving]

theorem tells_receive (h : c.Tells i logs farewell) : c.receive.Tells i logs farewell :=
  h.congr (by rw [stream_receive]) (receiving_receive c)

theorem tells_abandon (h : c.Tells i logs farewell) : c.abandon.Tells i logs farewell := by
  obtain ⟨kept, hkept, hfirst, -⟩ := h
  refine ⟨kept, hkept, ?_, ?_⟩
  · have hreceived : c.abandon.stream <+: c.stream := by
      simp [stream, abandon, List.append_assoc]
    exact (hreceived.filter _).trans hfirst
  · intro hreceiving
    cases hreceiving

end Channel

open Channel (Gains gains_hear gains_send tells_hear tells_send tells_receive tells_abandon)

/-! ## One instance -/

namespace Execution

variable {s : Settings} {e e' : Execution} {w w' : World} {mark : Option Mark} {i : Nat}
  {c c' : Channel Event}

/-- What tells that an execution is over, once it is. -/
def farewell (e : Execution) : List Event := e.status?.toList.map (.finished e.inst.number)

/-- What a channel holds of an execution. -/
structure Shown (s : Settings) (i : Nat) (e : Execution) (c : Channel Event) : Prop where
  number : e.inst.number = i
  tells : c.Tells i e.inst.logs e.farewell
  /-- There is a report only when nothing about it waits for room. -/
  handed : ∀ r, e.report? = some r → about i c.waiting = []
  told : Told s e

theorem status?_of_report {r : InstanceReport} (h : e.report? = some r) :
    e.status? = some r.status := by
  unfold report? at h
  split at h
  · rename_i hphase
    rw [status?, hphase, Option.some.inj h]
  · cases h

/-- An execution that is over does nothing but hand out its report, when the word of its end waits
no longer. -/
theorem over_moved {status : Status} (hstatus : e.status? = some status)
    (h : Moved s e w mark e' w') :
    w' = w ∧ e'.inst = e.inst ∧ e'.status? = some status ∧
      (e' = e ∨ Host.isAnnouncing ⟨e.inst, w⟩ status = false) := by
  have hidle : ¬ e.Working := fun hworking => by
    rw [hworking.status?_eq_none] at hstatus
    cases hstatus
  cases h with
  | rested => exact ⟨rfl, rfl, hstatus, .inl rfl⟩
  | passed _ _ hworking _ _ => exact absurd hworking hidle
  | answered hphase _ => simp [status?, hphase] at hstatus
  | suspended _ hphase _ => simp [status?, hphase] at hstatus
  | resumed hphase _ => simp [status?, hphase] at hstatus
  | ended _ hworking _ => exact absurd hworking hidle
  | reported hphase hdone =>
    obtain rfl : _ = status := by simpa [status?, hphase] using hstatus
    exact ⟨rfl, rfl, by simp [status?, Instance.report], .inr hdone⟩

/-- What waits about an execution is the word of its end. -/
theorem Shown.waits (h : Shown s i e c)
    (hwaiting : ∀ x ∈ c.waiting, ∃ j status, x = .finished j status) {x : Event}
    (hx : x ∈ about i c.waiting) : x ∈ e.farewell := by
  obtain ⟨kept, -, hfirst, -⟩ := h.tells
  obtain ⟨hmem, hnumber⟩ := Event.mem_about.mp hx
  have hstream : x ∈ about i c.stream := Event.mem_about.mpr ⟨List.mem_append_right _ hmem, hnumber⟩
  obtain hline | hend := List.mem_append.mp (hfirst.subset hstream)
  · -- a line never waits
    obtain ⟨line, -, rfl⟩ := List.mem_map.mp hline
    obtain ⟨j, status, hfinished⟩ := hwaiting _ hmem
    cases hfinished
  · exact hend

/-- The moves of others leave what is shown of an execution. -/
theorem Shown.gains {j : Nat} {new : List Event} (h : Shown s j e c) (hgains : Gains i c c' new)
    (hj : j ≠ i) :
    Shown s j e c' where
  number := h.number
  tells := h.tells.congr (hgains.others hj) hgains.receiving
  handed r hr := by
    apply Event.about_eq_nil_of_subset (h.handed r hr)
    intro x hx hnumber
    obtain hold | ⟨status, rfl⟩ := hgains.waiting x hx
    · exact hold
    · exact absurd hnumber.symm hj
  told := h.told

theorem shown_over {status : Status} (h : Shown s i e c)
    (hwaiting : ∀ x ∈ c.waiting, ∃ j status, x = .finished j status) (hchannel : w.channel = some c)
    (hstatus : e.status? = some status) (hmoved : Moved s e w mark e' w') :
    w'.channel = some c ∧ Shown s i e' c := by
  obtain ⟨rfl, hinst, hstatus', hdone⟩ := over_moved hstatus hmoved
  have hfarewell : e'.farewell = e.farewell := by rw [farewell, farewell, hinst, hstatus, hstatus']
  refine ⟨hchannel, ?_, ?_, ?_, told_moved h.told hmoved⟩
  · rw [hinst, h.number]
  · rw [hinst, hfarewell]
    exact h.tells
  · intro r hr
    obtain rfl | hdone := hdone
    · exact h.handed r hr
    · -- what would wait is the word of the end, which does not wait any longer
      apply List.eq_nil_iff_forall_not_mem.mpr
      intro x hx
      have hend : x = .finished e.inst.number status := by
        have hmem := h.waits hwaiting hx
        simpa [farewell, hstatus] using hmem
      have hwaits : x ∈ c.waiting := (Event.mem_about.mp hx).1
      simp [Host.isAnnouncing, hchannel, ← hend, hwaits] at hdone

/-- The moves of an execution itself show as lines of its log, and then as its end. -/
theorem shown_moved (h : Shown s i e c)
    (hwaiting : ∀ x ∈ c.waiting, ∃ j status, x = .finished j status) (hchannel : w.channel = some c)
    (hnumber : e'.inst.number = e.inst.number) (hmoved : Moved s e w mark e' w') :
    ∃ c' new, w'.channel = some c' ∧ Gains i c c' new ∧ Shown s i e' c' := by
  cases hstatus : e.status? with
  | some status =>
    obtain ⟨hchannel', hshown⟩ := shown_over h hwaiting hchannel hstatus hmoved
    exact ⟨c, [], hchannel', .refl i c, hshown⟩
  | none =>
    have hi : e.inst.number = i := h.number
    have htold : Told s e' := told_moved h.told hmoved
    have hnone : e.farewell = [] := by simp [farewell, hstatus]
    have htells : c.Tells i e.inst.logs [] := hnone ▸ h.tells
    obtain ⟨lines, hlogs, hmove⟩ := channel_moved hmoved
    obtain ⟨heard, -, -, hgains⟩ := gains_hear i lines c
    simp only [hchannel, Option.map_some, hi] at hmove
    obtain ⟨hstill, hheard⟩ | ⟨-, status, hphase, hsent⟩ := hmove
    · -- it is not over yet
      have hnone' : e'.farewell = [] := by simp [farewell, hstill, hstatus]
      refine ⟨_, _, hheard, hgains, hnumber.trans hi, ?_, ?_, htold⟩
      · rw [hlogs, hnone']
        exact tells_hear htells lines
      · intro r hr
        have hover := status?_of_report hr
        rw [hstill, hstatus] at hover
        cases hover
    · -- it ends
      have hover : e'.farewell = [.finished i status] := by
        simp [farewell, hnumber, hi, status?, hphase]
      refine ⟨_, _, hsent, hgains.trans (gains_send i status _), hnumber.trans hi, ?_, ?_, htold⟩
      · rw [hlogs, hover]
        exact tells_send (tells_hear htells lines) status
      · intro r hr
        simp [report?, hphase] at hr

end Execution

theorem Instance.foldl_record_logs (records : List Instance.Record) (i : Instance) :
    i.logs <+: (records.foldl Instance.record i).logs := by
  induction records generalizing i with
  | nil => exact List.prefix_refl _
  | cons r rest ih =>
    have hrecord : i.logs <+: (i.record r).logs := by
      cases r with
      | line entry => exact List.prefix_append _ _
      | _ => exact List.prefix_refl _
    exact hrecord.trans (ih _)

theorem Instance.Outgrown.logs {i i' : Instance} (h : i.Outgrown i') : i.logs <+: i'.logs := by
  obtain ⟨scope, records, rfl⟩ := h
  exact Instance.foldl_record_logs records { i with scope }

/-! ## Runs -/

namespace Run

open Execution

variable {s : Settings} {r : Run} {c c' : Channel Event} {i : Nat} {e e' : Execution} {w' : World}

/-- Somebody listens, and hears of every execution. -/
structure Watched (s : Settings) (r : Run) (c : Channel Event) : Prop where
  channel : r.world.channel = some c
  known : ∀ x ∈ c.stream, x.number < r.executions.length
  waiting : ∀ x ∈ c.waiting, ∃ i status, x = .finished i status
  shown : ∀ (i : Nat) (e : Execution), r.executions[i]? = some e → e.Shown s i c

theorem watched_ofWorld (s : Settings) (store : Store) (visits : Visits) (capacity : Nat) :
    (ofWorld ⟨store, visits, some (.ofCapacity capacity)⟩).Watched s (.ofCapacity capacity) where
  channel := rfl
  known := List.forall_mem_nil _
  waiting := List.forall_mem_nil _
  shown i e he := by simp [ofWorld] at he

theorem Watched.put {new : List Event} (h : r.Watched s c) (he : r.executions[i]? = some e)
    (hchannel : w'.channel = some c') (hgains : Gains i c c' new) (hshown : e'.Shown s i c') :
    Watched s { r with executions := r.executions.set i e', world := w' } c' where
  channel := hchannel
  known x hx := by
    rw [hgains.stream] at hx
    rw [List.length_set]
    obtain hold | hnew := List.mem_append.mp hx
    · exact h.known x hold
    · rw [hgains.number x hnew]
      exact (List.getElem?_eq_some_iff.mp he).1
  waiting x hx := (hgains.waiting x hx).elim (h.waiting x) fun ⟨status, heq⟩ => ⟨i, status, heq⟩
  shown j d hd := by
    by_cases hj : i = j
    · subst hj
      rw [List.getElem?_set_self (List.getElem?_eq_some_iff.mp he).1] at hd
      exact Option.some.inj hd ▸ hshown
    · rw [List.getElem?_set_ne hj] at hd
      exact (h.shown j d hd).gains hgains (Ne.symm hj)

theorem watched_moved {f : Execution → World → Execution × World} (h : r.Watched s c) (i : Nat)
    (hmoved : ∀ e w, ∃ mark, Moved s e w mark (f e w).1 (f e w).2)
    (hnumber : ∀ e w, (f e w).1.inst.number = e.inst.number) : ∃ c', (r.act i f).Watched s c' := by
  unfold act
  split
  · exact ⟨c, h⟩
  · rename_i e he
    obtain ⟨mark, hmoved⟩ := hmoved e r.world
    obtain ⟨c', new, hchannel, hgains, hshown⟩ :=
      shown_moved (h.shown i e he) h.waiting h.channel (hnumber e r.world) hmoved
    exact ⟨c', h.put he hchannel hgains hshown⟩

theorem watched_flagged {f : Execution → Execution} (h : r.Watched s c) (i : Nat)
    (hinst : ∀ e, (f e).inst = e.inst) (hphase : ∀ e, (f e).phase = e.phase) :
    (r.act i fun e w => (f e, w)).Watched s c := by
  unfold act
  split
  · exact h
  · rename_i e he
    have hshown := h.shown i e he
    have hstatus : (f e).status? = e.status? := by rw [status?, status?, hphase]
    have hreport : (f e).report? = e.report? := by rw [Execution.report?, Execution.report?, hphase]
    have hfarewell : (f e).farewell = e.farewell := by rw [farewell, farewell, hstatus, hinst]
    have hkept : (f e).Shown s i c :=
      { number := by rw [hinst, hshown.number]
        tells := by
          rw [hinst, hfarewell]
          exact hshown.tells
        handed := fun r hr => hshown.handed r (hreport ▸ hr)
        told := fun r hr => by
          rw [hinst]
          exact hshown.told r (hreport ▸ hr) }
    exact h.put he h.channel (.refl i c) hkept

theorem watched_step (h : r.Watched s c) (m : Move) : ∃ c', (r.step s m).Watched s c' := by
  cases m with
  | start setup chain =>
    refine ⟨c, h.channel, ?_, h.waiting, ?_⟩
    · intro x hx
      have hx := h.known x hx
      simp only [step, List.length_append, List.length_singleton]
      omega
    · intro i e he
      obtain hi | hi := Nat.lt_or_ge i r.executions.length
      · rw [step, List.getElem?_append_left hi] at he
        exact h.shown i e he
      · rw [step, List.getElem?_append_right hi, List.getElem?_singleton] at he
        split at he
        · rename_i hfirst
          obtain rfl : i = r.executions.length := by omega
          obtain rfl := Option.some.inj he
          -- nobody has heard of the new execution
          have hnew : about r.executions.length c.stream = [] :=
            Event.about_eq_nil fun x hx => Nat.ne_of_lt (h.known x hx)
          refine ⟨rfl, ⟨[], List.nil_sublist _, ?_, fun _ => hnew⟩, ?_, told_of_status rfl⟩
          · rw [hnew]
            exact List.nil_prefix
          · intro report hreport
            cases hreport
        · cases he
  | advance i =>
    exact watched_moved h i (fun e w => ⟨_, moved_advance s r.clock e w⟩) fun e w =>
      (outgrown_advance e).given.1
  | elapse i =>
    exact watched_moved h i (fun e w => ⟨_, moved_elapse s r.clock e w⟩) fun e w =>
      (outgrown_elapse e).given.1
  | expire i =>
    refine ⟨c, watched_flagged h i (fun e => ?_) fun e => ?_⟩
    · obtain heq | heq := expire_eq s r.clock e <;> rw [heq]
    · obtain heq | heq := expire_eq s r.clock e <;> rw [heq]
  | cancel i => exact ⟨c, watched_flagged h i (fun _ => rfl) fun _ => rfl⟩
  | share key value => exact ⟨c, h.channel, h.known, h.waiting, h.shown⟩
  | pass ms => exact ⟨c, h.channel, h.known, h.waiting, h.shown⟩
  | receive =>
    refine ⟨c.receive, ?_, ?_, ?_, ?_⟩
    · simp [step, withChannel, h.channel]
    · rw [Channel.stream_receive]
      exact h.known
    · intro x hx
      exact h.waiting x (Channel.mem_waiting_receive hx)
    · intro i e he
      have hshown := h.shown i e he
      refine ⟨hshown.number, tells_receive hshown.tells, fun r hr => ?_, hshown.told⟩
      exact Event.about_eq_nil_of_subset (hshown.handed r hr) fun x hx _ =>
        Channel.mem_waiting_receive hx
  | unwatch =>
    refine ⟨c.abandon, ?_, ?_, List.forall_mem_nil _, ?_⟩
    · simp [step, withChannel, h.channel]
    · intro x hx
      apply h.known
      simp only [Channel.stream, Channel.abandon, List.append_nil] at hx
      exact List.mem_append_left _ (List.mem_append_left _ hx)
    · intro i e he
      have hshown := h.shown i e he
      exact ⟨hshown.number, tells_abandon hshown.tells, fun _ _ => rfl, hshown.told⟩

theorem watched_follow (h : r.Watched s c) (moves : List Move) :
    ∃ c', (r.follow s moves).Watched s c' := by
  induction moves generalizing r c with
  | nil => exact ⟨c, h⟩
  | cons m rest ih =>
    obtain ⟨c', hstep⟩ := watched_step h m
    exact ih hstep

/-- Whoever goes on receiving gets all that is there. -/
theorem receives (hr : r.Lively) (hchannel : r.world.channel = some c) :
    ∃ n c', r.follow s (List.replicate n .receive) =
      { r with world := { r.world with channel := some c' } } ∧
      c'.received = c.stream := by
  induction hn : c.queue.length + c.waiting.length generalizing r c with
  | zero =>
    have hqueue : c.queue = [] := List.length_eq_zero_iff.mp (Nat.eq_zero_of_add_eq_zero_right hn)
    refine ⟨0, c, ?_, Channel.received_of_queue (hr.fit c hchannel) hqueue⟩
    rw [← hchannel]
    rfl
  | succ n ih =>
    have hstep : r.step s .receive =
        { r with world := { r.world with channel := some c.receive } } := by
      simp [step, withChannel, hchannel]
    by_cases hqueue : c.queue = []
    · refine ⟨0, c, ?_, Channel.received_of_queue (hr.fit c hchannel) hqueue⟩
      rw [← hchannel]
      rfl
    · have hless := Channel.length_receive hqueue
      obtain ⟨n, c', hfollow, hreceived⟩ :=
        ih (r := r.step s .receive) (c := c.receive) (lively_step hr .receive)
          (by rw [hstep]) (by omega)
      refine ⟨n + 1, c', ?_, ?_⟩
      · rw [List.replicate_succ, follow, List.foldl_cons, ← follow, hfollow, hstep]
      · rw [hreceived, Channel.stream_receive]

/-- What those who watch know of an execution after some moves, and what its report has. -/
structure Viewed (s : Settings) (start : Run) (moves : List Move) (i : Nat) (e : Execution)
    (c : Channel Event) : Prop where
  /-- The lines received are lines of its log, in their order. -/
  lines : ((about i c.received).filterMap Event.line?).Sublist e.inst.logs
  /-- It has ended as they are told. -/
  ends : ∀ status, Event.finished i status ∈ c.received → e.status? = some status
  /-- Whatever line it has ever written is in its log, and stays at its place there. -/
  grows : ∀ before, before <+: moves → ∀ e₀, (start.follow s before).executions[i]? = some e₀ →
    e₀.inst.logs <+: e.inst.logs
  /-- Its report has the whole log, whatever has been received of it. -/
  logs : ∀ report, e.report? = some report → report.logs = e.inst.logs
  /-- While they listen, all there is of it ends by telling, once, how it has ended. -/
  finished : ∀ report, e.report? = some report → c.receiving = true → ∃ kept : List LogEntry,
    kept.Sublist report.logs ∧ about i (c.received ++ c.queue) =
      kept.map (.log i) ++ [.finished i report.status]

theorem Watched.viewed {start : Run} {moves : List Move} (h : (start.follow s moves).Watched s c)
    (he : (start.follow s moves).executions[i]? = some e) : Viewed s start moves i e c := by
  have hshown := h.shown i e he
  obtain ⟨kept, hkept, hfirst, hall⟩ := hshown.tells
  have hreceived : about i c.received <+: about i c.stream := by
    apply List.IsPrefix.filter
    simp [Channel.stream, List.append_assoc]
  have hlogs : ∀ report, e.report? = some report → report.logs = e.inst.logs := by
    intro report hreport
    obtain ⟨status, rfl⟩ := hshown.told report hreport
    rfl
  refine ⟨?_, ?_, ?_, hlogs, ?_⟩
  · have hlines := ((hreceived.trans hfirst).sublist.filterMap Event.line?)
    have hend : e.farewell.filterMap Event.line? = [] := by
      cases hstatus : e.status? <;> simp [farewell, hstatus, Event.line?]
    rw [List.filterMap_append, Event.lines_log, hend, List.append_nil] at hlines
    exact hlines.trans hkept
  · intro status hmem
    have hmem : Event.finished i status ∈ about i c.received := Event.mem_about.mpr ⟨hmem, rfl⟩
    obtain hline | hend := List.mem_append.mp ((hreceived.trans hfirst).subset hmem)
    · simp at hline
    · obtain ⟨status', hstatus, heq⟩ := List.mem_map.mp hend
      cases heq
      simpa using hstatus
  · -- what was written before is still there after the moves since then
    rintro before ⟨after, rfl⟩ e₀ he₀
    obtain ⟨e', he', houtgrown⟩ := outgrown_follow (s := s) he₀ after
    rw [← follow_append, he] at he'
    obtain rfl := Option.some.inj he'
    exact houtgrown.logs
  · intro report hreport hreceiving
    refine ⟨kept, hlogs report hreport ▸ hkept, ?_⟩
    have hstream := hall hreceiving
    rw [Channel.stream, Event.about_append, hshown.handed report hreport,
      List.append_nil] at hstream
    rw [hstream, farewell, status?_of_report hreport, hshown.number]
    rfl

end Run

/-- The events of a run follow the logs. What is received of an instance is an ordered part of its
log, which its report has as a whole, and, while somebody listens, the word of its end, once and
after everything else. Who listens, and how much is received, makes no difference to the reports. -/
theorem events_follow_logs (s : Settings) (store : Store) (visits : Visits) :
    (∀ (capacity : Nat) (moves : List Run.Move),
      let start := Run.ofWorld ⟨store, visits, some (.ofCapacity capacity)⟩
      let r := start.follow s moves
      ∃ c, r.world.channel = some c ∧
        (∀ i e, r.executions[i]? = some e → Run.Viewed s start moves i e c) ∧
        (0 < capacity → ∃ n c',
          r.follow s (List.replicate n .receive) =
            { r with world := { r.world with channel := some c' } } ∧
            c'.received = c.received ++ c.queue ++ c.waiting)) ∧
    ∀ (channel₁ channel₂ : Option (Channel Event)) (moves₁ moves₂ : List Run.Move),
      let start₁ := Run.ofWorld ⟨store, visits, channel₁⟩
      let start₂ := Run.ofWorld ⟨store, visits, channel₂⟩
      let r₁ := start₁.follow s moves₁
      let r₂ := start₂.follow s moves₂
      (moves₁.filter (!·.isListeners) = moves₂.filter (!·.isListeners) →
        start₁.regardless s moves₁ = start₂.regardless s moves₂) ∧
      (start₁.regardless s moves₁ = start₂.regardless s moves₂ →
        (∀ i report₁ report₂, r₁.report? i = some report₁ → r₂.report? i = some report₂ →
          report₁ = report₂) ∧
        ∀ mine : List Nat, (∀ i ∈ mine, r₁.isFinished i = true ∧ r₂.isFinished i = true) →
          RunReport.ofInstances .nil (mine.filterMap r₁.report?) r₁.world.store.snapshot =
            .ofInstances .nil (mine.filterMap r₂.report?) r₂.world.store.snapshot) := by
  constructor
  · intro capacity moves start r
    obtain ⟨c, hwatched⟩ := Run.watched_follow (Run.watched_ofWorld s store visits capacity) moves
    refine ⟨c, hwatched.channel, fun i e he => hwatched.viewed he, ?_⟩
    intro hcapacity
    have hlively : start.Lively := by
      refine ⟨?_, List.forall_mem_nil _⟩
      intro c hc
      cases hc
      exact Channel.fit_ofCapacity hcapacity
    exact Run.receives (Run.lively_follow hlively moves) hwatched.channel
  · intro channel₁ channel₂ moves₁ moves₂ start₁ start₂ r₁ r₂
    have hstart : start₁.muted s = start₂.muted s := rfl
    refine ⟨Run.regardless_eq hstart, ?_⟩
    intro hmoves
    have hsame : r₁.muted s = r₂.muted s := Run.muted_follow hstart hmoves
    exact ⟨fun i report₁ report₂ => Run.report_muted hsame, fun mine => Run.runReport_muted hsame⟩

/-- With room for one event the second line is lost, and the word of the end waits. -/
example :
    let script : Program :=
      .call "log" "[\"first\"]" fun _ => .call "log" "[\"second\"]" fun _ => .finish .settled
    let start := Run.ofWorld ⟨.empty, [], some (.ofCapacity 1)⟩
    let given : Run.Move := .start ⟨"case", .null, [], none⟩ [⟨"scope", script, 2⟩]
    let r := start.follow default (given :: List.replicate 6 (.advance 0))
    r.world.channel.map (fun c => (c.queue.length, c.waiting)) =
      some (1, [.finished 0 .success]) := by decide +kernel

end ScriptBench
