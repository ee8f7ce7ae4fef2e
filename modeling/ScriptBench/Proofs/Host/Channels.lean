import ScriptBench.Host.Call

/-!
What those who watch can hear of an instance.

1. What has ever got into a channel and was not lost with it is one stream: received, queued, or
   waiting for room. An offer adds one item at its end or none, a send to a receiver adds one, and
   receiving moves none (`stream_offer`, `stream_send`, `stream_receive`).
2. Whatever an instance does it does whoever listens. All it tells are the lines that it writes to
   its log, each of them, in their order (`heard_call`, `heard_conclude`, `heard_interrupt`).
-/
namespace ScriptBench

namespace Channel

variable {α : Type}

/-- All items that got into the channel and were not lost, in their order. -/
def stream (c : Channel α) : List α := c.received ++ c.queue ++ c.waiting

/-- Sends wait only while there is no room. -/
structure Fit (c : Channel α) : Prop where
  capacity : 0 < c.capacity
  full : c.waiting ≠ [] → c.capacity ≤ c.queue.length

variable {c : Channel α}

theorem fit_ofCapacity {capacity : Nat} (h : 0 < capacity) :
    (ofCapacity capacity : Channel α).Fit :=
  ⟨h, fun hwaiting => absurd rfl hwaiting⟩

theorem waiting_of_hasRoom (h : c.hasRoom = true) : c.waiting = [] :=
  List.isEmpty_iff.mp (Bool.and_eq_true_iff.mp h).2

theorem stream_queue (h : c.hasRoom = true) (x : α) :
    ({ c with queue := c.queue ++ [x] } : Channel α).stream = c.stream ++ [x] := by
  simp [stream, waiting_of_hasRoom h]

/-- An offer leaves the channel as it was, or queues its item. -/
theorem offer_cases (c : Channel α) (x : α) :
    c.offer x = c ∨ c.receiving = true ∧ c.hasRoom = true ∧ c.offer x =
      { c with queue := c.queue ++ [x] } := by
  rw [offer]
  split
  · rename_i h
    obtain ⟨hreceiving, hroom⟩ := Bool.and_eq_true_iff.mp h
    exact .inr ⟨hreceiving, hroom, rfl⟩
  · exact .inl rfl

theorem stream_offer (c : Channel α) (x : α) :
    (c.offer x).stream = c.stream ∨ c.receiving = true ∧ (c.offer x).stream = c.stream ++ [x] := by
  obtain h | ⟨hreceiving, hroom, h⟩ := offer_cases c x
  · exact .inl (congrArg stream h)
  · exact .inr ⟨hreceiving, h ▸ stream_queue hroom x⟩

theorem kept_offer (c : Channel α) (x : α) :
    (c.offer x).waiting = c.waiting ∧ (c.offer x).receiving = c.receiving := by
  obtain h | ⟨-, -, h⟩ := offer_cases c x <;> rw [h] <;> exact ⟨rfl, rfl⟩

theorem fit_offer (h : c.Fit) (x : α) : (c.offer x).Fit := by
  obtain heq | ⟨-, hroom, heq⟩ := offer_cases c x
  · rw [heq]
    exact h
  · rw [heq]
    exact ⟨h.capacity, fun hwaiting => absurd (waiting_of_hasRoom hroom) hwaiting⟩

theorem send_of_gone (h : c.receiving = false) (x : α) : c.send x = c := by
  rw [send, h]
  rfl

theorem stream_send (h : c.receiving = true) (x : α) : (c.send x).stream = c.stream ++ [x] := by
  rw [send, h]
  by_cases hroom : c.hasRoom = true
  · rw [hroom]
    exact stream_queue hroom x
  · rw [Bool.eq_false_iff.mpr hroom]
    simp [stream]

theorem receiving_send (c : Channel α) (x : α) : (c.send x).receiving = c.receiving := by
  rw [send]
  split
  · rfl
  · split <;> rfl

theorem mem_waiting_send {x y : α} (h : y ∈ (c.send x).waiting) : y ∈ c.waiting ∨ y = x := by
  rw [send] at h
  split at h
  · exact .inl h
  · split at h
    · exact .inl h
    · exact (List.mem_append.mp h).imp_right List.mem_singleton.mp

theorem fit_send (h : c.Fit) (x : α) : (c.send x).Fit := by
  rw [send]
  split
  · exact h
  · split
    · rename_i hroom
      exact ⟨h.capacity, fun hwaiting => absurd (waiting_of_hasRoom hroom) hwaiting⟩
    · rename_i hroom
      refine ⟨h.capacity, fun _ => Nat.le_of_not_lt fun hlt => ?_⟩
      -- nothing would have waited for the room that there is
      by_cases hwaiting : c.waiting = []
      · exact hroom (by simp [hasRoom, hlt, hwaiting])
      · exact absurd hlt (Nat.not_lt.mpr (h.full hwaiting))

/-- Receiving moves no item in the stream. -/
theorem stream_receive (c : Channel α) : c.receive.stream = c.stream := by
  obtain ⟨capacity, queue, waiting, received, receiving⟩ := c
  cases queue with
  | nil => rfl
  | cons x rest => cases waiting <;> simp [receive, stream]

theorem receiving_receive (c : Channel α) : c.receive.receiving = c.receiving := by
  obtain ⟨capacity, queue, waiting, received, receiving⟩ := c
  cases queue with
  | nil => rfl
  | cons x rest => cases waiting <;> rfl

theorem mem_waiting_receive {y : α} (h : y ∈ c.receive.waiting) : y ∈ c.waiting := by
  obtain ⟨capacity, queue, waiting, received, receiving⟩ := c
  cases queue with
  | nil => exact h
  | cons x rest =>
    cases waiting with
    | nil => exact h
    | cons w later => exact List.mem_cons_of_mem _ h

theorem fit_receive (h : c.Fit) : c.receive.Fit := by
  obtain ⟨capacity, queue, waiting, received, receiving⟩ := c
  cases queue with
  | nil => exact h
  | cons x rest =>
    cases waiting with
    | nil => exact ⟨h.capacity, fun hwaiting => absurd rfl hwaiting⟩
    | cons w later =>
      have hfull : capacity ≤ (x :: rest).length := h.full (List.cons_ne_nil _ _)
      exact ⟨h.capacity, fun _ => by simpa [receive] using hfull⟩

/-- As long as a send waits, receiving makes room for one. -/
theorem length_waiting_receive (h : c.Fit) : c.receive.waiting.length = c.waiting.length - 1 := by
  have hcapacity := h.capacity
  have hfull := h.full
  obtain ⟨capacity, queue, waiting, received, receiving⟩ := c
  cases queue with
  | nil =>
    cases waiting with
    | nil => rfl
    | cons w later => exact absurd (hfull (List.cons_ne_nil _ _)) (Nat.not_le.mpr hcapacity)
  | cons x rest => cases waiting <;> rfl

/-- As long as something is queued, receiving leaves less. -/
theorem length_receive (h : c.queue ≠ []) :
    c.receive.queue.length + c.receive.waiting.length + 1 = c.queue.length + c.waiting.length := by
  obtain ⟨capacity, queue, waiting, received, receiving⟩ := c
  cases queue with
  | nil => exact absurd rfl h
  | cons x rest => cases waiting <;> simp [receive]; omega

/-- When nothing is queued, all has been received. -/
theorem received_of_queue (h : c.Fit) (hqueue : c.queue = []) : c.received = c.stream := by
  have hwaiting : c.waiting = [] := by
    apply Classical.byContradiction
    intro hwaiting
    have hfull : c.capacity ≤ 0 := by simpa [hqueue] using h.full hwaiting
    have hcapacity := h.capacity
    omega
  simp [stream, hqueue, hwaiting]

theorem fit_abandon (h : c.Fit) : c.abandon.Fit := ⟨h.capacity, fun hwaiting => absurd rfl hwaiting⟩

end Channel

/-! ## What a call tells -/

/-- The lines that an instance writes, each offered to whoever listens. -/
def Channel.hear (number : Nat) (lines : List LogEntry) (c : Channel Event) : Channel Event :=
  lines.foldl (fun c line => c.offer (.log number line)) c

namespace Host

variable {s : Settings} {h : Host} {α β : Type} {f g : Host → Host × α}

/-- The same, with others who listen, or nobody. -/
def tuned (h : Host) (channel : Option (Channel Event)) : Host :=
  { h with world := { h.world with channel } }

/-- What is done does not depend on who listens, and all that can be heard of it are lines that are
written to the log. -/
def Heard (h : Host) (f : Host → Host × α) : Prop :=
  ∃ lines, (f h).1.inst.logs = h.inst.logs ++ lines ∧ (f h).1.inst.number = h.inst.number ∧
    ∀ channel, f (h.tuned channel) =
      ((f h).1.tuned (channel.map (·.hear h.inst.number lines)), (f h).2)

theorem Heard.channel (hf : Heard h f) :
    ∃ lines, (f h).1.inst.logs = h.inst.logs ++ lines ∧ (f h).1.inst.number = h.inst.number ∧
      (f h).1.world.channel = h.world.channel.map (·.hear h.inst.number lines) := by
  obtain ⟨lines, hlogs, hnumber, hall⟩ := hf
  exact ⟨lines, hlogs, hnumber, congrArg (fun r => r.1.world.channel) (hall h.world.channel)⟩

theorem Heard.congr (hf : Heard h f) (hg : ∀ channel, g (h.tuned channel) = f (h.tuned channel)) :
    Heard h g := by
  have hsame : g h = f h := hg h.world.channel
  obtain ⟨lines, hlogs, hnumber, hall⟩ := hf
  exact ⟨lines, hsame ▸ hlogs, hsame ▸ hnumber, fun channel =>
    hsame ▸ (hg channel).trans (hall channel)⟩

theorem heard_silent (hlogs : (f h).1.inst.logs = h.inst.logs)
    (hnumber : (f h).1.inst.number = h.inst.number)
    (hf : ∀ channel, f (h.tuned channel) = ((f h).1.tuned channel, (f h).2)) : Heard h f := by
  refine ⟨[], hlogs.trans (List.append_nil _).symm, hnumber, fun channel => ?_⟩
  rw [hf]
  cases channel <;> rfl

theorem heard_log (level : LogLevel) (message : String) (g : Host → Host) (a : α)
    (hlogs : (g h).inst.logs = h.inst.logs) (hnumber : (g h).inst.number = h.inst.number)
    (hg : ∀ channel, g (h.tuned channel) = (g h).tuned channel) :
    Heard h fun h => ((g h).log s level message, a) := by
  refine ⟨[⟨level, s.now, (g h).inst.scope, message⟩], ?_, hnumber, fun channel => ?_⟩
  · rw [← hlogs]
    rfl
  · show ((g (h.tuned channel)).log s level message, a) = _
    rw [hg]
    cases channel <;> simp [tuned, log, Channel.hear, hnumber]

theorem Heard.andThen (hf : Heard h f) (k : Host × α → Host × β)
    (hlogs : ∀ r, (k r).1.inst.logs = r.1.inst.logs)
    (hnumber : ∀ r, (k r).1.inst.number = r.1.inst.number)
    (hk : ∀ r channel, k (r.1.tuned channel, r.2) = ((k r).1.tuned channel, (k r).2)) :
    Heard h fun h => k (f h) := by
  obtain ⟨lines, hlines, hsame, hall⟩ := hf
  refine ⟨lines, (hlogs _).trans hlines, (hnumber _).trans hsame, fun channel => ?_⟩
  show k (f (h.tuned channel)) = _
  rw [hall, hk]

theorem heard_consult (v : Visit) (ask : LanguageTools → Except ConnectorError α) :
    Heard h (·.consult s v ask) := by
  unfold consult
  split <;> exact heard_silent rfl rfl fun _ => rfl

theorem heard_consultFor (v : Visit) (ask : LanguageTools → Except ConnectorError α)
    (write : α → Json) :
    Heard h (·.consultFor s v ask write) :=
  (heard_consult v ask).andThen (fun r => (r.1, r.2.map write)) (fun _ => rfl)
    (fun _ => rfl) fun _ _ => rfl

theorem heard_assertSimilar (expect actual : String) (threshold : Binary64) :
    Heard h (·.assertSimilar s expect actual threshold) := by
  refine heard_silent ?_ ?_ fun channel => ?_
  all_goals
    simp only [assertSimilar, consult, tuned]
    cases s.collaborators.language with
    | none => rfl
    | some tools =>
      dsimp only
      cases tools.similarity expect actual <;> rfl

theorem heard_answerNow (c : Call) : Heard h (·.answerNow s c) := by
  cases c with
  | log level message => exact heard_log level message (fun h => h) _ rfl rfl fun _ => rfl
  | setEnv key value =>
    exact heard_log _ _ (fun h => { h with inst := h.inst.setEnv key value }) _ rfl rfl fun _ => rfl
  | addHeader name value =>
    exact heard_log _ _
      (fun h => { h with inst := { h.inst with headers := h.inst.headers ++ [⟨name, value⟩] } }) _
      rfl rfl fun _ => rfl
  | addParams name value =>
    exact heard_log _ _
      (fun h => { h with inst := { h.inst with params := h.inst.params ++ [⟨name, value⟩] } }) _
      rfl rfl fun _ => rfl
  | setShared key value =>
    exact heard_log _ _ (fun h => h.withStore (h.world.store.set key value)) _ rfl rfl fun _ => rfl
  | getEnv key =>
    cases hvalue : h.inst.env.get? key with
    | some value =>
      refine (heard_silent (f := fun h => (h, .ok (.str value))) rfl rfl fun _ => rfl).congr
        fun channel => ?_
      simp only [answerNow, tuned, hvalue]
    | none =>
      refine (heard_log (s := s) .warn ("get env `" ++ key ++ "` failed") (fun h => h)
        (.ok .null) rfl rfl fun _ => rfl).congr fun channel => ?_
      simp only [answerNow, tuned, hvalue]
  | getShared key =>
    cases hvalue : h.world.store.get? key with
    | some v =>
      refine (heard_log (s := s) .info (sharedFound key v) (fun h => h) (.ok v) rfl rfl
        fun _ => rfl).congr fun channel => ?_
      simp only [answerNow, tuned, hvalue]
    | none =>
      refine (heard_log (s := s) .warn (sharedMissing key) (fun h => h) (.ok .null) rfl rfl
        fun _ => rfl).congr fun channel => ?_
      simp only [answerNow, tuned, hvalue]
  | assertNlp expect actual threshold => exact heard_assertSimilar expect actual threshold
  | nlpKeywords text k => exact heard_consultFor _ _ _
  | nlpTags text => exact heard_consultFor _ _ _
  | nlpTagFilter text tags => exact heard_consultFor _ _ _
  | nlpSimilarity a b => exact heard_consultFor _ _ _
  | _ => exact heard_silent rfl rfl fun _ => rfl

theorem heard_fetch (r : Request) : Heard h (·.fetch s r) := by
  refine heard_silent ?_ ?_ fun channel => ?_
  all_goals
    simp only [fetch, tuned]
    split <;> rfl

theorem heard_waitShared (key : String) : Heard h (·.waitShared s key) := by
  cases hresult : (h.world.store.begin key).result? h.world.store.nextWait with
  | some v =>
    refine (heard_log (s := s) .info (sharedFound key v)
      (fun h => h.withStore (h.world.store.begin key))
      (Progress.answered (.ok v)) rfl rfl fun _ => rfl).congr fun channel => ?_
    simp only [waitShared, tuned, hresult]
  | none =>
    refine (heard_silent (f := fun h => (h.withStore (h.world.store.begin key),
      Progress.suspended (.wait key h.world.store.nextWait))) rfl rfl fun _ => rfl).congr
        fun channel => ?_
    simp only [waitShared, tuned, hresult]

theorem heard_invoke (c : Call) : Heard h (·.invoke s c) := by
  have hnow : Heard h fun h => ((h.answerNow s c).1, Progress.answered (h.answerNow s c).2) :=
    (heard_answerNow c).andThen (fun r => (r.1, Progress.answered r.2)) (fun _ => rfl)
      (fun _ => rfl) fun _ _ => rfl
  cases c with
  | sleep ms =>
    refine heard_silent ?_ ?_ fun channel => ?_
    all_goals
      simp only [invoke]
      split <;> rfl
  | httpFetch r => exact heard_fetch r
  | waitShared key => exact heard_waitShared key
  | _ => exact hnow.congr fun _ => rfl

theorem heard_call (cancelled : Bool) (name argsText : String) :
    Heard h (·.call s cancelled name argsText) := by
  unfold call
  split
  · exact heard_silent rfl rfl fun _ => rfl
  · split
    · exact heard_silent rfl rfl fun _ => rfl
    · exact heard_invoke _

theorem heard_conclude (on : Suspension) : Heard h (·.conclude s on) := by
  cases on with
  | sleep ms => exact heard_silent rfl rfl fun _ => rfl
  | network => exact heard_silent rfl rfl fun _ => rfl
  | wait key id =>
    cases hresult : (h.world.store.resume id).result? id with
    | some v =>
      refine (heard_log (s := s) .info (sharedFound key v)
        (fun h => h.withStore (h.world.store.resume id))
        (Except.ok v) rfl rfl fun _ => rfl).congr fun channel => ?_
      simp only [conclude, tuned, hresult]
    | none =>
      refine (heard_log (s := s) .error (sharedMissing key)
        (fun h => h.withStore ((h.world.store.resume id).abandon id))
          (Except.error (.timeout key)) rfl rfl
        fun _ => rfl).congr fun channel => ?_
      simp only [conclude, tuned, hresult]

theorem heard_interrupt (on : Suspension) : Heard h (·.interrupt on) := by
  cases on <;> exact heard_silent rfl rfl fun _ => rfl

end Host

end ScriptBench
