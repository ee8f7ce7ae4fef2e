import Mathlib.Data.List.Induction
import ScriptBench.Proofs.Host.Separation
import ScriptBench.Proofs.Shared.Snapshot

/-!
The environment of an instance and the list of its overrides.

1. Recording one more write changes at most one entry of the list, or adds one at its end
   (`keys_override`, `find?_override`); laid over an environment, the list says the same as the
   writes themselves (`overlay_record`).
2. A call writes what `Call.write?` says of it and its answer (`env_answered`); nothing else that is
   done with an instance touches either (`written_act`).
3. So environment and overrides agree at every moment of an instance, whoever shares its world, and
   what it reads is the overlaid value (`overrides_agree_with_environment`).
-/
namespace ScriptBench

namespace KeyMap

variable {α : Type}

theorem insert_insert_self (key : String) (v w : α) (m : KeyMap α) :
    insert key v (insert key w m) = insert key v m := by
  induction m with
  | nil => simp [insert]
  | cons e rest ih =>
    obtain ⟨k, u⟩ := e
    by_cases hk : key = k
    · simp [insert, hk]
    · by_cases hlt : key < k <;> simp [insert, hk, hlt, ih]

theorem insert_comm {a b : String} (hne : a ≠ b) (v w : α) (m : KeyMap α) :
    insert a v (insert b w m) = insert b w (insert a v m) := by
  have hasymm : ¬ (a < b ∧ b < a) := fun ⟨h, h'⟩ => String.lt_irrefl a (String.lt_trans h h')
  -- two different keys are in one of two orders
  have htotal : a < b ∨ b < a := by
    rcases Decidable.em (a < b) with h | h
    · exact .inl h
    · exact .inr (Std.lt_of_le_of_ne (String.not_lt.mp h) (Ne.symm hne))
  induction m with
  | nil => grind [insert]
  | cons e rest ih =>
    obtain ⟨k, u⟩ := e
    have htrans : ∀ {x y z : String}, x < y → y < z → x < z := String.lt_trans
    grind [insert]

end KeyMap

namespace EnvOverride

/-- The value of the first entry of a key. -/
def find? (key : String) (entries : List EnvOverride) : Option String :=
  (entries.find? (·.key = key)).map (·.value)

/-- An environment under a list of overrides. -/
def overlay (env : KeyMap String) (entries : List EnvOverride) : KeyMap String :=
  entries.foldl (fun m o => m.insert o.key o.value) env

/-- The list of overrides that records a list of writes. -/
def record (writes : List EnvOverride) : List EnvOverride :=
  writes.foldl (fun entries o => Instance.override o.key o.value entries) []

theorem find?_cons (key : String) (o : EnvOverride) (rest : List EnvOverride) :
    find? key (o :: rest) = if o.key = key then some o.value else find? key rest := by
  by_cases hk : o.key = key <;> simp [find?, hk]

theorem find?_append (key : String) (xs ys : List EnvOverride) :
    find? key (xs ++ ys) = (find? key xs).or (find? key ys) := by
  simp [find?, List.find?_append, Option.map_or]

/-! ## One more write -/

variable {entries : List EnvOverride}

theorem keys_override (key value : String) (entries : List EnvOverride) :
    (Instance.override key value entries).map (·.key) =
      if key ∈ entries.map (·.key) then entries.map (·.key) else entries.map (·.key) ++ [key] := by
  induction entries with
  | nil => rfl
  | cons o rest ih =>
    rw [Instance.override]
    split
    · rename_i hkey
      simp [hkey]
    · rename_i hne
      rw [List.map_cons, ih]
      by_cases hmem : key ∈ rest.map (·.key)
      · simp [hmem]
      · simp [hmem, Ne.symm hne]

theorem find?_override (key value : String) (entries : List EnvOverride) (k : String) :
    find? k (Instance.override key value entries) = if key = k then some value
      else find? k entries := by
  induction entries with
  | nil => rw [Instance.override, find?_cons]
  | cons o rest ih =>
    rw [Instance.override]
    split
    · rename_i hkey
      rw [find?_cons, find?_cons, hkey]
      split <;> rfl
    · rename_i hne
      rw [find?_cons, find?_cons, ih]
      by_cases hk : o.key = k
      · have hother : key ≠ k := fun h => hne (hk.trans h.symm)
        simp [hk, hother]
      · simp [hk]

theorem overlay_append (env : KeyMap String) (xs ys : List EnvOverride) :
    overlay env (xs ++ ys) = overlay (overlay env xs) ys := List.foldl_append

theorem overlay_insert_comm {key : String} (hkey : key ∉ entries.map (·.key)) (value : String)
    (env : KeyMap String) :
    overlay (env.insert key value) entries = (overlay env entries).insert key value := by
  induction entries generalizing env with
  | nil => rfl
  | cons o rest ih =>
    simp only [List.map_cons, List.mem_cons, not_or] at hkey
    calc overlay (env.insert key value) (o :: rest)
        = overlay ((env.insert key value).insert o.key o.value) rest := rfl
      _ = overlay ((env.insert o.key o.value).insert key value) rest := by
        rw [KeyMap.insert_comm (Ne.symm hkey.1)]
      _ = (overlay env (o :: rest)).insert key value := ih hkey.2 _

/-- Where every key has one entry, one more write shows in the overlaid environment as it is. -/
theorem overlay_override (honce : (entries.map (·.key)).Nodup) (key value : String)
    (env : KeyMap String) :
    overlay env (Instance.override key value entries) = (overlay env entries).insert key value := by
  induction entries generalizing env with
  | nil => rfl
  | cons o rest ih =>
    obtain ⟨hnew, hrest⟩ := List.nodup_cons.mp honce
    rw [Instance.override]
    split
    · rename_i hkey
      subst hkey
      calc overlay env (⟨o.key, value⟩ :: rest)
          = overlay ((env.insert o.key o.value).insert o.key value) rest := by
            rw [KeyMap.insert_insert_self]
            rfl
        _ = (overlay env (o :: rest)).insert o.key value := overlay_insert_comm hnew value _
    · exact ih hrest _

theorem get?_overlay (env : KeyMap String) (entries : List EnvOverride) (key : String) :
    (overlay env entries).get? key = (find? key entries.reverse).or (env.get? key) := by
  induction entries generalizing env with
  | nil => rfl
  | cons o rest ih =>
    rw [show overlay env (o :: rest) = overlay (env.insert o.key o.value) rest from rfl, ih,
      KeyMap.get?_insert, List.reverse_cons, find?_append, find?_cons, Option.or_assoc]
    split <;> rfl

theorem ordered_overlay {env : KeyMap String} (h : KeyMap.Ordered env)
    (entries : List EnvOverride) :
    KeyMap.Ordered (overlay env entries) := by
  induction entries generalizing env with
  | nil => exact h
  | cons o rest ih => exact ih (KeyMap.ordered_insert h o.key o.value)

/-! ## All writes -/

theorem record_append_singleton (writes : List EnvOverride) (o : EnvOverride) :
    record (writes ++ [o]) = Instance.override o.key o.value (record writes) := by
  simp [record]

theorem eraseDups_concat (keys : List String) (key : String) :
    (keys ++ [key]).eraseDups = if key ∈ keys then keys.eraseDups else keys.eraseDups ++ [key] := by
  rw [List.eraseDups_append]
  by_cases hmem : key ∈ keys <;> simp [List.removeAll, List.eraseDups_cons, hmem]

/-- The list of overrides has the keys in the order of their first writes. -/
theorem keys_record (writes : List EnvOverride) :
    (record writes).map (·.key) = (writes.map (·.key)).eraseDups := by
  induction writes using List.reverseRecOn with
  | nil => rfl
  | append_singleton writes o ih =>
    rw [record_append_singleton, keys_override, ih, List.map_append, List.map_singleton,
      eraseDups_concat]
    simp only [List.mem_eraseDups]

theorem nodup_eraseDups (keys : List String) : keys.eraseDups.Nodup := by
  induction keys using List.reverseRecOn with
  | nil => exact List.nodup_nil
  | append_singleton keys key ih =>
    rw [eraseDups_concat]
    split
    · exact ih
    · rename_i hnew
      refine List.nodup_append.mpr ⟨ih, by simp, fun a ha b hb => ?_⟩
      rw [List.mem_singleton.mp hb]
      exact fun hab => hnew (hab ▸ List.mem_eraseDups.mp ha)

theorem once_record (writes : List EnvOverride) : ((record writes).map (·.key)).Nodup :=
  keys_record writes ▸ nodup_eraseDups _

/-- Each entry of the list holds the last value written to its key. -/
theorem find?_record (writes : List EnvOverride) (key : String) :
    find? key (record writes) = find? key writes.reverse := by
  induction writes using List.reverseRecOn with
  | nil => rfl
  | append_singleton writes o ih =>
    rw [record_append_singleton, find?_override, ih, List.reverse_concat, find?_cons]

/-- The list says the same as the writes. -/
theorem overlay_record (env : KeyMap String) (writes : List EnvOverride) :
    overlay env (record writes) = overlay env writes := by
  induction writes using List.reverseRecOn with
  | nil => rfl
  | append_singleton writes o ih =>
    rw [record_append_singleton, overlay_override (once_record writes), ih, overlay_append]
    rfl

/-- An environment and a list of overrides that agree on what was written over an initial
environment. -/
structure Agree (initial : KeyMap String) (writes : List EnvOverride) (env : KeyMap String)
    (overrides : List EnvOverride) : Prop where
  once : (overrides.map (·.key)).Nodup
  order : overrides.map (·.key) = (writes.map (·.key)).eraseDups
  last : ∀ key, find? key overrides = find? key writes.reverse
  overlaid : env = overlay initial overrides
  lookup : ∀ key, env.get? key = (find? key overrides).or (initial.get? key)
  ordered : KeyMap.Ordered initial → KeyMap.Ordered env

theorem agree_record (initial : KeyMap String) (writes : List EnvOverride) :
    Agree initial writes (overlay initial writes) (record writes) where
  once := once_record writes
  order := keys_record writes
  last := find?_record writes
  overlaid := (overlay_record initial writes).symm
  lookup key := by rw [get?_overlay, find?_record]
  ordered h := ordered_overlay h writes

/-- What is read of a key after some writes: the value that lies over all others, or nothing. -/
structure Reads (initial : KeyMap String) (writes : List EnvOverride) (key : String) (a : Answer) :
    Prop where
  value : a = .ok (((find? key writes.reverse).or (initial.get? key)).elim .null .str)
  missing : a = .ok .null ↔ key ∉ writes.map (·.key) ∧ key ∉ initial.map (·.1)

end EnvOverride

/-! ## What is done with an instance -/

/-- The variable a call gives a value. -/
def Call.write? : Call → Answer → Option EnvOverride
  | .setEnv key value, .ok _ => some ⟨key, value⟩
  | _, _ => none

theorem Call.write?_error (c : Call) (e : HostError) : c.write? (.error e) = none := by
  cases c <;> rfl

theorem Call.write?_of_suspending {c : Call} (h : c.operation.isSuspending = true) (a : Answer) :
    c.write? a = none := by
  cases c with
  | setEnv key value => cases h
  | _ => rfl

/-- An instance before and after something that makes at most one write. -/
def Instance.Writes : Option EnvOverride → Instance → Instance → Prop
  | some o, i, i' => i'.env = i.env.insert o.key o.value ∧
      i'.envOverrides = Instance.override o.key o.value i.envOverrides
  | none, i, i' => i'.env = i.env ∧ i'.envOverrides = i.envOverrides

theorem Instance.Writes.of_logs {i i' : Instance} (h : ∃ logs, i' = { i with logs }) :
    Writes none i i' := by
  obtain ⟨logs, rfl⟩ := h
  exact ⟨rfl, rfl⟩

namespace Host

open Instance (Writes)

variable {s : Settings} {cancelled : Bool} {h h' : Host} {name argsText : String}

theorem env_assertSimilar (s : Settings) (h : Host) (expect actual : String)
    (threshold : Binary64) :
    Writes none h.inst (h.assertSimilar s expect actual threshold).1.inst := by
  have hinst :=
    consult_inst (s := s) (h := h) (.similarity expect actual) (·.similarity expect actual)
  rw [assertSimilar]
  rcases hask : h.consult s (.similarity expect actual) (·.similarity expect actual)
    with ⟨h₁, e | score⟩
  · rw [hask] at hinst
    exact .of_logs ⟨h.inst.logs, hinst⟩
  · rw [hask] at hinst
    dsimp only [withTests] at hinst ⊢
    rw [hinst]
    exact ⟨rfl, rfl⟩

theorem env_answerNow (s : Settings) (h : Host) (c : Call) :
    Writes (c.write? (h.answerNow s c).2) h.inst (h.answerNow s c).1.inst := by
  have asks {α : Type} (v : Visit) (ask : LanguageTools → Except ConnectorError α)
      (write : α → Json) :
      Writes none h.inst (h.consultFor s v ask write).1.inst :=
    .of_logs ⟨h.inst.logs, consultFor_inst v ask write⟩
  cases c with
  | assertNlp expect actual threshold => exact env_assertSimilar s h expect actual threshold
  | getEnv key =>
    simp only [answerNow]
    split <;> exact ⟨rfl, rfl⟩
  | getShared key =>
    simp only [answerNow]
    split <;> exact ⟨rfl, rfl⟩
  | nlpKeywords text k => exact asks _ _ _
  | nlpTags text => exact asks _ _ _
  | nlpTagFilter text tags => exact asks _ _ _
  | nlpSimilarity a b => exact asks _ _ _
  | _ => exact ⟨rfl, rfl⟩

theorem env_invoke {c : Call} {a : Answer} (hc : h.invoke s c = (h', .answered a)) :
    Writes (c.write? a) h.inst h'.inst := by
  obtain ⟨ms, rfl, heq⟩ | ⟨r, rfl, heq⟩ | ⟨key, rfl, heq⟩ | heq := invoke_cases s h c
  · rw [heq] at hc
    split at hc <;> cases hc
    exact ⟨rfl, rfl⟩
  · have hinst : h'.inst = h.inst := by
      rw [← fetch_inst s h r, ← heq, hc]
    exact .of_logs ⟨h.inst.logs, hinst⟩
  · rw [heq, waitShared] at hc
    split at hc <;> cases hc
    exact ⟨rfl, rfl⟩
  · rw [heq] at hc
    obtain ⟨rfl, ha⟩ := Prod.mk.inj hc
    exact Progress.answered.inj ha ▸ env_answerNow s h c

end Host

/-- The variable that was given a value. -/
def Happening.write? : Happening → Option EnvOverride := ofAnswered? Call.write?

/-- The values that variables were given, in that order. -/
def Happening.writes (past : List Happening) : List EnvOverride := past.filterMap Happening.write?

open Happening (write? writes)

theorem Host.env_answered {s : Settings} {cancelled : Bool} {h h' : Host} {name argsText : String}
    {a : Answer} (hcall : h.call s cancelled name argsText = (h', .answered a)) (cut : Bool)
    (found : Option Json) :
    Instance.Writes (write? (.answered name argsText a cut found)) h.inst h'.inst := by
  rw [write?, Happening.ofAnswered?]
  cases hread : readCall name argsText with
  | error e =>
    rw [call_unread hread] at hcall
    cases hcall
    exact ⟨rfl, rfl⟩
  | ok c =>
    rw [call, hread] at hcall
    dsimp only at hcall
    split at hcall
    · cases hcall
      simp only [Except.toOption, Option.bind_some, Call.write?_error]
      exact ⟨rfl, rfl⟩
    · exact env_invoke hcall

/-- Environment and overrides of an instance are what was written. -/
structure Instance.Written (setup : Setup) (past : List Happening) (i : Instance) : Prop where
  env : i.env = EnvOverride.overlay setup.env (writes past)
  overrides : i.envOverrides = EnvOverride.record (writes past)

theorem Instance.Written.snoc {setup : Setup} {past : List Happening} {i i' : Instance}
    {x : Happening} (h : i.Written setup past) (hx : Writes (write? x) i i') :
    i'.Written setup (past ++ [x]) := by
  have hwrites : writes (past ++ [x]) = writes past ++ (write? x).toList := by
    rw [writes, List.filterMap_append]
    cases hx : write? x <;> simp [writes, hx]
  revert hx hwrites
  cases write? x with
  | none =>
    rintro ⟨henv, hoverrides⟩ hwrites
    rw [Option.toList_none, List.append_nil] at hwrites
    exact ⟨by rw [henv, h.env, hwrites], by rw [hoverrides, h.overrides, hwrites]⟩
  | some o =>
    rintro ⟨henv, hoverrides⟩ hwrites
    rw [Option.toList_some] at hwrites
    exact ⟨by rw [henv, h.env, hwrites, EnvOverride.overlay_append]; rfl,
      by rw [hoverrides, h.overrides, hwrites, EnvOverride.record_append_singleton]⟩

theorem Instance.Written.agree {setup : Setup} {past : List Happening} {i : Instance}
    (h : i.Written setup past) : EnvOverride.Agree setup.env (writes past) i.env i.envOverrides :=
  h.env ▸ h.overrides ▸ EnvOverride.agree_record setup.env (writes past)

namespace Host

theorem call_getEnv (s : Settings) (cancelled : Bool) (h : Host) {name argsText key : String}
    (hread : readCall name argsText = .ok (.getEnv key)) :
    ∃ h', h.call s cancelled name argsText =
      (h', .answered (.ok ((h.inst.env.get? key).elim .null .str))) := by
  rw [call, hread]
  dsimp only [Call.operation, Operation.isSuspending, Bool.false_and, Bool.false_eq_true, if_false,
    invoke, answerNow]
  cases h.inst.env.get? key <;> exact ⟨_, rfl⟩

end Host

theorem KeyMap.get?_eq_none_iff {α : Type} (key : String) (m : KeyMap α) :
    m.get? key = none ↔ key ∉ m.map (·.1) := by
  induction m with
  | nil => simp [KeyMap.get?]
  | cons e rest ih =>
    obtain ⟨k, v⟩ := e
    by_cases hk : k = key
    · simp [KeyMap.get?, hk]
    · simp [KeyMap.get?, hk, ih, Ne.symm hk]

theorem EnvOverride.find?_eq_none_iff (key : String) (entries : List EnvOverride) :
    find? key entries = none ↔ key ∉ entries.map (·.key) := by
  simp [find?]

/-- What an instance reads is what was written last, or what it was given. -/
theorem Instance.Written.reads {setup : Setup} {past : List Happening} {i : Instance}
    (h : i.Written setup past) (key : String) :
    EnvOverride.Reads setup.env (writes past) key (.ok ((i.env.get? key).elim .null .str)) := by
  have hget : i.env.get? key =
      (EnvOverride.find? key (writes past).reverse).or (setup.env.get? key) := by
    rw [h.env, EnvOverride.get?_overlay]
  refine ⟨by rw [hget], ?_⟩
  have hnull : ((i.env.get? key).elim Json.null Json.str = .null) ↔ i.env.get? key = none := by
    cases i.env.get? key <;> simp
  rw [Except.ok.injEq, hnull, hget, Option.or_eq_none_iff, EnvOverride.find?_eq_none_iff,
    KeyMap.get?_eq_none_iff]
  simp

/-- What an instance sees of its environment after a past. -/
def Happening.Sees (setup : Setup) (past : List Happening) : Happening → Prop
  | .answered name argsText a _ _ => ∀ key, Host.readCall name argsText = .ok (.getEnv key) →
      EnvOverride.Reads setup.env (writes past) key a
  | .reported _ r => EnvOverride.Agree setup.env (writes past) r.env r.envOverrides
  | _ => True

namespace Caller

/-- The environment of a caller is what it has written over what it was given, and so it always
was. -/
structure Overlaid (c : Caller) : Prop where
  state : c.inst.Written c.setup c.history
  sees : ∀ (n : Nat) x, c.history[n]? = some x → x.Sees c.setup (c.history.take n)

variable {c c' : Caller} {w : World}

theorem overlaid_start (settings : Settings) (number : Nat) (setup : Setup) :
    (start settings number setup).Overlaid where
  state := ⟨rfl, rfl⟩
  sees := by simp [start]

theorem Overlaid.snoc (h : c.Overlaid) {x : Happening} (hsetup : c'.setup = c.setup)
    (hhistory : c'.history = c.history ++ [x]) (hwrites : Instance.Writes (write? x) c.inst c'.inst)
    (hx : x.Sees c.setup c.history) : c'.Overlaid := by
  refine ⟨?_, ?_⟩
  · rw [hsetup, hhistory]
    exact h.state.snoc hwrites
  · rw [hsetup, hhistory]
    exact Happening.each_snoc (P := fun past y => y.Sees c.setup past) h.sees hx

theorem overlaid_call (h : c.Overlaid) (name argsText : String) :
    (c.call w name argsText).1.Overlaid := by
  unfold call
  split
  · exact h
  · have hcalled : (c.note [.called name argsText]).Overlaid :=
      h.snoc (x := .called name argsText) rfl rfl ⟨rfl, rfl⟩ trivial
    rcases hcall : Host.call c.settings c.cancelled ⟨c.inst, w⟩ name argsText with ⟨h', a | on⟩
    · refine hcalled.snoc (x := .answered name argsText a false (found w.store name argsText a)) rfl
        (by simp [note]) (Host.env_answered hcall false _) fun key hread => ?_
      obtain ⟨h₁, hanswer⟩ := Host.call_getEnv c.settings c.cancelled ⟨c.inst, w⟩ hread
      rw [hcall] at hanswer
      cases hanswer
      exact hcalled.state.reads key
    · obtain ⟨hinst, -⟩ := Host.waits_suspended hcall
      exact h.snoc (x := .called name argsText) rfl rfl (.of_logs ⟨c.inst.logs, hinst⟩) trivial

theorem overlaid_finish (hk : c.Kept) (h : c.Overlaid) {p : PendingCall} (hp : c.pending = some p)
    (cut : Bool) {host : Host} {a : Answer} (hlogs : ∃ logs, host.inst = { c.inst with logs }) :
    (c.finish p cut (host, a)).1.Overlaid := by
  obtain ⟨call, hread, hsuspending⟩ := hk.pending p hp
  have hnone : write?
      (.answered p.name p.argsText a cut (found host.world.store p.name p.argsText a)) = none := by
    simp [write?, Happening.ofAnswered?, hread, Except.toOption,
      Call.write?_of_suspending hsuspending]
  refine h.snoc rfl rfl (hnone ▸ .of_logs hlogs) fun key hget => ?_
  -- a call for a variable never waits
  rw [hread] at hget
  cases hget
  cases hsuspending

/-- Whatever is done with an instance, its environment stays what was written over what it was
given. -/
theorem overlaid_act (hk : c.Kept) (h : c.Overlaid) (a : Act) : (c.act w a).1.Overlaid := by
  cases a with
  | call name argsText => exact overlaid_call h name argsText
  | goOn =>
    rw [act]
    obtain heq | ⟨p, hp, heq⟩ := c.goOn_cases w
    · rw [heq]
      exact h
    · rw [heq]
      exact overlaid_finish hk h hp false (Host.logs_of_conclude _ _ _)
  | cutOff =>
    rw [act]
    obtain heq | ⟨p, hp, heq⟩ := c.cutOff_cases w
    · rw [heq]
      exact h
    · rw [heq]
      exact overlaid_finish hk h hp true ⟨c.inst.logs, Host.interrupt_inst _ _⟩
  | enterScope scope => exact h.snoc (x := .entered scope) rfl rfl ⟨rfl, rfl⟩ trivial
  | cancel => exact h.snoc (x := .cancelled) rfl rfl ⟨rfl, rfl⟩ trivial
  | log level message => exact h.snoc (x := .wrote level message) rfl rfl ⟨rfl, rfl⟩ trivial
  | report status => exact h.snoc (x := .reported status _) rfl rfl ⟨rfl, rfl⟩ h.state.agree

theorem Overlaid.unwritten (hk : c.Kept) (h : c.Overlaid) (w : World) (a : Act)
    (hnone : ∀ x ∈ (c.act w a).1.history.drop c.history.length, write? x = none) :
    (c.act w a).1.inst.env = c.inst.env ∧ (c.act w a).1.inst.envOverrides =
      c.inst.envOverrides := by
  have hstate := (overlaid_act (w := w) hk h a).state
  obtain ⟨added, hadded⟩ := (c.acted_act w a).history
  rw [hadded, List.drop_left] at hnone
  have hwrites : writes (c.act w a).1.history = writes c.history := by
    rw [hadded, writes, List.filterMap_append, List.filterMap_eq_nil_iff.mpr hnone, List.append_nil]
    rfl
  rw [hstate.env, hstate.overrides, hwrites, (c.setup_act w a).2, h.state.env, h.state.overrides]
  exact ⟨rfl, rfl⟩

end Caller

/-- However many callers there are and whatever they do: at every moment, in every report and in
every answer to `get_env`, the environment of an instance is what it was given under its overrides,
which hold one entry for each variable ever set, in the order of first writes, with the value
written last. Nothing but a `set_env` that was answered changes either. -/
theorem overrides_agree_with_environment (shared : List Store.Step)
    (channel : Option (Channel Event)) (moves : List Party.Move) (i : Nat) (c : Caller)
    (hc : ((Party.start shared channel).run moves).callers[i]? = some c) :
    (moves.filterMap Party.Move.joins?)[i]? = some (c.settings, c.setup) ∧
      EnvOverride.Agree c.setup.env (writes c.history) c.inst.env c.inst.envOverrides ∧
      (∀ (n : Nat) status r, c.history[n]? = some (.reported status r) →
        EnvOverride.Agree c.setup.env (writes (c.history.take n)) r.env r.envOverrides) ∧
      (∀ (n : Nat) name argsText a cut found key,
        c.history[n]? = some (.answered name argsText a cut found) →
          Host.readCall name argsText = .ok (.getEnv key) →
            EnvOverride.Reads c.setup.env (writes (c.history.take n)) key a) ∧
      (∀ w name argsText key, c.pending = none → Host.readCall name argsText = .ok (.getEnv key) →
        ∃ a found, (c.call w name argsText).1.history =
          c.history ++ [.called name argsText, .answered name argsText a false found]) ∧
      ∀ w a, (∀ x ∈ (c.act w a).1.history.drop c.history.length, write? x = none) →
        (c.act w a).1.inst.env = c.inst.env ∧
          (c.act w a).1.inst.envOverrides = c.inst.envOverrides := by
  obtain ⟨hk, ho⟩ : c.Kept ∧ c.Overlaid :=
    Party.every_run (P := fun c => c.Kept ∧ c.Overlaid)
      (fun settings number setup => ⟨Caller.kept_start settings number setup,
        Caller.overlaid_start settings number setup⟩)
      (fun _ _ a h => ⟨Caller.kept_act h.1 a, Caller.overlaid_act h.1 h.2 a⟩)
      (p := .start shared channel) (by simp [Party.start]) moves c (List.mem_of_getElem? hc)
  refine ⟨Party.joined_of_run hc, ho.state.agree, fun n status r hr => ho.sees n _ hr,
    fun n name argsText a cut found key ha => ho.sees n _ ha key, ?_, fun w a =>
      ho.unwritten hk w a⟩
  intro w name argsText key hfree hread
  obtain ⟨h', hanswer⟩ := Host.call_getEnv c.settings c.cancelled ⟨c.inst, w⟩ hread
  rw [Caller.call, hfree, hanswer]
  exact ⟨_, _, rfl⟩

/-- Two variables written in turns, one of which the instance was given. -/
theorem overrides_agree_with_environment_rewritten :
    let moves : List Party.Move :=
      [.join default ⟨"case", .null, [("a", "1")], none⟩, .act 0 (.call "set_env" "[\"b\",\"2\"]"),
        .act 0 (.call "set_env" "[\"a\",\"3\"]"), .act 0 (.call "set_env" "[\"b\",\"4\"]")]
    ∃ c, ((Party.start [] none).run moves).callers[0]? = some c ∧
      writes c.history = [⟨"b", "2"⟩, ⟨"a", "3"⟩, ⟨"b", "4"⟩] ∧
      c.inst.envOverrides = [⟨"b", "4"⟩, ⟨"a", "3"⟩] ∧ c.inst.env = [("a", "3"), ("b", "4")] ∧
      EnvOverride.Agree c.setup.env (writes c.history) c.inst.env c.inst.envOverrides := by
  intro moves
  exact ⟨_, rfl, by decide +kernel, by decide +kernel, by decide +kernel,
    (overrides_agree_with_environment [] none moves 0 _ rfl).2.1⟩

end ScriptBench
