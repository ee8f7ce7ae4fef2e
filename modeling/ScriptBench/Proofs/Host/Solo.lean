import ScriptBench.Host.Party
import ScriptBench.Proofs.Host.Unwinding

/-!
An instance on its own.

A lone instance has a host nobody else acts on. It is told what is done with it, and what its reads
of shared values find (`Solo.step`); a history that it tells in this way (`Solo.Lives`) is therefore
fixed.

1. By the deeds and by what the reads find (`lives_unique`).
2. By the deeds alone, if every read finds what is in the store of the lone host (`lives_foreseen`).
3. By the deeds and the answers to the reads, but for the log: a null that was read may have been a
   value or none, and only the log tells which (`lives_unlogged`).
-/
namespace ScriptBench

/-- The key of the shared value that a deed reads. -/
def Deed.reads? : Deed → Option String
  | .answered name argsText _ => Host.callReads? name argsText
  | _ => none

namespace Happening

/-- What a read of a shared value has found. -/
def found? : Happening → Option Json
  | .answered _ _ _ _ found => found
  | _ => none

/-- The answer to a read of a shared value. -/
def readAnswer? : Happening → Option Answer
  | .answered name argsText a _ _ => (Host.callReads? name argsText).map fun _ => a
  | _ => none

/-- A happening without what a read has found and without the log of a report. -/
def unlogged : Happening → Happening
  | .answered name argsText a cut _ => .answered name argsText a cut none
  | .reported status r => .reported status { r with logs := [] }
  | x => x

end Happening

/-- What the answer to a call depends on. -/
inductive Due where
  | answer (a : Answer)
  | sleep
  | network
  /-- On a shared value. -/
  | shared

/-- What a call that waits depends on. -/
def Due.ofSuspension : Suspension → Due
  | .sleep _ => .sleep
  | .network => .network
  | .wait .. => .shared

/-- An instance on a host of its own; `due` is there while a call has no answer. -/
structure Solo where
  host : Host
  cancelled : Bool
  due : Option Due

namespace Solo

/-- A lone instance that has done nothing yet. -/
def start (setup : Setup) (store : Store) : Solo :=
  ⟨⟨.ofSetup .nil 0 setup, ⟨store, [], none⟩⟩, false, none⟩

/-- Makes a call that reads no shared value. -/
def callAlone (s : Settings) (σ : Solo) (name argsText : String) : Solo :=
  match σ.host.call s σ.cancelled name argsText with
  | (host, .answered a) => { σ with host, due := some (.answer a) }
  | (host, .suspended on) => { σ with host, due := some (.ofSuspension on) }

/-- Makes a call. A read of a shared value waits for what it will find, unless it is refused. -/
def call (s : Settings) (σ : Solo) (name argsText : String) : Solo :=
  match Host.readCall name argsText with
  | .ok (.getShared _) => { σ with due := some .shared }
  | .ok (.waitShared _) =>
    { σ with due := some (if σ.cancelled then .answer (.error .cancelled) else .shared) }
  | _ => σ.callAlone s name argsText

/-- The answer to a read of a shared value, by what it has found. -/
def readShared (s : Settings) (h : Host) (cut : Bool) : Call → Option Json → Host × Answer
  | .getShared key, some v => (h.log s .info (Host.sharedFound key v), .ok v)
  | .getShared key, none => (h.log s .warn (Host.sharedMissing key), .ok .null)
  | .waitShared key, some v => (h.log s .info (Host.sharedFound key v), .ok v)
  | .waitShared key, none =>
    if cut then (h, .error .cancelled)
    else (h.log s .error (Host.sharedMissing key), .error (.timeout key))
  | _, _ => (h, .error .cancelled)

/-- The answer to the call that has none. -/
def answer (s : Settings) (σ : Solo) (name argsText : String) (cut : Bool) (found : Option Json) :
    Host × Answer :=
  match σ.due with
  | some (.answer a) => (σ.host, a)
  | some .sleep => (σ.host, if cut then .error .cancelled else .ok .null)
  | some .shared =>
    match Host.readCall name argsText with
    | .ok c => readShared s σ.host cut c found
    | .error e => (σ.host, .error e)
  | _ => (σ.host, .error .cancelled)

/-- What comes of a deed, given what it finds should it read a shared value. -/
def step (s : Settings) (σ : Solo) (found : Option Json) : Deed → Solo × Happening
  | .called name argsText => (σ.call s name argsText, .called name argsText)
  | .answered name argsText cut =>
    let r := σ.answer s name argsText cut found
    ({ σ with host := r.1, due := none }, .answered name argsText r.2 cut found)
  | .entered scope => ({ σ with host := σ.host.enterScope scope }, .entered scope)
  | .cancelled => ({ σ with cancelled := true }, .cancelled)
  | .wrote level message => ({ σ with host := σ.host.log s level message }, .wrote level message)
  | .reported status => (σ, .reported status (σ.host.inst.report s.now status))

/-- What a deed finds in the store of the lone host. -/
def foresee (σ : Solo) (d : Deed) : Option Json :=
  match σ.due with
  | some .shared => d.reads?.bind fun key => σ.host.world.store.get? key
  | _ => none

/-- A lone instance tells a history. What it finds under some of the keys is what is in its own
store. -/
def Lives (own : String → Prop) (s : Settings) : Solo → List Happening → Solo → Prop
  | σ, [], τ => σ = τ
  | σ, x :: rest, τ =>
    ((∀ key, x.deed.reads? = some key → own key) → x.found? = σ.foresee x.deed) ∧
      ∃ σ', σ.step s x.found? x.deed = (σ', x) ∧ Lives own s σ' rest τ

variable {own own' : String → Prop} {s : Settings} {σ σ' τ τ' : Solo} {xs ys : List Happening}

theorem lives_append :
    Lives own s σ (xs ++ ys) τ ↔ ∃ σ', Lives own s σ xs σ' ∧ Lives own s σ' ys τ := by
  induction xs generalizing σ with
  | nil => simp [Lives]
  | cons x rest ih =>
    simp only [List.cons_append, Lives, ih]
    constructor
    · rintro ⟨hfound, σ₁, hstep, σ₂, hrest, hys⟩
      exact ⟨σ₂, ⟨hfound, σ₁, hstep, hrest⟩, hys⟩
    · rintro ⟨σ₂, ⟨hfound, σ₁, hstep, hrest⟩, hys⟩
      exact ⟨hfound, σ₁, hstep, σ₂, hrest, hys⟩

/-! ## What fixes a history -/

/-- Deeds and what the reads find fix the history. -/
theorem lives_unique (h : Lives own s σ xs τ) (h' : Lives own' s σ ys τ')
    (hdeeds : xs.map (·.deed) = ys.map (·.deed)) (hfound : xs.map (·.found?) = ys.map (·.found?)) :
    xs = ys ∧ τ = τ' := by
  induction xs generalizing σ ys with
  | nil =>
    obtain rfl : ys = [] := List.map_eq_nil_iff.mp hdeeds.symm
    exact ⟨rfl, h.symm.trans h'⟩
  | cons x rest ih =>
    obtain _ | ⟨y, rest'⟩ := ys
    · cases hdeeds
    rw [List.map_cons, List.map_cons, List.cons_eq_cons] at hdeeds hfound
    obtain ⟨hdeed, hdeeds⟩ := hdeeds
    obtain ⟨hfind, hfound⟩ := hfound
    obtain ⟨-, σ₁, hx, hrest⟩ := h
    obtain ⟨-, σ₂, hy, hrest'⟩ := h'
    rw [hdeed, hfind, hy] at hx
    obtain ⟨rfl, rfl⟩ := Prod.mk.inj hx
    obtain ⟨rfl, rfl⟩ := ih hrest hrest' hdeeds hfound
    exact ⟨rfl, rfl⟩

/-- Deeds alone fix the history, if all that is read is in the own store. -/
theorem lives_foreseen (h : Lives own s σ xs τ) (h' : Lives own' s σ ys τ')
    (hdeeds : xs.map (·.deed) = ys.map (·.deed))
    (hown : ∀ x ∈ xs, ∀ key, x.deed.reads? = some key → own key ∧ own' key) : xs = ys ∧ τ = τ' := by
  induction xs generalizing σ ys with
  | nil =>
    obtain rfl : ys = [] := List.map_eq_nil_iff.mp hdeeds.symm
    exact ⟨rfl, h.symm.trans h'⟩
  | cons x rest ih =>
    obtain _ | ⟨y, rest'⟩ := ys
    · cases hdeeds
    rw [List.map_cons, List.map_cons, List.cons_eq_cons] at hdeeds
    obtain ⟨hdeed, hdeeds⟩ := hdeeds
    obtain ⟨hfx, σ₁, hx, hrest⟩ := h
    obtain ⟨hfy, σ₂, hy, hrest'⟩ := h'
    -- both find what is in the one store they have until then
    have hfind : x.found? = y.found? := by
      rw [hfx fun key hkey => (hown x List.mem_cons_self key hkey).1,
        hfy fun key hkey => (hown x List.mem_cons_self key (hdeed ▸ hkey)).2, hdeed]
    rw [hdeed, hfind, hy] at hx
    obtain ⟨rfl, rfl⟩ := Prod.mk.inj hx
    obtain ⟨rfl, rfl⟩ := ih hrest hrest' hdeeds fun x hx => hown x (List.mem_cons_of_mem _ hx)
    exact ⟨rfl, rfl⟩

/-! ## But for the log -/

/-- The same but for the log. -/
structure Alike (σ σ' : Solo) : Prop where
  host : Host.Alike σ.host σ'.host
  cancelled : σ'.cancelled = σ.cancelled
  due : σ'.due = σ.due

theorem alike_callAlone (halone : s.collaborators.AnswersEachAlone) (ha : Alike σ σ')
    {name argsText : String} (hreads : Host.callReads? name argsText = none) :
    Alike (σ.callAlone s name argsText) (σ'.callAlone s name argsText) := by
  have ht : Host.Together _ σ.host σ'.host (σ.host.call s σ.cancelled name argsText)
      (σ'.host.call s σ.cancelled name argsText) :=
        Host.call_together (ha.host.sameReplies halone) ha.host hreads
  have halike := ht.alike ha.host
  have hresult := ht.result
  unfold callAlone
  rw [ha.cancelled]
  revert halike hresult
  rcases σ.host.call s σ.cancelled name argsText with ⟨h, r⟩
  rcases σ'.host.call s σ.cancelled name argsText with ⟨h', r'⟩
  intro halike hresult
  obtain rfl : r' = r := hresult
  cases r' with
  | answered a => exact ⟨halike, rfl, rfl⟩
  | suspended on => exact ⟨halike, rfl, rfl⟩

theorem call_of_reads_none {name argsText : String}
    (hreads : Host.callReads? name argsText = none) :
    σ.call s name argsText = σ.callAlone s name argsText := by
  unfold call
  split
  · rename_i hread
    cases hreads.symm.trans (Host.callReads_eq hread)
  · rename_i hread
    cases hreads.symm.trans (Host.callReads_eq hread)
  · rfl

theorem alike_call (halone : s.collaborators.AnswersEachAlone) (ha : Alike σ σ')
    (name argsText : String) :
    Alike (σ.call s name argsText) (σ'.call s name argsText) := by
  cases hreads : Host.callReads? name argsText with
  | none =>
    rw [call_of_reads_none hreads, call_of_reads_none hreads]
    exact alike_callAlone halone ha hreads
  | some key =>
    obtain hread | hread := Host.of_callReads hreads
    · rw [call, call, hread]
      exact ⟨ha.host, ha.cancelled, rfl⟩
    · rw [call, call, hread]
      exact ⟨ha.host, ha.cancelled, by rw [ha.cancelled]⟩

theorem quiet_readShared (s : Settings) (h : Host) (cut : Bool) (c : Call) (found : Option Json) :
    Host.Quiet h (readShared s h cut c found).1 := by
  unfold readShared
  split
  · exact ⟨rfl, rfl⟩
  · exact ⟨rfl, rfl⟩
  · exact ⟨rfl, rfl⟩
  · split <;> exact ⟨rfl, rfl⟩
  · exact ⟨rfl, rfl⟩

theorem alike_answer (ha : Alike σ σ') (name argsText : String) (cut : Bool)
    (found found' : Option Json) :
    Host.Alike (σ.answer s name argsText cut found).1 (σ'.answer s name argsText cut found').1 := by
  unfold answer
  rw [ha.due]
  split
  · exact ha.host
  · exact ha.host
  · split
    · exact ha.host.quiet (quiet_readShared s σ.host cut _ found)
        (quiet_readShared s σ'.host cut _ found')
    · exact ha.host
  · exact ha.host

/-- Whatever the reads find, a deed leaves lone instances alike. -/
theorem alike_step (halone : s.collaborators.AnswersEachAlone) (ha : Alike σ σ') (d : Deed)
    (found found' : Option Json) : Alike (σ.step s found d).1 (σ'.step s found' d).1 := by
  cases d with
  | called name argsText => exact alike_call halone ha name argsText
  | answered name argsText cut =>
    exact ⟨alike_answer ha name argsText cut found found', ha.cancelled, rfl⟩
  | entered scope => exact ⟨ha.host.enterScope scope, ha.cancelled, ha.due⟩
  | cancelled => exact ⟨ha.host, rfl, ha.due⟩
  | wrote level message =>
    exact ⟨(Host.together_log ha.host level message ()).alike ha.host, ha.cancelled, ha.due⟩
  | reported status => exact ha

theorem report_alike {h h' : Host} (ha : Host.Alike h h') (now : Time) (status : Status) :
    ({ h.inst.report now status with logs := [] } : InstanceReport) =
      { h'.inst.report now status with logs := [] } := by
  rw [ha.inst]
  rfl

/-- Alike instances tell the same of a deed but for the log, if its answer is the same should it be
a read. -/
theorem unlogged_step (ha : Alike σ σ') (d : Deed) (found found' : Option Json)
    (hanswer : (σ.step s found d).2.readAnswer? = (σ'.step s found' d).2.readAnswer?) :
    (σ.step s found d).2.unlogged = (σ'.step s found' d).2.unlogged := by
  cases d with
  | called name argsText => rfl
  | entered scope => rfl
  | cancelled => rfl
  | wrote level message => rfl
  | reported status =>
    simp only [step, Happening.unlogged, report_alike ha.host]
  | answered name argsText cut =>
    have hsame : (σ.answer s name argsText cut found).2 =
        (σ'.answer s name argsText cut found').2 := by
      cases hreads : Host.callReads? name argsText with
      | some key =>
        simp only [step, Happening.readAnswer?, hreads, Option.map_some] at hanswer
        exact Option.some.inj hanswer
      | none =>
        unfold answer
        rw [ha.due]
        split
        · rfl
        · rfl
        · split
          · rename_i c hread
            rw [Host.callReads_eq hread] at hreads
            cases c with
            | getShared key => cases hreads
            | waitShared key => cases hreads
            | _ => rfl
          · rfl
        · rfl
    simp only [step, Happening.unlogged, hsame]

theorem readAnswer_isSome (x : Happening) : x.readAnswer?.isSome = x.deed.reads?.isSome := by
  cases x with
  | answered name argsText a cut found =>
    simp only [Happening.readAnswer?, Happening.deed, Deed.reads?, Option.isSome_map]
  | _ => rfl

theorem filterMap_cons_inj {α β : Type} {f : α → Option β} {x y : α} {xs ys : List α}
    (hplaces : (f x).isSome = (f y).isSome) (h : (x :: xs).filterMap f = (y :: ys).filterMap f) :
    f x = f y ∧ xs.filterMap f = ys.filterMap f := by
  rw [List.filterMap_cons, List.filterMap_cons] at h
  cases hx : f x with
  | none =>
    obtain hy : f y = none := by simpa [hx] using hplaces
    rw [hx, hy] at h
    exact ⟨hy.symm, h⟩
  | some a =>
    obtain ⟨b, hy⟩ : ∃ b, f y = some b := Option.isSome_iff_exists.mp (by rw [← hplaces, hx]; rfl)
    rw [hx, hy] at h
    obtain ⟨rfl, hrest⟩ := List.cons_eq_cons.mp h
    exact ⟨hy.symm, hrest⟩

/-- Deeds and the answers to the reads fix the history but for the log. -/
theorem lives_unlogged (halone : s.collaborators.AnswersEachAlone) (ha : Alike σ σ')
    (h : Lives own s σ xs τ) (h' : Lives own' s σ' ys τ')
    (hdeeds : xs.map (·.deed) = ys.map (·.deed))
    (hanswers : xs.filterMap (·.readAnswer?) = ys.filterMap (·.readAnswer?)) :
    xs.map (·.unlogged) = ys.map (·.unlogged) ∧ Alike τ τ' := by
  induction xs generalizing σ σ' ys with
  | nil =>
    obtain rfl : ys = [] := List.map_eq_nil_iff.mp hdeeds.symm
    obtain rfl : σ = τ := h
    obtain rfl : σ' = τ' := h'
    exact ⟨rfl, ha⟩
  | cons x rest ih =>
    obtain _ | ⟨y, rest'⟩ := ys
    · cases hdeeds
    rw [List.map_cons, List.map_cons, List.cons_eq_cons] at hdeeds
    obtain ⟨hdeed, hdeeds⟩ := hdeeds
    obtain ⟨-, σ₁, hx, hrest⟩ := h
    obtain ⟨-, σ₂, hy, hrest'⟩ := h'
    have hreads : x.readAnswer?.isSome = y.readAnswer?.isSome := by
      rw [readAnswer_isSome, readAnswer_isSome, hdeed]
    obtain ⟨hanswer, hanswers⟩ := filterMap_cons_inj hreads hanswers
    rw [← hdeed] at hy
    have hstep := alike_step halone ha x.deed x.found? y.found?
    have hsame := unlogged_step (s := s) ha x.deed x.found? y.found?
    rw [hx, hy] at hstep hsame
    obtain ⟨hrests, hends⟩ := ih hstep hrest hrest' hdeeds hanswers
    rw [List.map_cons, List.map_cons, hrests, hsame hanswer]
    exact ⟨rfl, hends⟩

end Solo

end ScriptBench
