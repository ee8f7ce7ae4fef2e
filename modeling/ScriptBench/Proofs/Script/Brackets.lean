import Mathlib.Logic.Relation
import ScriptBench.Proofs.Script.Parking
import ScriptBench.Proofs.Script.Titles

/-!
Tests bracket their bodies.

A script of host calls, errors, handlers and nested tests, whose tests with asynchronous bodies are
awaited.

1. A call of the host does nothing to the tests, or something that is balanced (`leads_binding`).
2. A test opens a block or is refused (`leads_open`), and however its body ends the block is closed
   (`leads_close`).
3. By induction over the statements, every body comes to its end, and what it has done to the tests
   is balanced (`leads_body`).
4. So every call of a test that a script comes to is refused, with nothing done, or opens a block,
   runs its body, closes that block and gives the body's outcome, with the open blocks as they were
   (`every_test_brackets`).
-/
namespace ScriptBench

open Machine Stage
open Aggregator (Balanced)

/-! ## The scripts -/

namespace Step

mutual

/-- Statements that call functions of the host other than those that open and close blocks, throw
and handle errors, and run tests. A test with an asynchronous body is awaited. -/
def Nests : Step → Prop
  | .call path _ _ _ => ∃ this b, startGlobals.resolve path = .ok (this, .function (.host b)) ∧
      b ≠ .openTest ∧ b ≠ .closeTest ∧ b ≠ .test
  | .test path _ kind body _ await =>
    (∃ this, startGlobals.resolve path = .ok (this, .function (.host .test))) ∧
      (kind = .async → await = true) ∧ AllNest body
  | .attempt body handler => AllNest body ∧ AllNest handler
  | .throw _ | .leave _ | .assign _ _ | .recurse | .allocate _ => True
  | .setGlobal _ _ | .never | .spin => False

def AllNest : List Step → Prop
  | [] => True
  | step :: rest => Nests step ∧ AllNest rest

end

end Step

/-! ## What goes on -/

/-- Between the scenes something balanced has been done to the tests. -/
def Scene.Adds (c c' : Scene) : Prop :=
  ∃ inner records blocks, c'.deeds = c.deeds ++ inner ∧ Balanced inner records blocks

namespace Scene

theorem Adds.of_eq {c c' : Scene} (h : c'.deeds = c.deeds) : c.Adds c' :=
  ⟨[], [], [], by rw [h, List.append_nil], .nil⟩

theorem Adds.trans {c c' c'' : Scene} (h : c.Adds c') (h' : c'.Adds c'') : c.Adds c'' := by
  obtain ⟨inner, records, blocks, hdeeds, hbalanced⟩ := h
  obtain ⟨inner', records', blocks', hdeeds', hbalanced'⟩ := h'
  exact ⟨_, _, _, by rw [hdeeds', hdeeds, List.append_assoc], hbalanced.trans hbalanced'⟩

theorem Adds.block {c c' c'' : Scene} {name : String} {openedAt closedAt : Time} {opened : Scene}
    (hopened : opened.deeds = c.deeds ++ [.openBlock openedAt name]) (h : opened.Adds c')
    (hclosed : c''.deeds = c'.deeds ++ [.closeBlock closedAt name]) : c.Adds c'' := by
  obtain ⟨inner, records, blocks, hdeeds, hbalanced⟩ := h
  refine ⟨_, _, _, ?_, Balanced.nil.block hbalanced name openedAt closedAt⟩
  rw [hclosed, hdeeds, hopened]
  simp

end Scene

def Scene.assign (c : Scene) (name : String) (v : Value) : Scene :=
  { c with vars := setVariable name v c.vars }

/-- Whatever comes of the frames in front, all else that is to be done leads to the goal: after an
outcome that nothing has to follow, and after a value with which the body in front is left. -/
structure Onward (s : Settings) (duty goal : Stage → Prop) (c : Scene) (whole : List Frame) :
    Prop where
  ends : ∀ {c' ps held frames outcome}, c.Adds c' → Spread ps frames whole held → Calm ps →
    Settled outcome → Leads s duty goal (c'.stage ps [] (.towards outcome frames))
  leaves : ∀ {c' ps held frames v outcome}, c.Adds c' → Spread ps frames whole held → Calm ps →
    Gives ps v outcome → Leads s duty goal (c'.stage ps [] (.deliver v (unwind frames)))

section Statements

variable {s : Settings} {duty goal : Stage → Prop} {c c' : Scene} {ps : List PromiseState}
  {control : Control}
  {frames whole : List Frame} {held : List Nat} {outcome : Except Value Value}
    {store : Option String} {await : Bool}

theorem Onward.later (h : Onward s duty goal c whole) (hadds : c.Adds c') :
    Onward s duty goal c' whole where
  ends hadds' := h.ends (hadds.trans hadds')
  leaves hadds' := h.leaves (hadds.trans hadds')

theorem settled_undefined : Settled (.ok .undefined) := fun _ h => by cases h; rfl

theorem Onward.undefined (h : Onward s duty goal c whole) (hspread : Spread ps frames whole held)
    (hcalm : Calm ps) :
    Leads s duty goal (c.stage ps [] (.deliver .undefined frames)) :=
  h.ends (.of_eq rfl) hspread hcalm settled_undefined

theorem Onward.raises (h : Onward s duty goal c whole) (hspread : Spread ps frames whole held)
    (hcalm : Calm ps) (e : Value) : Leads s duty goal (c.stage ps [] (.raise e frames)) :=
  h.ends (.of_eq rfl) hspread hcalm (settled_error e)

/-- A turn that has to evaluate something first raises if it cannot. -/
theorem leads_evaluated {α : Type} (x : Except Value α) (h : Onward s duty goal c whole)
    (hspread : Spread ps frames whole held) (hcalm : Calm ps) (hcalls : control.callsTest = false)
    (herror : ∀ e, x = .error e → (c.machine ps [] control).turn =
      .next (c.machine ps [] (.raise e frames)))
    (hgo : ∀ v, x = .ok v → Leads s duty goal (c.stage ps [] control)) :
    Leads s duty goal (c.stage ps [] control) := by
  cases hx : x with
  | error e => exact leads_step (herror e hx) hcalls (h.raises hspread hcalm e)
  | ok v => exact hgo v hx

/-! ### Results of calls -/

theorem leads_assign {control' : Control} {name : String} {v : Value}
    (hturn : (c.machine ps [] control).turn = .next ((c.assign name v).machine ps [] control'))
    (hcalls : control.callsTest = false)
    (h : Leads s duty goal ((c.assign name v).stage ps [] control')) :
    Leads s duty goal (c.stage ps [] control) :=
  leads_turn hturn (Control.no_duty hcalls) h

theorem leads_store (h : Onward s duty goal c whole) (hspread : Spread ps frames whole held)
    (hcalm : Calm ps) (outcome : Except Value Value) (store : Option String) :
    Leads s duty goal (c.stage ps [] (.towards outcome (.keep store false :: frames))) := by
  cases outcome with
  | error e => exact leads_step rfl rfl (h.raises hspread hcalm e)
  | ok v =>
    cases store with
    | none => exact leads_step rfl rfl (h.undefined hspread hcalm)
    | some name =>
      have hassigned : Onward s duty goal (c.assign name v) whole := h.later (.of_eq rfl)
      exact leads_assign rfl rfl (hassigned.undefined hspread hcalm)

theorem yields_of_settled (ps : List PromiseState) (h : Settled outcome) :
    Yields ps outcome outcome := by
  cases outcome with
  | error e => exact .error e
  | ok v => exact .value (.itself (h v rfl))

theorem leads_keep (h : Onward s duty goal c whole) (hspread : Spread ps frames whole held)
    (hcalm : Calm ps) {awaited : Except Value Value} (hyields : Yields ps outcome awaited)
    (store : Option String) (await : Bool) :
    Leads s duty goal (c.stage ps [] (.towards outcome (.keep store await :: frames))) := by
  cases await with
  | false => exact leads_store h hspread hcalm outcome store
  | true =>
    cases hyields with
    | error e => exact leads_step rfl rfl (h.raises hspread hcalm e)
    | value hgives =>
      refine leads_await hgives hspread hcalm fun ps' held' hspread' hcalm' => ?_
      exact leads_store h hspread' hcalm' awaited store

/-! ### Calls of the host -/

/-- A request that opens or closes no block is answered, with something balanced done to the tests;
what cannot be asked throws. -/
theorem leads_asked {ps' : List PromiseState} {control' : Control} {b : Binding}
    {values : List Value}
    (hturn : (c.machine ps [] control).turn = (c.machine ps' [] control').asking b values frames)
    (hcalls : control.callsTest = false) (hopen : b ≠ .openTest) (hclose : b ≠ .closeTest)
    (htest : b ≠ .test)
    (hgo : ∀ c' outcome, c.Adds c' → Settled outcome →
      Leads s duty goal (c'.stage ps' [] (.towards outcome frames))) :
    Leads s duty goal (c.stage ps [] control) := by
  rw [asking, show (c.machine ps' [] control').globals = startGlobals from rfl] at hturn
  cases hrequest : b.request startGlobals values with
  | error e =>
    rw [hrequest] at hturn
    exact leads_step hturn hcalls (hgo c (.error e) (.of_eq rfl) (settled_error e))
  | ok r =>
    simp only [hrequest, if_neg htest] at hturn
    obtain ⟨hnotOpen, hnotClose⟩ := operation_of_binding hrequest hopen hclose htest
    refine leads_request hturn (Control.no_duty hcalls) fun now cancelled world h₁ w h' a _ => ?_
    obtain ⟨records, hbalanced⟩ := other_answered hnotOpen hnotClose { s with now := now } a
    have hadds : c.Adds (c.did h'.inst (r.deeds { s with now := now } a)) :=
      ⟨_, _, _, rfl, hbalanced⟩
    have houtcome : Settled a.outcome := by
      cases a with
      | error e => exact settled_error _
      | ok v =>
        intro v' hv'
        cases hv'
        exact isThenable_ofJson v
    split
    · exact hgo _ _ hadds houtcome
    · cases a with
      | error e => exact leads_step rfl rfl (hgo _ _ hadds houtcome)
      | ok v => exact leads_step rfl rfl (hgo _ _ hadds settled_undefined)

theorem leads_binding {b : Binding} {values : List Value}
    (hturn : (c.machine ps [] control).turn =
      (c.machine ps [] control).callBinding b values (.keep store await :: frames))
    (hcalls : control.callsTest = false) (hopen : b ≠ .openTest) (hclose : b ≠ .closeTest)
    (htest : b ≠ .test)
    (h : Onward s duty goal c whole) (hspread : Spread ps frames whole held) (hcalm : Calm ps) :
    Leads s duty goal (c.stage ps [] control) := by
  rw [callBinding_eq] at hturn
  split at hturn
  · have hpromised : (c.machine ps [] control).turn =
      (c.machine (ps ++ [.pending []]) [] control).asking b values
        (.settle ps.length :: .keep store await :: frames) := hturn
    refine leads_asked hpromised hcalls hopen hclose htest fun c' outcome hadds houtcome => ?_
    have hsettle : (c'.machine (ps ++ [.pending []]) []
        (.towards outcome (.settle ps.length :: .keep store await :: frames))).turn =
        .next (c'.machine (ps ++ [.settled outcome]) []
          (.deliver (.promise ps.length) (.keep store await :: frames))) := by
      rw [settle_turn c' _ List.getElem?_concat_length houtcome, set_length]
      rfl
    refine leads_step hsettle (by cases outcome <;> rfl) ?_
    have hgives : Gives (ps ++ [.settled outcome]) (.promise ps.length) outcome :=
      .settled List.getElem?_concat_length
    have hcalm' : Calm (ps ++ [.settled outcome]) := hcalm.append (calm_settled houtcome)
    exact leads_keep (h.later hadds) (hspread.append _) hcalm' (.value hgives) store await
  · refine leads_asked hturn hcalls hopen hclose htest fun c' outcome hadds houtcome => ?_
    exact leads_keep (h.later hadds) hspread hcalm (yields_of_settled ps houtcome) store await

end Statements

/-! ## Calls of tests -/

/-- The name a title gives to a block: the string its value becomes, in which no surrogate stands
alone. -/
def Machine.Titles (m : Machine) (title : Expr) (name : String) : Prop :=
  ∃ v text, m.value title = .ok v ∧ Value.toText v = .ok text ∧ text.toString? = some name

/-- What follows the body of a test: it ends in front of the block, or as a function of its own. -/
def bodyEnd (kind : BodyKind) (p : Nat) (name : Value) (store : Option String) (await : Bool)
    (whole : List Frame) :
    List Frame :=
  match kind with
  | .plain => .close name :: .keep store await :: whole
  | .async => .settle p :: .close name :: .keep store await :: whole

/-- A name comes of a title that has become a string. -/
theorem titles_iff {m : Machine} {title : Expr} {name : String} :
    m.Titles title name ↔ ∃ text, m.value title >>= Value.toText = .ok text ∧
      text.toString? = some name := by
  constructor
  · rintro ⟨v, text, hv, ht, hname⟩
    exact ⟨text, bind_eq_ok_iff.mpr ⟨v, hv, ht⟩, hname⟩
  · rintro ⟨text, htext, hname⟩
    obtain ⟨v, hv, ht⟩ := bind_eq_ok_iff.mp htext
    exact ⟨v, text, hv, ht, hname⟩

section Tests

variable {s : Settings} {duty goal : Stage → Prop} {c : Scene} {ps : List PromiseState}
  {frames whole : List Frame} {held : List Nat} {store : Option String} {await : Bool}
  {kind : BodyKind} {body rest : List Step}

/-- A test opens a block by the name its title gives, or, if it gives none, throws and does
nothing. -/
theorem leads_open {path : List Text16} {title : Expr} {u : Value}
    (hpath : ∃ this, startGlobals.resolve path = .ok (this, .function (.host .test)))
    (hduty : duty (c.stage ps []
      (.deliver u (.body (.test path title kind body store await :: rest) :: frames))))
    (hrefused : ∀ e (c' : Scene), (∀ name, ¬ (c.machine ps [] .idle).Titles title name) →
      c'.deeds = c.deeds →
        Leads s duty goal (c'.stage ps [] (.raise e (.keep store await :: .body rest :: frames))))
    (hopened : ∀ now inst text name, (c.machine ps [] .idle).Titles title name →
      Names (Value.argumentText [.string text]) name →
      Leads s duty goal ((c.did inst [.openBlock now name]).stage ps []
        (.deliver .null
          (.opened (.string text) kind body :: .keep store await :: .body rest :: frames)))) :
    Leads s duty goal
      (c.stage ps []
        (.deliver u (.body (.test path title kind body store await :: rest) :: frames))) := by
  obtain ⟨this, hresolve⟩ := hpath
  have hexec :
    (c.machine ps []
    (.deliver u (.body (.test path title kind body store await :: rest) :: frames))).turn =
      match (c.machine ps [] .idle).value title >>= Value.toText with
      | .error e => .next (c.machine ps [] (.raise e (.keep store await :: .body rest :: frames)))
      | .ok text =>
        .ask ⟨.openTest, Value.argumentText [.string text]⟩ (c.machine ps []
          (.asked
            (.opened (.string text) kind body :: .keep store await :: .body rest :: frames))) := by
    show (c.machine ps [] _).exec (.body rest :: frames) (.test path title kind body store await) =
      _
    simp only [exec, show (c.machine ps [] _).globals = startGlobals from rfl, hresolve,
      Machine.value, show (c.machine ps [] _).vars = c.vars from rfl]
    cases eval startGlobals c.vars title with
    | error e => rfl
    | ok v =>
      simp only [text_start, request_test]
      show _ = match Value.toText v with
        | .error e => _
        | .ok text => _
      cases Value.toText v <;> rfl
  cases htext : (c.machine ps [] .idle).value title >>= Value.toText with
  | error e =>
    rw [htext] at hexec
    refine leads_turn hexec (fun _ => hduty) (hrefused e c (fun name htitles => ?_) rfl)
    obtain ⟨text, hsome, -⟩ := titles_iff.mp htitles
    rw [htext] at hsome
    cases hsome
  | ok text =>
    rw [htext] at hexec
    refine leads_request hexec (fun _ => hduty) fun now cancelled world h₁ w h' a hanswer => ?_
    obtain ⟨name, hnames, rfl, hdeeds⟩ | ⟨hnone, e, rfl, hdeeds⟩ := opening_answered rfl hanswer
    · rw [hdeeds]
      exact hopened now h'.inst text name (titles_iff.mpr ⟨text, htext, names_iff.mp hnames⟩) hnames
    · rw [hdeeds]
      refine leads_step rfl rfl (hrefused _ _ (fun name htitles => ?_) (List.append_nil _))
      obtain ⟨text', hsame, hname⟩ := titles_iff.mp htitles
      rw [htext] at hsame
      cases hsame
      exact hnone name (names_iff.mpr hname)

/-- The body of a test that has been opened is entered. -/
theorem leads_enter {name v : Value} (hspread : Spread ps frames whole held) (hcalm : Calm ps)
    (hawait : kind = .async → await = true)
    (hgo : ∀ ps' frames' held',
      Spread ps' frames' (bodyEnd kind ps.length name store await whole) held' → Calm ps' →
      Leads s duty goal (c.stage ps' [] (.deliver .undefined (.body body :: frames')))) :
    Leads s duty goal
    (c.stage ps [] (.deliver v (.opened name kind body :: .keep store await :: frames))) := by
  cases kind with
  | plain => exact leads_step rfl rfl (hgo ps _ held (.frame rfl (.frame rfl hspread)) hcalm)
  | async =>
    cases hawait rfl
    have hbody : Spread (ps ++ [.pending []])
      (.settle ps.length :: .close name :: .keep store true :: frames)
        (.settle ps.length :: .close name :: .keep store true :: whole) (ps.length :: held) :=
      .body List.getElem?_concat_length hspread.not_mem_length (hspread.append _)
    refine leads_step ?_ rfl (hgo _ _ _ hbody (hcalm.append (calm_pending _)))
    rfl

/-- A plain body that ends with an outcome that nothing has to follow closes its block at once. -/
theorem leads_closePlain {name : Value} {title : String} {outcome : Except Value Value}
    (hnames : Names (Value.argumentText [name]) title) (houtcome : Settled outcome)
    (hgo : ∀ now inst,
      Leads s duty goal
    ((c.did inst [.closeBlock now title]).stage ps [] (.towards outcome frames))) :
    Leads s duty goal (c.stage ps [] (.towards outcome (.close name :: frames))) := by
  by_cases hinterrupted : ∃ e, outcome = .error e ∧ e.isInterruption = true
  -- An interruption passes by the block, which stays open.
  · obtain ⟨e, rfl, he⟩ := hinterrupted
    exact .off (.interrupted rfl he)
  have hask : (c.machine ps [] (.towards outcome (.close name :: frames))).turn =
      .ask ⟨.closeTest, Value.argumentText [name]⟩
          (c.machine ps [] (.asked (.closed outcome :: frames))) := by
    cases outcome with
    | ok v =>
      show leaveBody _ name v frames = _
      rw [leaveBody, houtcome v rfl, if_neg Bool.false_ne_true]
      rfl
    | error e =>
      have he : e.isInterruption = false := by
        cases he : e.isInterruption with
        | false => rfl
        | true => exact absurd ⟨e, rfl, he⟩ hinterrupted
      show raiseTo _ e frames (.close name) = _
      rw [raiseTo, he, if_neg Bool.false_ne_true]
      rfl
  refine leads_request hask (by cases outcome <;> nofun)
    fun now cancelled world h₁ w h' a hanswer => ?_
  obtain ⟨rfl, hdeeds⟩ := closing_answered hnames rfl hanswer
  rw [hdeeds]
  refine leads_step ?_ rfl (hgo now h'.inst)
  show Turn.next (Machine.proceed _ outcome frames) = _
  rw [proceed_eq]
  rfl

/-- However the body of a test ends, its block is closed, and what the body yields goes on to what
follows the call. -/
theorem leads_close {p : Nat} {name : Value} {title : String} {ended outcome : Except Value Value}
    (hnames : Names (Value.argumentText [name]) title) (hawait : kind = .async → await = true)
    (hspread : Spread ps frames (bodyEnd kind p name store await whole) held) (hcalm : Calm ps)
    (hyields : Yields ps ended outcome)
    (hgo : ∀ now inst ps' frames' held' await', Spread ps' frames' whole held' → Calm ps' →
      Leads s duty goal ((c.did inst [.closeBlock now title]).stage ps' []
        (.towards outcome (.keep store await' :: frames')))) :
    Leads s duty goal (c.stage ps [] (.towards ended frames)) := by
  cases kind with
  | plain =>
    obtain ⟨frames', rfl, hrest⟩ : ∃ frames', frames = .close name :: .keep store await :: frames' ∧
        Spread ps frames' whole held := by
      cases hspread with
      | frame _ h =>
        cases h with
        | frame _ h => exact ⟨_, rfl, h⟩
    obtain ⟨rfl, houtcome⟩ | ⟨x, rfl, hx⟩ := yields_cases hyields
    · exact leads_closePlain hnames houtcome fun now inst => hgo now inst ps _ _ _ hrest hcalm
    · cases await with
      | false => exact .off (.unawaited rfl rfl)
      | true =>
        exact leads_handOver hnames hx hrest hcalm fun now inst ps' held' =>
          hgo now inst ps' _ held' _
  | async =>
    cases hawait rfl
    obtain ⟨outside, rfl⟩ : ∃ outside, frames = .settle p :: outside := by
      cases hspread with
      | frame hf _ => cases hf
      | body _ _ _ => exact ⟨_, rfl⟩
      | bodyBehind _ _ _ _ _ _ => exact ⟨_, rfl⟩
    exact leads_settle hnames hyields hcalm hspread fun now inst ps' frames' held' _ =>
      hgo now inst ps' frames' held' _

end Tests

/-! ## Statements and bodies -/

/-- A script is about to run a test, with all else that it has to do in order. -/
inductive AtTest : Stage → Prop where
  | intro {c : Scene} {ps : List PromiseState} {u : Value} {path : List Text16} {title : Expr}
    {kind : BodyKind} {body rest : List Step} {store : Option String} {await : Bool}
    {frames whole : List Frame} {held : List Nat}
    (hstep : Step.Nests (.test path title kind body store await))
    (hspread : Spread ps frames whole held) (hcalm : Calm ps) :
    AtTest (c.stage ps []
      (.deliver u (.body (.test path title kind body store await :: rest) :: frames)))

section Bodies

variable {s : Settings} {duty goal : Stage → Prop} {c : Scene} {ps : List PromiseState}
  {frames whole : List Frame} {held : List Nat}

theorem onward_rest {rest : List Step} (h : Onward s duty goal c whole)
    (hrest : ∀ {c' ps' frames' held'} u, c.Adds c' → Spread ps' frames' whole held' → Calm ps' →
      Leads s duty goal (c'.stage ps' [] (.deliver u (.body rest :: frames')))) :
    Onward s duty goal c (.body rest :: whole) := by
  constructor
  · intro c' ps held frames outcome hadds hspread hcalm _
    cases hspread with
    | frame _ hspread =>
      cases outcome with
      | ok v => exact hrest v hadds hspread hcalm
      | error e => exact leads_step rfl rfl ((h.later hadds).raises hspread hcalm e)
  · intro c' ps held frames v outcome hadds hspread hcalm hgives
    cases hspread with
    | frame _ hspread =>
      have hleft := h.leaves hadds hspread hcalm hgives
      exact hleft

theorem onward_guard {handler : List Step} (h : Onward s duty goal c whole)
    (hhandler : ∀ {c' ps' frames' held'}, c.Adds c' → Spread ps' frames' whole held' → Calm ps' →
      Leads s duty goal (c'.stage ps' [] (.deliver .undefined (.body handler :: frames')))) :
    Onward s duty goal c (.guard handler :: whole) := by
  constructor
  · intro c' ps held frames outcome hadds hspread hcalm _
    cases hspread with
    | frame _ hspread =>
      cases outcome with
      | ok v => exact leads_step rfl rfl ((h.later hadds).undefined hspread hcalm)
      | error e =>
        cases he : e.isInterruption with
        | true => exact .off (.interrupted rfl he)
        | false =>
          have hcaught : Leads s duty goal
              ((c'.assign "e" e).stage ps [] (.deliver .undefined (.body handler :: _))) :=
            hhandler (hadds.trans (.of_eq rfl)) hspread hcalm
          refine leads_assign ?_ rfl hcaught
          show raiseTo _ e _ (.guard handler) = _
          rw [raiseTo, he, if_neg Bool.false_ne_true]
          rfl
  · intro c' ps held frames v outcome hadds hspread hcalm hgives
    cases hspread with
    | frame _ hspread =>
      have hleft := h.leaves hadds hspread hcalm hgives
      exact hleft

/-- A body that has been left is at its end. -/
theorem unwind_end {kind : BodyKind} {p : Nat} {name : Value} {store : Option String} {await : Bool}
    (h : Spread ps frames (bodyEnd kind p name store await whole) held) :
    unwind frames = frames := by
  cases kind with
  | plain =>
    cases h with
    | frame _ _ => rfl
  | async =>
    cases h with
    | frame hf _ => cases hf
    | body _ _ _ => rfl
    | bodyBehind _ _ _ _ _ _ => rfl

/-- However a body ends, what it yields goes on. -/
theorem onward_of_end {opened : Scene} {kind : BodyKind} {p : Nat} {name : Value}
    {store : Option String} {await : Bool}
    (hend : ∀ {c' : Scene} {ps frames held ended outcome}, opened.Adds c' →
      Spread ps frames (bodyEnd kind p name store await whole) held → Calm ps →
      Yields ps ended outcome →
      Leads s duty goal (c'.stage ps [] (.towards ended frames))) :
    Onward s duty goal opened (bodyEnd kind p name store await whole) := by
  constructor
  · intro c' ps held frames outcome hadds hspread hcalm houtcome
    exact hend hadds hspread hcalm (yields_of_settled ps houtcome)
  · intro c' ps held frames v outcome hadds hspread hcalm hgives
    rw [unwind_end hspread]
    exact hend hadds hspread hcalm (.value hgives)

theorem onward_test {opened : Scene} {kind : BodyKind} {p : Nat} {name : Value} {title : String}
    {store : Option String} {await : Bool} {openedAt : Time} (h : Onward s duty goal c whole)
    (hopened : opened.deeds = c.deeds ++ [.openBlock openedAt title])
    (hnames : Names (Value.argumentText [name]) title) (hawait : kind = .async → await = true) :
    Onward s duty goal opened (bodyEnd kind p name store await whole) := by
  refine onward_of_end fun {c' ps frames held ended outcome} hadds hspread hcalm hyields => ?_
  refine leads_close hnames hawait hspread hcalm hyields
    fun now inst ps' frames' held' await' hspread' hcalm' => ?_
  have hblock : c.Adds (c'.did inst [.closeBlock now title]) := .block hopened hadds rfl
  exact leads_keep (h.later hblock) hspread' hcalm'
    (yields_of_settled ps' (hyields.settled hcalm)) store await'

/-! ### Statements that hold no others -/

section Plain

variable {rest : List Step} {u : Value} (h : Onward s duty goal c (.body rest :: whole))
  (hspread : Spread ps frames whole held) (hcalm : Calm ps)

include h hspread hcalm

theorem leads_call {path : List Text16} {args : List Expr} {store : Option String} {await : Bool}
    (hstep : (Step.call path args store await).Nests) :
    Leads s duty goal
      (c.stage ps [] (.deliver u (.body (.call path args store await :: rest) :: frames))) := by
  obtain ⟨this, b, hresolve, hopen, hclose, htest⟩ := hstep
  have hspread' : Spread ps (.body rest :: frames) (.body rest :: whole) held := .frame rfl hspread
  have hglobals (control : Control) : (c.machine ps [] control).globals = startGlobals := rfl
  have hvars (control : Control) : (c.machine ps [] control).vars = c.vars := rfl
  refine leads_evaluated (evalItems startGlobals c.vars args) h hspread' hcalm rfl
    (fun e he => ?_) fun values hvalues => ?_
  · show (c.machine ps [] _).exec (.body rest :: frames) (.call path args store await) = _
    simp only [exec, hglobals, hvars, hresolve, he]
    rfl
  have hturn :
      (c.machine ps [] (.deliver u (.body (.call path args store await :: rest) :: frames))).turn =
        (c.machine ps []
          (.deliver u (.body (.call path args store await :: rest) :: frames))).callBinding
          b values (.keep store await :: .body rest :: frames) := by
    show (c.machine ps [] _).exec (.body rest :: frames) (.call path args store await) = _
    simp only [exec, hglobals, hvars, hresolve, hvalues]
    rfl
  exact leads_binding hturn rfl hopen hclose htest h hspread' hcalm

theorem leads_throw {e : Expr} :
    Leads s duty goal (c.stage ps [] (.deliver u (.body (.throw e :: rest) :: frames))) := by
  obtain ⟨thrown, hturn⟩ : ∃ thrown,
      (c.machine ps [] (.deliver u (.body (.throw e :: rest) :: frames))).turn =
        .next (c.machine ps [] (.raise thrown (.body rest :: frames))) := by
    show ∃ thrown, (c.machine ps [] _).exec (.body rest :: frames) (.throw e) = _
    simp only [exec]
    split <;> exact ⟨_, rfl⟩
  exact leads_step hturn rfl (h.raises (.frame rfl hspread) hcalm thrown)

/-- A value that a body is left with is given, or it is a promise that nothing has settled. -/
theorem leads_leave {e : Expr} :
    Leads s duty goal (c.stage ps [] (.deliver u (.body (.leave e :: rest) :: frames))) := by
  have hspread' : Spread ps (.body rest :: frames) (.body rest :: whole) held := .frame rfl hspread
  have hvalue (control : Control) : (c.machine ps [] control).value e = eval startGlobals c.vars e :=
    rfl
  refine leads_evaluated (eval startGlobals c.vars e) h hspread' hcalm rfl
    (fun thrown he => ?_) fun v hv => ?_
  · show (c.machine ps [] _).exec (.body rest :: frames) (.leave e) = _
    simp only [exec, hvalue, he]
    rfl
  have hturn : (c.machine ps [] (.deliver u (.body (.leave e :: rest) :: frames))).turn =
      .next (c.machine ps [] (.deliver v (unwind (.body rest :: frames)))) := by
    show (c.machine ps [] _).exec (.body rest :: frames) (.leave e) = _
    simp only [exec, hvalue, hv]
    rfl
  by_cases hgives : ∃ outcome, Gives ps v outcome
  · obtain ⟨outcome, hgives⟩ := hgives
    exact leads_step hturn rfl (h.leaves (.of_eq rfl) hspread' hcalm hgives)
  · refine .off (.unsettled rfl hv ?_ fun p outcome hpromise hsettled => hgives ⟨outcome, ?_⟩)
    · cases hthenable : v.isThenable with
      | true => rfl
      | false => exact absurd ⟨_, .itself hthenable⟩ hgives
    · rw [hpromise]
      exact .settled hsettled

theorem leads_assignment {e : Expr} {name : String} :
    Leads s duty goal (c.stage ps [] (.deliver u (.body (.assign e name :: rest) :: frames))) := by
  have hspread' : Spread ps (.body rest :: frames) (.body rest :: whole) held := .frame rfl hspread
  have hvalue (control : Control) : (c.machine ps [] control).value e = eval startGlobals c.vars e :=
    rfl
  refine leads_evaluated (eval startGlobals c.vars e) h hspread' hcalm rfl
    (fun thrown he => ?_) fun v hv => ?_
  · show (c.machine ps [] _).exec (.body rest :: frames) (.assign e name) = _
    simp only [exec, hvalue, he]
    rfl
  have hassigned : Onward s duty goal (c.assign name v) (.body rest :: whole) :=
    h.later (.of_eq rfl)
  refine leads_assign ?_ rfl (hassigned.undefined hspread' hcalm)
  show (c.machine ps [] _).exec (.body rest :: frames) (.assign e name) = _
  simp only [exec, hvalue, hv]
  rfl

theorem leads_allocate {count : Value} :
    Leads s duty goal (c.stage ps [] (.deliver u (.body (.allocate count :: rest) :: frames))) := by
  have hspread' : Spread ps (.body rest :: frames) (.body rest :: whole) held := .frame rfl hspread
  have hroom (control : Control) :
      (c.machine ps [] control).allocate count = (c.machine ps [] .idle).allocate count := rfl
  refine leads_evaluated ((c.machine ps [] .idle).allocate count) h hspread' hcalm rfl
    (fun e he => ?_) fun _ hallocated => ?_
  · show (c.machine ps [] _).exec (.body rest :: frames) (.allocate count) = _
    simp only [exec, hroom, he]
    rfl
  · refine leads_step ?_ rfl (h.undefined hspread' hcalm)
    show (c.machine ps [] _).exec (.body rest :: frames) (.allocate count) = _
    simp only [exec, hroom, hallocated]
    rfl

end Plain

mutual

/-- Every statement comes to its end. -/
theorem leads_statement (hduty : ∀ st, AtTest st → duty st) : (step : Step) → step.Nests →
    ∀ ⦃c ps frames whole held rest⦄ u, Onward s duty goal c (.body rest :: whole) →
      Spread ps frames whole held → Calm ps →
      Leads s duty goal (c.stage ps [] (.deliver u (.body (step :: rest) :: frames)))
  | .call _ _ _ _, hstep => fun _ _ _ _ _ _ _ h hspread hcalm => leads_call h hspread hcalm hstep
  | .test path title kind body store await, hstep => by
    intro c ps frames whole held rest u h hspread hcalm
    have hspread' : Spread ps (.body rest :: frames) (.body rest :: whole) held :=
      .frame rfl hspread
    have hat :
        AtTest (c.stage ps []
          (.deliver u (.body (.test path title kind body store await :: rest) :: frames))) :=
      .intro hstep hspread hcalm
    obtain ⟨hpath, hawait, hbody⟩ := hstep
    refine leads_open hpath (hduty _ hat) (fun e c' _ hdeeds => ?_)
      fun now inst text name _ hnames => ?_
    · have hlater := h.later (.of_eq hdeeds)
      exact leads_keep hlater hspread' hcalm (.error e) store await
    · refine leads_enter hspread' hcalm hawait fun ps' frames' held' hentered hcalm' => ?_
      exact leads_body hduty body hbody .undefined (onward_test h rfl hnames hawait) hentered hcalm'
  | .attempt body handler, hstep => by
    intro c ps frames whole held rest u h hspread hcalm
    -- Whatever the body does before it throws has been done to the scene in which the handler
    -- starts.
    have hguard : Onward s duty goal c (.guard handler :: .body rest :: whole) :=
      onward_guard h fun hadds hspread hcalm =>
        leads_body hduty handler hstep.2 .undefined (h.later hadds) hspread hcalm
    exact leads_step rfl rfl
      (leads_body hduty body hstep.1 .undefined hguard (.frame rfl (.frame rfl hspread)) hcalm)
  | .throw _, _ => fun _ _ _ _ _ _ _ h hspread hcalm => leads_throw h hspread hcalm
  | .leave _, _ => fun _ _ _ _ _ _ _ h hspread hcalm => leads_leave h hspread hcalm
  | .assign _ _, _ => fun _ _ _ _ _ _ _ h hspread hcalm => leads_assignment h hspread hcalm
  | .recurse, _ => by
    intro c ps frames whole held rest u h hspread hcalm
    exact leads_step rfl rfl (h.raises (.frame rfl hspread) hcalm _)
  | .allocate _, _ => fun _ _ _ _ _ _ _ h hspread hcalm => leads_allocate h hspread hcalm
  | .setGlobal _ _, hstep => hstep.elim
  | .never, hstep => hstep.elim
  | .spin, hstep => hstep.elim

/-- Every body comes to its end. -/
theorem leads_body (hduty : ∀ st, AtTest st → duty st) : (steps : List Step) → Step.AllNest steps →
    ∀ ⦃c ps frames whole held⦄ u, Onward s duty goal c whole →
      Spread ps frames whole held → Calm ps →
      Leads s duty goal (c.stage ps [] (.deliver u (.body steps :: frames)))
  | [], _ => by
    intro c ps frames whole held u h hspread hcalm
    exact leads_step rfl rfl (h.undefined hspread hcalm)
  | step :: rest, hsteps => by
    intro c ps frames whole held u h hspread hcalm
    refine leads_statement hduty step hsteps.1 u
      (onward_rest h fun u' hadds hspread' hcalm' => ?_) hspread hcalm
    exact leads_body hduty rest hsteps.2 u' (h.later hadds) hspread' hcalm'

end

end Bodies

/-! ## Brackets -/

/-- The scope's own body has come to its end. -/
def Stage.Over (st : Stage) : Prop :=
  ∃ outcome outside, st.machine.control = .towards outcome (.settle 0 :: outside)

/-- A script comes to the end of its own body, and what it has done to the tests is balanced. -/
theorem leads_over {s : Settings} {steps : List Step} (hsteps : Step.AllNest steps) (limit : Nat)
    (inst : Instance) :
    Leads s AtTest (fun st => st.Over ∧ ∃ records blocks, Balanced st.deeds records blocks)
      ⟨Machine.start limit steps, inst, []⟩ := by
  have hspread : Spread [.pending []] [.settle 0, .top] [.settle 0, .top] [0] := .scope rfl
  have hcalm : Calm [.pending []] := fun outcome h => by cases List.mem_singleton.mp h
  have honward : Onward s AtTest
    (fun st => st.Over ∧ ∃ records blocks, Balanced st.deeds records blocks)
      ⟨limit, [], inst, []⟩ [.settle 0, .top] := by
    have hover : ∀ {c' : Scene} {ps held frames} outcome, Scene.Adds ⟨limit, [], inst, []⟩ c' →
        Spread ps frames [.settle 0, .top] held → unwind frames = frames ∧
          (Stage.Over (c'.stage ps [] (.towards outcome frames)) ∧
            ∃ records blocks,
                Balanced (c'.stage ps [] (.towards outcome frames)).deeds records blocks) := by
      intro c' ps held frames outcome hadds hspread
      obtain ⟨inner, records, blocks, hdeeds, hbalanced⟩ := hadds
      have hdone : Balanced c'.deeds records blocks := by
        rw [hdeeds]
        exact hbalanced
      cases hspread with
      | scope _ => exact ⟨rfl, ⟨outcome, _, rfl⟩, _, _, hdone⟩
      | scopeBehind _ => exact ⟨rfl, ⟨outcome, _, rfl⟩, _, _, hdone⟩
      | frame hf _ => cases hf
    constructor
    · intro c' ps held frames outcome hadds hspread _ _
      exact .here (hover outcome hadds hspread).2
    · intro c' ps held frames v outcome hadds hspread _ _
      obtain ⟨hunwind, hgoal⟩ := hover (.ok v) hadds hspread
      rw [hunwind]
      exact .here hgoal
  exact leads_body (fun _ h => h) steps hsteps .undefined honward hspread hcalm

/-- A call of a test, with what follows it in its body and the frames outside of that. -/
structure TestCall where
  title : Expr
  kind : BodyKind
  body : List Step
  store : Option String
  await : Bool
  rest : List Step
  frames : List Frame

namespace TestCall

/-- The call comes next. -/
def Next (t : TestCall) (st : Stage) : Prop :=
  ∃ u path, st.machine.control =
    .deliver u (.body (.test path t.title t.kind t.body t.store t.await :: t.rest) :: t.frames)

/-- The call has thrown and done nothing, because its title gives no name. -/
structure Refused (t : TestCall) (st st' : Stage) : Prop where
  nameless : ∀ name, ¬ st.machine.Titles t.title name
  throws : ∃ e, st'.machine.control = .raise e (.keep t.store t.await :: .body t.rest :: t.frames)
  deeds : st'.deeds = st.deeds
  tests : st'.inst.tests = st.inst.tests

/-- The body has come to its end: a plain one in front of its block, an asynchronous one at its own
promise. -/
def AtEnd (t : TestCall) (st st' : Stage) (ended : Except Value Value) : Prop :=
  match t.kind with
  | .plain => ∃ name frames, own frames = own t.frames ∧
      st'.machine.control =
        .towards ended (.close name :: .keep t.store t.await :: .body t.rest :: frames)
  | .async =>
    ∃ outside, st'.machine.control = .towards ended (.settle st.machine.promises.length :: outside)

/-- The outcome of the call has come to what follows it, in the function that made the call. -/
def Exited (t : TestCall) (st' : Stage) (outcome : Except Value Value) : Prop :=
  ∃ await frames, own frames = own t.frames ∧
    st'.machine.control = .towards outcome (.keep t.store await :: .body t.rest :: frames)

/-- The block by the name has been opened, and the body has come to its end with what is its own. -/
structure Ended (t : TestCall) (st st' : Stage) (name : String) (openedAt : Time)
    (records : List Assertion) (blocks : List TestBlock) (outcome : Except Value Value) : Prop where
  titled : st.machine.Titles t.title name
  yields : ∃ ended, t.AtEnd st st' ended ∧ Yields st'.machine.promises ended outcome
  inside : ∃ inner, Balanced inner records blocks ∧ st'.deeds =
    st.deeds ++ .openBlock openedAt name :: inner

/-- The call is over: it gives the outcome, and a closed block has come to the innermost block that
was open, or to the top; the open blocks and the remarks are as they were. -/
structure Closed (t : TestCall) (st st' : Stage) (block : TestBlock)
    (outcome : Except Value Value) : Prop where
  exited : t.Exited st' outcome
  gained : ∃ skips, st'.inst.tests = st.inst.tests.gain [] [block] skips
  openNames : st'.inst.tests.openNames = st.inst.tests.openNames
  diagnostics : st'.inst.tests.diagnostics = st.inst.tests.diagnostics

/-- The call is refused; or its body comes to an end, and then the call does, with a block that
holds what is the body's own, and with what the body yields. -/
def Brackets (s : Settings) (t : TestCall) (st : Stage) : Prop :=
  Leads s (fun _ => True) (fun st₁ => t.Refused st st₁ ∨
    ∃ name openedAt records blocks outcome, t.Ended st st₁ name openedAt records blocks outcome ∧
      Leads s (fun _ => True) (fun st₂ => ∃ closedAt,
        t.Closed st st₂ (.closed name openedAt closedAt records blocks) outcome) st₁) st

theorem atEnd_of_spread (t : TestCall) {c c' : Scene} {ps ps' : List PromiseState}
    {control : Control} {name : Value}
    {frames whole : List Frame} {held held' : List Nat} (hcaller : Spread ps t.frames whole held)
    (h : Spread ps' frames (bodyEnd t.kind ps.length name t.store t.await (.body t.rest :: whole))
      held')
    (ended : Except Value Value) :
    t.AtEnd (c.stage ps [] control) (c'.stage ps' [] (.towards ended frames)) ended := by
  obtain ⟨title, kind, body, store, await, rest, outside⟩ := t
  cases kind with
  | plain =>
    cases h with
    | frame _ h =>
      cases h with
      | frame _ h =>
        cases h with
        | frame _ h => exact ⟨name, _, h.own_eq.trans hcaller.own_eq.symm, rfl⟩
  | async =>
    cases h with
    | frame hf _ => cases hf
    | body _ _ _ => exact ⟨_, rfl⟩
    | bodyBehind _ _ _ _ _ _ => exact ⟨_, rfl⟩

theorem exited_of_spread (t : TestCall) {c' : Scene} {ps ps' : List PromiseState} {await : Bool}
    {frames whole : List Frame} {held held' : List Nat} (hcaller : Spread ps t.frames whole held)
    (h : Spread ps' frames (.body t.rest :: whole) held') (outcome : Except Value Value) :
    t.Exited (c'.stage ps' [] (.towards outcome (.keep t.store await :: frames))) outcome := by
  cases h with
  | frame _ h => exact ⟨await, _, h.own_eq.trans hcaller.own_eq.symm, rfl⟩

/-- Between the calls of a test that is about to be run, with all else in order, nothing is amiss:
the call is refused, or the body and the call come to their ends, with one more closing among the
deeds. -/
theorem leads_of_atTest {t : TestCall} {s : Settings} {st : Stage} (hat : AtTest st)
    (hnext : t.Next st) :
    Leads s (fun _ => True) (fun st₁ =>
      ((∀ name, ¬ st.machine.Titles t.title name) ∧ st₁.deeds = st.deeds ∧
        ∃ e, st₁.machine.control = .raise e (.keep t.store t.await :: .body t.rest :: t.frames)) ∨
      ∃ name openedAt records blocks outcome, t.Ended st st₁ name openedAt records blocks outcome ∧
        Leads s (fun _ => True) (fun st₂ => t.Exited st₂ outcome ∧
          ∃ closedAt, st₂.deeds = st₁.deeds ++ [.closeBlock closedAt name]) st₁) st := by
  cases hat with
  | @intro c ps u path title kind body rest store await frames whole held hstep hspread hcalm =>
  obtain ⟨hpath, hawait, hbody⟩ := hstep
  obtain ⟨u', path', hcontrol⟩ := hnext
  have ht : t = ⟨title, kind, body, store, await, rest, frames⟩ := by
    obtain ⟨title', kind', body', store', await', rest', frames'⟩ := t
    cases show Control.deliver _ _ = Control.deliver _ _ from hcontrol
    rfl
  subst ht
  have hspread' : Spread ps (.body rest :: frames) (.body rest :: whole) held := .frame rfl hspread
  refine leads_open hpath trivial (fun e c' hnone hdeeds => .here (.inl ⟨hnone, hdeeds, e, rfl⟩))
    fun now inst text name htitles hnames => ?_
  refine leads_enter hspread' hcalm hawait fun ps' frames' held' hentered hcalm' => ?_
  refine leads_body (fun _ _ => trivial) body hbody .undefined (onward_of_end ?_) hentered hcalm'
  intro c' ps₁ frames₁ held₁ ended outcome hadds hspread₁ hcalm₁ hyields
  obtain ⟨inner, records, blocks, hdeeds, hbalanced⟩ := hadds
  have hinside : c'.deeds = c.deeds ++ .openBlock now name :: inner := by
    rw [hdeeds]
    exact List.append_assoc _ _ _
  refine .here
    (.inr ⟨name, now, records, blocks, outcome, ⟨htitles, ?_, inner, hbalanced, hinside⟩, ?_⟩)
  · exact ⟨ended, atEnd_of_spread _ hspread hspread₁ ended, hyields⟩
  · refine leads_close hnames hawait hspread₁ hcalm₁ hyields
      fun closedAt inst' ps₂ frames₂ held₂ await₂ hspread₂ hcalm₂ => .here ⟨?_, closedAt, rfl⟩
    exact exited_of_spread ⟨title, kind, body, store, await, rest, frames⟩ hspread hspread₂ outcome

/-- A test that is about to be run, with all else in order, is bracketed. -/
theorem brackets_of_atTest {t : TestCall} {s : Settings} {st : Stage} (hat : AtTest st)
    (hnext : t.Next st) :
    t.Brackets s st := by
  refine (leads_of_atTest hat hnext).gaining.bind fun st₁ hst₁ => ?_
  obtain ⟨⟨hnone, hdeeds, hthrows⟩ | ⟨name, openedAt, records, blocks, outcome, hended, hexits⟩,
    hgains⟩ := hst₁
  · obtain ⟨added, hadded, htests⟩ := hgains
    have hnothing : added = [] := by
      rw [hdeeds] at hadded
      exact List.self_eq_append_right.mp hadded
    rw [hnothing] at htests
    exact .here (.inl ⟨hnone, hthrows, hdeeds, htests⟩)
  · refine .here (.inr ⟨name, openedAt, records, blocks, outcome, hended, ?_⟩)
    refine hexits.gaining.bind fun st₂ hst₂ => ?_
    obtain ⟨⟨hexited, closedAt, hclosed⟩, hgains₂⟩ := hst₂
    obtain ⟨inner, hbalanced, hinside⟩ := hended.inside
    -- What has been done since the call is all in the deeds, and these are one block.
    obtain ⟨added, hadded, htests⟩ := hgains.trans hgains₂
    have hblock : added = .openBlock openedAt name :: inner ++ [.closeBlock closedAt name] := by
      rw [hclosed, hinside, List.append_assoc] at hadded
      exact (List.append_cancel_left hadded).symm
    rw [hblock, Aggregator.run_bracketed hbalanced] at htests
    refine .here ⟨closedAt, hexited, ⟨_, htests⟩, ?_, ?_⟩
    · rw [htests]
      exact (Aggregator.gain_keeps _).1
    · rw [htests]
      exact (Aggregator.gain_keeps _).2

end TestCall

/-- Every call of a test that a script comes to, before it strays and before its own body has come
to its end, is refused or brackets its body. -/
theorem every_test_brackets {s : Settings} {limit : Nat} {steps : List Step} {inst : Instance}
    {st : Stage} {t : TestCall} (hsteps : Step.AllNest steps)
    (hreach : Reaches s Stage.Over ⟨Machine.start limit steps, inst, []⟩ st) (hnext : t.Next st) :
    t.Brackets s st := by
  have hleads : Leads s AtTest Stage.Over ⟨Machine.start limit steps, inst, []⟩ :=
    (leads_over hsteps limit inst).bind fun _ h => .here h.1
  obtain ⟨u, path, hcontrol⟩ := id hnext
  -- A stage at which a test is called is neither an end nor astray, so there the duty is met.
  cases hleads.met hreach with
  | here hover =>
    obtain ⟨outcome, outside, hend⟩ := hover
    rw [hcontrol] at hend
    cases outcome <;> cases hend
  | off hstrays =>
    cases hstrays with
    | interrupted hraise _ =>
      rw [hcontrol] at hraise
      cases hraise
    | unsettled hleave _ _ _ =>
      rw [hcontrol] at hleave
      cases hleave
    | unawaited hclose _ =>
      rw [hcontrol] at hclose
      cases hclose
  | on hduty _ _ =>
    have hcalls : st.machine.control.callsTest = true := by
      rw [hcontrol]
      rfl
    exact TestCall.brackets_of_atTest (hduty hcalls) hnext

/-- The path of the function that runs a body as a test. -/
def testPath : List Text16 := [.ofString "host", .ofString "test"]

/-- A test inside of an asynchronous one, with a body that throws. -/
def nestedTests : List Step :=
  [.test testPath (.value (.text "outer")) .async
    [.test testPath (.value (.text "inner")) .plain [.throw (.value (.text "no"))] none false]
      none true]

/-- The stage at which the inner test is called. -/
def insideOuter : Stage :=
  ⟨⟨1000, [], startGlobals, [.pending [], .pending []], [],
      .deliver .undefined
        [.body [.test testPath (.value (.text "inner"))
        .plain [.throw (.value (.text "no"))] none false],
        .settle 1, .close (.text "outer"), .keep none true, .body [], .settle 0, .top]⟩,
    { (default : Instance) with
      tests := (default : Instance).tests.openBlock (default : Settings).now "outer" },
    [.openBlock (default : Settings).now "outer"]⟩

theorem every_test_brackets_inside :
    Step.AllNest nestedTests ∧
      Reaches default Stage.Over ⟨Machine.start 1000 nestedTests, default, []⟩ insideOuter ∧
      ∃ t : TestCall, t.Next insideOuter ∧ t.Brackets default insideOuter := by
  have hpath : ∃ this, startGlobals.resolve testPath =
    .ok (this, .function (.host .test)) := ⟨_, rfl⟩
  have hsteps : Step.AllNest nestedTests :=
    ⟨⟨hpath, fun _ => rfl, ⟨hpath, nofun, trivial, trivial⟩, trivial⟩, trivial⟩
  have hnames : Names (Value.argumentText [.string (.ofString "outer")]) "outer" :=
    names_iff.mpr (by decide)
  have hreach : Reaches default Stage.Over ⟨Machine.start 1000 nestedTests, default, []⟩
      insideOuter := by
    refine .next (.next .refl ?_ ?_ (next_open rfl hnames)) ?_ ?_ (.turn rfl)
    · rintro ⟨outcome, outside, hover⟩
      cases outcome <;> cases hover
    · rintro (⟨hcontrol, _⟩ | ⟨hcontrol, _, _, _⟩ | ⟨hcontrol, _⟩) <;> cases hcontrol
    · rintro ⟨outcome, outside, hover⟩
      cases outcome <;> cases hover
    · rintro (⟨hcontrol, _⟩ | ⟨hcontrol, _, _, _⟩ | ⟨hcontrol, _⟩) <;> cases hcontrol
  have hnext : TestCall.Next
      ⟨.value (.text "inner"), .plain, [.throw (.value (.text "no"))], none, false, [],
        [.settle 1, .close (.text "outer"), .keep none true, .body [], .settle 0, .top]⟩
      insideOuter := ⟨_, _, rfl⟩
  exact ⟨hsteps, hreach, _, hnext, every_test_brackets hsteps hreach hnext⟩

/-- A test whose title is half of a surrogate pair. -/
def namelessTest : List Step := [.test testPath (.value (.string ⟨[0xD800]⟩)) .plain [] none false]

/-- A test whose plain body is left with an object that has a `then`. -/
def thenableTest : List Step :=
  [.test testPath (.value (.text "t")) .plain [.leave (.value .thenable)] none false]

/-- Two tests are over without a closed block: one was refused, and the other has left its block
open. -/
theorem tests_over_without_block :
    (∃ st e, Relation.ReflTransGen (Stage.Next default)
      ⟨Machine.start 1000 namelessTest, default, []⟩ st ∧
      st.machine.control = .raise e [.keep none false, .body [], .settle 0, .top] ∧
      st.inst.tests.closed = [] ∧ st.inst.tests.stack = []) ∧
    ∃ st v, Relation.ReflTransGen (Stage.Next default)
      ⟨Machine.start 1000 thenableTest, default, []⟩ st ∧
      st.machine.control = .deliver v [.keep none false, .body [], .settle 0, .top] ∧
      st.inst.tests.closed = [] ∧ st.inst.tests.openNames = ["t"] := by
  constructor
  · obtain ⟨fault, hfault⟩ := parse_lone (t := ⟨[0xD800]⟩) (by decide)
    obtain ⟨e, hread⟩ : ∃ e,
        Host.readCall "open_test" (Value.argumentText [.string ⟨[0xD800]⟩]) = .error e := by
      rw [Host.readCall, Host.readArguments, hfault]
      exact ⟨_, rfl⟩
    have hcall : Host.call default false ⟨default, default⟩ "open_test"
      (Value.argumentText [.string ⟨[0xD800]⟩]) =
        (⟨default, default⟩, .answered (.error e)) := Host.call_unread hread
    have hasked : Stage.Next default ⟨Machine.start 1000 namelessTest, default, []⟩ _ :=
      .call default rfl (.atOnce hcall)
    have hrun := (Relation.ReflTransGen.single hasked).tail (.turn rfl)
    exact ⟨_, .ofHostError e, hrun, rfl, rfl, rfl⟩
  · have hnames : Names (Value.argumentText [.string (.ofString "t")]) "t" :=
      names_iff.mpr (by decide)
    have hopened : Stage.Next default ⟨Machine.start 1000 thenableTest, default, []⟩ _ :=
      next_open rfl hnames
    have hrun :=
      (((Relation.ReflTransGen.single hopened).tail (.turn rfl)).tail (.turn rfl)).tail (.turn rfl)
    exact ⟨_, .promise 2, hrun, rfl, rfl, rfl⟩

end ScriptBench
