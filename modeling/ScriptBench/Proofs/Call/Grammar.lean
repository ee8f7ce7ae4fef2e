import ScriptBench.Proofs.Call.Arguments

/-!
Which names and arguments are calls.

Every operation has a signature: what it wants in each place (`Operation.signature`). A call carries
its arguments in the order of that signature (`Call.given`).

`calls_follow_signatures`: a name and its arguments are the call that has this name and carries what
the arguments denote, place by place. There is one if and only if there are as many arguments as the
operation takes and each fits its place. Everything else is refused: an unknown name for being
unknown, whatever the arguments; else the arguments, for not being an array, for their number, or
for the first of them that does not fit (`Operation.Refuses`).

`Call.parseByPlace` looks every argument up in its place and has no outcome where it looks in a
place that holds none; that it agrees with `Call.parse` says that this never happens.
-/
namespace ScriptBench

/-- What an operation wants of its arguments, place by place. -/
def Operation.signature : Operation → List Argument.Kind
  | .getTestcase | .response | .testSkip => []
  | .waitShared | .log | .warn | .error | .getEnv | .getShared
  | .openTest | .closeTest | .nlpTags => [.text]
  | .sleep => [.count]
  | .httpFetch => [.request]
  | .setEnv | .addHeader | .addParams | .nlpSimilarity => [.text, .text]
  | .setShared => [.text, .any]
  | .appendAssert => [.boolean, .text]
  | .assert | .equal => [.any, .any]
  | .nlpKeywords => [.text, .count]
  | .nlpTagFilter => [.text, .texts]
  | .assertNlp => [.text, .text, .number]

namespace Operation

theorem length_signature (op : Operation) : op.signature.length = op.arity := by cases op <;> rfl

theorem ofName?_name (op : Operation) : ofName? op.name = some op := by cases op <;> rfl

theorem ofName?_eq_none {name : String} (h : ∀ op : Operation, op.name ≠ name) :
    ofName? name = none :=
  List.find?_eq_none.mpr fun op _ => by simpa using h op

/-- Why the arguments of an operation are refused: they are no array, there are not as many as it
takes, or one does not fit its place and those before it do. -/
inductive Refuses (op : Operation) : Json → String → Prop
  | notArray {args : Json} (h : ∀ values, args ≠ .arr values) :
    op.Refuses args ArgumentFault.notArray.message
  | wrongCount {values : List Json} (h : values.length ≠ op.arity) :
    op.Refuses (.arr values) (ArgumentFault.wrongCount op.arity values.length).message
  | unfit {values : List Json} {place : Nat} {k : Argument.Kind} {v : Json} {fault : ArgumentFault}
    (hcount : values.length = op.arity) (hfirst : Argument.FirstUnfit op.signature values place k v)
    (hfault : k.Complains place v fault) : op.Refuses (.arr values) fault.message

end Operation

namespace Call

open Argument

/-- The arguments a call carries, in order. -/
def given : Call → List Given
  | .sleep ms => [.count ms]
  | .httpFetch request => [.request request]
  | .waitShared key | .getEnv key | .getShared key => [.text key]
  | .log _ message => [.text message]
  | .getTestcase | .response | .testSkip => []
  | .setEnv key value => [.text key, .text value]
  | .addHeader name value | .addParams name value => [.text name, .text value]
  | .setShared key value => [.text key, .any value]
  | .openTest name | .closeTest name => [.text name]
  | .appendAssert passed message => [.boolean passed, .text message]
  | .assert expect actual => [.any expect, .any actual]
  | .assertNlp expect actual threshold => [.text expect, .text actual, .number threshold]
  | .equal a b => [.any a, .any b]
  | .nlpKeywords text k => [.text text, .count k]
  | .nlpTags text => [.text text]
  | .nlpTagFilter text tags => [.text text, .texts tags]
  | .nlpSimilarity a b => [.text a, .text b]

theorem kind_given (c : Call) : c.given.map Given.kind = c.operation.signature := by
  cases c with
  | log level message => cases level <;> rfl
  | _ => rfl

theorem eq_of_given {c c' : Call} (hop : c.operation = c'.operation) (hgiven : c.given = c'.given) :
    c = c' := by
  -- the level of a log line is part of the operation
  cases c <;> try cases ‹LogLevel›
  all_goals cases c' <;> (try cases ‹LogLevel›) <;> simp_all [operation, given]

/-- Reading the arguments of an operation gives its call with what they denote, or the first that
does not fit. -/
theorem ofArguments_given (op : Operation) (values : List Json) (h : values.length = op.arity) :
    (ofArguments op values).map (fun c => (c.operation, c.given)) =
      (readAll 0 op.signature values).map fun gs => (op, gs) := by
  cases op with
  | getTestcase | response | testSkip =>
    obtain rfl := List.length_eq_zero_iff.mp h
    rfl
  | sleep =>
    obtain ⟨a, rfl⟩ := List.length_eq_one_iff.mp h
    simp only [ofArguments, Operation.signature, readAll, Kind.read]
    cases Argument.count 0 a <;> rfl
  | httpFetch =>
    obtain ⟨a, rfl⟩ := List.length_eq_one_iff.mp h
    simp only [ofArguments, Operation.signature, readAll, Kind.read]
    cases Argument.request 0 a <;> rfl
  | waitShared | log | warn | error | getEnv | getShared | openTest | closeTest | nlpTags =>
    obtain ⟨a, rfl⟩ := List.length_eq_one_iff.mp h
    simp only [ofArguments, Operation.signature, readAll, Kind.read]
    cases string 0 a <;> rfl
  | setEnv | addHeader | addParams | nlpSimilarity =>
    obtain ⟨a, b, rfl⟩ := List.length_eq_two.mp h
    simp only [ofArguments, Operation.signature, readAll, Kind.read]
    cases string 0 a <;> cases string 1 b <;> rfl
  | setShared =>
    obtain ⟨a, b, rfl⟩ := List.length_eq_two.mp h
    simp only [ofArguments, Operation.signature, readAll, Kind.read]
    cases string 0 a <;> rfl
  | appendAssert =>
    obtain ⟨a, b, rfl⟩ := List.length_eq_two.mp h
    simp only [ofArguments, Operation.signature, readAll, Kind.read]
    cases boolean 0 a <;> cases string 1 b <;> rfl
  | assert | equal =>
    obtain ⟨a, b, rfl⟩ := List.length_eq_two.mp h
    rfl
  | nlpKeywords =>
    obtain ⟨a, b, rfl⟩ := List.length_eq_two.mp h
    simp only [ofArguments, Operation.signature, readAll, Kind.read]
    cases string 0 a <;> cases Argument.count 1 b <;> rfl
  | nlpTagFilter =>
    obtain ⟨a, b, rfl⟩ := List.length_eq_two.mp h
    simp only [ofArguments, Operation.signature, readAll, Kind.read]
    cases string 0 a <;> cases strings 1 b <;> rfl
  | assertNlp =>
    obtain ⟨a, b, c, rfl⟩ := List.length_eq_three.mp h
    simp only [ofArguments, Operation.signature, readAll, Kind.read]
    cases string 0 a <;> cases string 1 b <;> cases number 2 c <;> rfl

theorem ofArguments_count (op : Operation) (values : List Json) (h : values.length ≠ op.arity) :
    ofArguments op values = .error (.wrongCount op.arity values.length) := by
  unfold ofArguments
  split <;> first | rfl | exact absurd rfl h

theorem exists_ofArguments {op : Operation} {values : List Json} {gs : List Given}
    (hlength : values.length = op.arity) (h : readAll 0 op.signature values = .ok gs) :
    ∃ c, ofArguments op values = .ok c ∧ c.operation = op ∧ c.given = gs := by
  have hmap := ofArguments_given op values hlength
  rw [h] at hmap
  obtain ⟨c, hc, hpair⟩ := map_eq_ok_iff.mp hmap
  exact ⟨c, hc, congrArg Prod.fst hpair, congrArg Prod.snd hpair⟩

theorem ofArguments_ok_iff {op : Operation} {values : List Json} {c : Call} :
    ofArguments op values = .ok c ↔ c.operation = op ∧ List.Forall₂ Denotes values c.given := by
  constructor
  · intro h
    by_cases hlength : values.length = op.arity
    · have hmap := ofArguments_given op values hlength
      rw [h] at hmap
      obtain ⟨gs, hgs, hpair⟩ := map_eq_ok_iff.mp hmap.symm
      obtain ⟨rfl, rfl⟩ := Prod.mk.inj hpair
      exact ⟨rfl, ((readAll_ok_iff (hlength.trans (Operation.length_signature _).symm)).mp hgs).1⟩
    · rw [ofArguments_count op values hlength] at h
      cases h
  · rintro ⟨rfl, hdenotes⟩
    have hlength : values.length = c.operation.signature.length := by
      rw [← kind_given c, List.length_map, hdenotes.length_eq]
    have hread : readAll 0 c.operation.signature values = .ok c.given :=
      (readAll_ok_iff hlength).mpr ⟨hdenotes, kind_given c⟩
    obtain ⟨c', hc', hop, hgiven⟩ :=
      exists_ofArguments (hlength.trans (Operation.length_signature _)) hread
    rw [hc', eq_of_given hop hgiven]

theorem exists_ofArguments_iff {op : Operation} {values : List Json} :
    (∃ c, ofArguments op values = .ok c) ↔ List.Forall₂ Kind.Fits op.signature values := by
  constructor
  · rintro ⟨c, hc⟩
    obtain ⟨rfl, hdenotes⟩ := ofArguments_ok_iff.mp hc
    exact forall₂_fits_iff.mpr ⟨c.given, hdenotes, kind_given c⟩
  · intro hfits
    obtain ⟨gs, hdenotes, hkinds⟩ := forall₂_fits_iff.mp hfits
    have hlength : values.length = op.signature.length := hfits.length_eq.symm
    have hread : readAll 0 op.signature values = .ok gs :=
      (readAll_ok_iff hlength).mpr ⟨hdenotes, hkinds⟩
    obtain ⟨c, hc, -⟩ := exists_ofArguments (hlength.trans op.length_signature) hread
    exact ⟨c, hc⟩

/-- Arguments are refused for their number or for the first that does not fit. -/
theorem refuses_of_ofArguments {op : Operation} {values : List Json} {fault : ArgumentFault}
    (h : ofArguments op values = .error fault) : op.Refuses (.arr values) fault.message := by
  by_cases hlength : values.length = op.arity
  · have hmap := ofArguments_given op values hlength
    rw [h] at hmap
    have hread : readAll 0 op.signature values = .error fault := map_eq_error_iff.mp hmap.symm
    obtain ⟨place, k, v, hfirst, hfault⟩ := readAll_error hread
    rw [Nat.zero_add] at hfault
    exact .unfit hlength hfirst hfault
  · obtain rfl : .wrongCount op.arity values.length = fault := by
      simpa [ofArguments_count op values hlength] using h
    exact .wrongCount hlength

/-! ## Reading a name and its arguments -/

theorem parse_name (op : Operation) (values : List Json) :
    parse op.name (.arr values) =
      (ofArguments op values).mapError fun fault => .invalidArgument op.name fault.message := by
  simp only [parse, op.ofName?_name]

theorem parse_unknown {name : String} (h : ∀ op : Operation, op.name ≠ name) (args : Json) :
    parse name args = .error (.unknownOperation name) := by
  simp only [parse, Operation.ofName?_eq_none h]

theorem parse_error {op : Operation} {args : Json} {e : HostError}
    (h : parse op.name args = .error e) :
    ∃ reason, e = .invalidArgument op.name reason ∧ op.Refuses args reason := by
  cases args with
  | arr values =>
    rw [parse_name] at h
    cases hargs : ofArguments op values with
    | error fault =>
      obtain rfl : .invalidArgument op.name fault.message = e := by
        simpa [hargs, Except.mapError] using h
      exact ⟨_, rfl, refuses_of_ofArguments hargs⟩
    | ok c => simp [hargs, Except.mapError] at h
  | _ =>
    simp only [parse, op.ofName?_name, Except.mapError, Except.error.injEq] at h
    exact ⟨_, h.symm, .notArray nofun⟩

/-- What is read is the call of this name that carries what the arguments denote. -/
theorem parse_ok_iff {name : String} {args : Json} {c : Call} :
    parse name args = .ok c ↔
      c.operation.name = name ∧ ∃ values, args = .arr values ∧
        List.Forall₂ Denotes values c.given := by
  constructor
  · intro h
    by_cases hname : ∃ op : Operation, op.name = name
    · obtain ⟨op, rfl⟩ := hname
      cases args with
      | arr values =>
        rw [parse_name] at h
        cases hargs : ofArguments op values with
        | error fault => simp [hargs, Except.mapError] at h
        | ok c' =>
          obtain rfl : c' = c := by simpa [hargs, Except.mapError] using h
          obtain ⟨rfl, hdenotes⟩ := ofArguments_ok_iff.mp hargs
          exact ⟨rfl, values, rfl, hdenotes⟩
      | _ => simp [parse, op.ofName?_name, Except.mapError] at h
    · rw [parse_unknown (by simpa using hname)] at h
      cases h
  · rintro ⟨rfl, values, rfl, hdenotes⟩
    rw [parse_name, ofArguments_ok_iff.mpr ⟨rfl, hdenotes⟩]
    rfl

/-- There is a call of a name and its arguments if they fit the signature of an operation of this
name. -/
theorem exists_parse_iff {name : String} {args : Json} :
    (∃ c, parse name args = .ok c) ↔
      ∃ op : Operation, ∃ values, op.name = name ∧ args = .arr values ∧ values.length = op.arity ∧
        List.Forall₂ Kind.Fits op.signature values := by
  constructor
  · rintro ⟨c, hc⟩
    obtain ⟨hname, values, rfl, hdenotes⟩ := parse_ok_iff.mp hc
    have hfits : List.Forall₂ Kind.Fits c.operation.signature values :=
      forall₂_fits_iff.mpr ⟨c.given, hdenotes, kind_given c⟩
    have hlength : values.length = c.operation.arity :=
      hfits.length_eq.symm.trans c.operation.length_signature
    exact ⟨c.operation, values, hname, rfl, hlength, hfits⟩
  · rintro ⟨op, values, rfl, rfl, -, hfits⟩
    obtain ⟨c, hc⟩ := exists_ofArguments_iff.mpr hfits
    refine ⟨c, ?_⟩
    rw [parse_name, hc]
    rfl

/-! ## Reading by places -/

/-- Reads arguments by their places; there is no outcome where a place is read that holds none. -/
abbrev ByPlace := ReaderT (List Json) (ExceptT ArgumentFault Option)

namespace ByPlace

def outcome {α : Type} (m : ByPlace α) (values : List Json) : Option (Except ArgumentFault α) :=
  (m.run values).run

/-- The argument of a place, read by a function. -/
def arg {α : Type} (place : Nat) (read : Nat → Json → Except ArgumentFault α) : ByPlace α :=
  .mk fun values => .mk (values[place]?.map (read place))

theorem outcome_arg_bind {α β : Type} {place : Nat} {read : Nat → Json → Except ArgumentFault α}
    {next : α → ByPlace β} {later : α → Except ArgumentFault β} {values : List Json} {v : Json}
    (hv : values[place]? = some v) (hnext : ∀ x, (next x).outcome values = some (later x)) :
    (arg place read >>= next).outcome values = some (read place v >>= later) := by
  have hbind : (arg place read >>= next).outcome values =
      (values[place]?.map (read place)).bind (ExceptT.bindCont fun x => (next x).run values) := rfl
  rw [hbind, hv, Option.map_some, Option.bind_some]
  cases read place v with
  | ok x => exact hnext x
  | error fault => rfl

end ByPlace

open ByPlace in
/-- The call of an operation, its arguments read one after the other. -/
def ofPlaces : Operation → ByPlace Call
  | .sleep => return .sleep (← arg 0 count)
  | .httpFetch => return .httpFetch (← arg 0 request)
  | .waitShared => return .waitShared (← arg 0 string)
  | .log => return .log .info (← arg 0 string)
  | .warn => return .log .warn (← arg 0 string)
  | .error => return .log .error (← arg 0 string)
  | .getTestcase => return .getTestcase
  | .response => return .response
  | .setEnv => return .setEnv (← arg 0 string) (← arg 1 string)
  | .getEnv => return .getEnv (← arg 0 string)
  | .addHeader => return .addHeader (← arg 0 string) (← arg 1 string)
  | .addParams => return .addParams (← arg 0 string) (← arg 1 string)
  | .setShared => return .setShared (← arg 0 string) (← arg 1 untyped)
  | .getShared => return .getShared (← arg 0 string)
  | .openTest => return .openTest (← arg 0 string)
  | .closeTest => return .closeTest (← arg 0 string)
  | .appendAssert => return .appendAssert (← arg 0 boolean) (← arg 1 string)
  | .testSkip => return .testSkip
  | .assert => return .assert (← arg 0 untyped) (← arg 1 untyped)
  | .assertNlp => return .assertNlp (← arg 0 string) (← arg 1 string) (← arg 2 number)
  | .equal => return .equal (← arg 0 untyped) (← arg 1 untyped)
  | .nlpKeywords => return .nlpKeywords (← arg 0 string) (← arg 1 count)
  | .nlpTags => return .nlpTags (← arg 0 string)
  | .nlpTagFilter => return .nlpTagFilter (← arg 0 string) (← arg 1 strings)
  | .nlpSimilarity => return .nlpSimilarity (← arg 0 string) (← arg 1 string)

/-- The call a name and its arguments stand for, each argument looked up in its place. -/
def parseByPlace (name : String) (args : Json) : Option (Except HostError Call) :=
  match Operation.ofName? name with
  | none => some (.error (.unknownOperation name))
  | some op =>
    let call :=
      match args with
      | .arr values =>
        if values.length = op.arity then (ofPlaces op).outcome values
        else some (.error (.wrongCount op.arity values.length))
      | _ => some (.error .notArray)
    call.map (·.mapError fun fault => .invalidArgument op.name fault.message)

open ByPlace in
/-- With as many arguments as the operation takes, every place that is read holds one. -/
theorem outcome_ofPlaces (op : Operation) (values : List Json) (h : values.length = op.arity) :
    (ofPlaces op).outcome values = some (ofArguments op values) := by
  cases op with
  | getTestcase | response | testSkip =>
    obtain rfl := List.length_eq_zero_iff.mp h
    rfl
  | sleep | httpFetch | waitShared | log | warn | error | getEnv | getShared | openTest | closeTest
  | nlpTags =>
    obtain ⟨a, rfl⟩ := List.length_eq_one_iff.mp h
    exact outcome_arg_bind rfl fun _ => rfl
  | setEnv | addHeader | addParams | appendAssert | nlpKeywords | nlpTagFilter | nlpSimilarity =>
    obtain ⟨a, b, rfl⟩ := List.length_eq_two.mp h
    exact outcome_arg_bind rfl fun _ => outcome_arg_bind rfl fun _ => rfl
  | setShared =>
    obtain ⟨a, b, rfl⟩ := List.length_eq_two.mp h
    exact outcome_arg_bind rfl fun _ => rfl
  | assert | equal =>
    obtain ⟨a, b, rfl⟩ := List.length_eq_two.mp h
    rfl
  | assertNlp =>
    obtain ⟨a, b, c, rfl⟩ := List.length_eq_three.mp h
    exact outcome_arg_bind rfl fun _ => outcome_arg_bind rfl fun _ =>
      outcome_arg_bind rfl fun _ => rfl

/-- No argument is looked for in a place where there is none. -/
theorem parseByPlace_eq (name : String) (args : Json) :
    parseByPlace name args = some (parse name args) := by
  unfold parseByPlace parse
  cases Operation.ofName? name with
  | none => rfl
  | some op =>
    cases args with
    | arr values =>
      by_cases h : values.length = op.arity
      · simp only [h, if_true, outcome_ofPlaces op values h, Option.map_some]
      · simp only [h, if_false, ofArguments_count op values h, Option.map_some]
    | _ => rfl

end Call

open Argument in
/-- A name and its arguments are read as calls are written: by signature. -/
theorem calls_follow_signatures (name : String) (args : Json) :
    ((∃ call, Call.parse name args = .ok call) ↔
      ∃ op : Operation, ∃ values, op.name = name ∧ args = .arr values ∧ values.length = op.arity ∧
        List.Forall₂ Kind.Fits op.signature values) ∧
    (∀ call, Call.parse name args = .ok call ↔
      call.operation.name = name ∧
        ∃ values, args = .arr values ∧ List.Forall₂ Denotes values call.given) ∧
    ((∀ op : Operation, op.name ≠ name) → Call.parse name args = .error (.unknownOperation name)) ∧
    (∀ op : Operation, op.name = name → ∀ e, Call.parse name args = .error e →
      ∃ reason, e = .invalidArgument name reason ∧ op.Refuses args reason) ∧
    Call.parseByPlace name args = some (Call.parse name args) := by
  refine ⟨Call.exists_parse_iff, fun _ => Call.parse_ok_iff, fun h => Call.parse_unknown h args, ?_,
    Call.parseByPlace_eq name args⟩
  rintro op rfl e he
  exact Call.parse_error he

end ScriptBench
