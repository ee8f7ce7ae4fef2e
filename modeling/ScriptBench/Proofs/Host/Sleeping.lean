import ScriptBench.Proofs.Call.Grammar
import ScriptBench.Proofs.Json.Canonical
import ScriptBench.Run.Execution

/-!
How long a call of `sleep` takes.

Numbers are compared exactly, in units of the smallest double (`Json.units?`).

1. The argument is taken as its whole part, and one below zero is refused (`count_of_units`,
   `count_of_negative`).
2. So a sleep takes the whole part of its argument if that is within the limit, and is refused if it
   is beyond (`Host.call_sleep_units`).
3. A number within the limit is accepted and never outslept, a number beyond the limit by one or
   more is refused; one that is beyond it by less than one is shortened to the limit
   (`sleep_takes_whole_part`, `fraction_beyond_limit_sleeps`).
-/
namespace ScriptBench

open Binary64 (unitsPerOne)
open Argument (maxCount)

/-- The value of a number, in units of the smallest double. -/
def Json.units? : Json → Option Int
  | .int n => some (n * unitsPerOne)
  | .float x => x.signedUnits?
  | _ => none

theorem unitsPerOne_pos : 0 < unitsPerOne := by
  decide +kernel

/-! ## The whole part of a number -/

/-- How many milliseconds are slept for a number that is not negative. -/
def wholePart (units : Nat) : Nat := min (units / unitsPerOne) maxCount

variable {units limit : Nat}

theorem wholePart_mul_le (units : Nat) : wholePart units * unitsPerOne ≤ units :=
  Nat.le_trans (Nat.mul_le_mul_right _ (Nat.min_le_left _ _)) (Nat.div_mul_le_self _ _)

theorem wholePart_le (h : units ≤ limit * unitsPerOne) : wholePart units ≤ limit := by
  refine Nat.le_trans (Nat.min_le_left _ _) ?_
  rw [Nat.div_le_iff_le_mul_add_pred unitsPerOne_pos, Nat.mul_comm]
  omega

theorem lt_wholePart (h : (limit + 1) * unitsPerOne ≤ units) (hlimit : limit < maxCount) :
    limit < wholePart units :=
  Nat.lt_min.mpr ⟨(Nat.le_div_iff_mul_le unitsPerOne_pos).mpr h, hlimit⟩

theorem wholePart_of_between (hlow : limit * unitsPerOne ≤ units)
    (hhigh : units < (limit + 1) * unitsPerOne) (hlimit : limit ≤ maxCount) :
    wholePart units = limit := by
  have hdiv : units / unitsPerOne = limit := Nat.div_eq_of_lt_le hlow hhigh
  rw [wholePart, hdiv, Nat.min_eq_left hlimit]

theorem wholePart_mul (h : limit ≤ maxCount) : wholePart (limit * unitsPerOne) = limit := by
  rw [wholePart, Nat.mul_div_cancel _ unitsPerOne_pos, Nat.min_eq_left h]

/-! ## The argument -/

variable {n : Json} {place : Nat}

theorem count_of_units (hn : n.Canonical) (hunits : n.units? = some (units : Int)) :
    Argument.count place n = .ok (wholePart units) := by
  cases n with
  | int k =>
    have hk : k * unitsPerOne = (units : Int) := Option.some.inj hunits
    have hone : (0 : Int) < unitsPerOne := Int.natCast_pos.mpr unitsPerOne_pos
    have hnonneg : 0 ≤ k := by
      refine Int.not_lt.mp fun hneg => ?_
      have hlt := Int.mul_neg_of_neg_of_pos hneg hone
      omega
    obtain ⟨m, rfl⟩ := Int.eq_ofNat_of_zero_le hnonneg
    have hunits : units = m * unitsPerOne := by exact_mod_cast hk.symm
    have hm : m ≤ maxCount := by
      have hrange := hn.2
      simp only [Nat.pow_eq] at hrange
      simp only [maxCount, Nat.pow_eq]
      omega
    rw [hunits, wholePart_mul hm]
    simp [Argument.count]
  | float x =>
    have hsigned : x.signedUnits? = some (units : Int) := hunits
    rw [Argument.count, if_pos (Argument.isFinite_and_zero_le_iff.mpr ⟨units, hsigned⟩)]
    cases x with
    | nan | infinite => cases hsigned
    | finite negative magnitude =>
      cases negative with
      | false =>
        obtain rfl : magnitude = units := Int.ofNat_inj.mp (Option.some.inj hsigned)
        rfl
      | true =>
        have hneg : -(magnitude : Int) = units := Option.some.inj hsigned
        obtain rfl : units = 0 := by omega
        simp [Binary64.truncate, wholePart]
  | _ => cases hunits

theorem count_of_negative {units : Int} (hunits : n.units? = some units) (hneg : units < 0) :
    Argument.count place n = .error (.wrongType place "a non-negative number") := by
  cases n with
  | int k =>
    have hk : k * unitsPerOne = units := Option.some.inj hunits
    have hnot : ¬ 0 ≤ k := by
      intro hnonneg
      have hle := Int.mul_nonneg hnonneg (Int.natCast_nonneg unitsPerOne)
      omega
    rw [Argument.count, if_neg hnot]
  | float x =>
    have hsigned : x.signedUnits? = some units := hunits
    rw [Argument.count, if_neg]
    intro hle
    obtain ⟨m, hm⟩ := Argument.isFinite_and_zero_le_iff.mp hle
    rw [hsigned] at hm
    cases hm
    omega
  | _ => cases hunits

/-! ## The call -/

namespace Host

variable {s : Settings} {h : Host} {argsText : String}

theorem readCall_sleep (hargs : Json.parse argsText = .ok (.arr [n])) :
    readCall "sleep" argsText = ((Argument.count 0 n).map Call.sleep).mapError
      fun fault => .invalidArgument "sleep" fault.message := by
  have hread : readCall "sleep" argsText = Call.parse "sleep" (.arr [n]) := by
    rw [readCall, readArguments, hargs]
    rfl
  rw [hread, show "sleep" = Operation.sleep.name from rfl, Call.parse_name]
  show Except.mapError _ (Argument.count 0 n >>= fun ms => pure (Call.sleep ms)) = _
  cases Argument.count 0 n <;> rfl

/-- A sleep takes the whole part of a number that is not negative, or is refused if that is beyond
the limit. -/
theorem call_sleep_units (s : Settings) (h : Host) (hargs : Json.parse argsText = .ok (.arr [n]))
    (hunits : n.units? = some (units : Int)) :
    h.call s false "sleep" argsText =
      if s.config.maxSleepMs < wholePart units then
        (h, .answered
          (.error (.invalidArgument "sleep" (toString (wholePart units) ++ " ms exceeds the " ++
            toString s.config.maxSleepMs ++ " ms limit"))))
      else (h, .suspended (.sleep (wholePart units))) := by
  have hcanonical : n.Canonical := (Json.canonical_of_parse hargs).1
  have hread : readCall "sleep" argsText = .ok (.sleep (wholePart units)) := by
    rw [readCall_sleep hargs, count_of_units hcanonical hunits]
    rfl
  rw [call, hread]
  rfl

theorem call_sleep_negative (s : Settings) (cancelled : Bool) (h : Host)
    (hargs : Json.parse argsText = .ok (.arr [n])) {units : Int} (hunits : n.units? = some units)
    (hneg : units < 0) :
    h.call s cancelled "sleep" argsText =
      (h, .answered
        (.error (.invalidArgument "sleep" "argument 1 must be a non-negative number"))) := by
  have hread : readCall "sleep" argsText =
      .error (.invalidArgument "sleep" "argument 1 must be a non-negative number") := by
    rw [readCall_sleep hargs, count_of_negative hunits hneg]
    rfl
  rw [call, hread]

theorem call_sleep_cancelled (s : Settings) (h : Host)
    (hargs : Json.parse argsText = .ok (.arr [n])) (hunits : n.units? = some (units : Int)) :
    h.call s true "sleep" argsText = (h, .answered (.error .cancelled)) := by
  have hread : readCall "sleep" argsText = .ok (.sleep (wholePart units)) := by
    rw [readCall_sleep hargs, count_of_units (Json.canonical_of_parse hargs).1 hunits]
    rfl
  rw [call, hread]
  rfl

end Host

/-- Whatever the limit is: a `sleep` for a number within it is accepted and takes the whole part of
the number, never longer; for a number that is larger by one or more it is refused, as it is for a
number below zero; and one for a number that is larger by less than one is accepted and takes as
long as the limit. -/
theorem sleep_takes_whole_part (s : Settings) (h : Host) (argsText : String) (n : Json)
    (units : Int) (hargs : Json.parse argsText = .ok (.arr [n])) (hn : n.units? = some units) :
    let limit := s.config.maxSleepMs
    let ms := wholePart units.toNat
    let refuses (detail : String) := h.call s false "sleep" argsText =
      (h, .answered (.error (.invalidArgument "sleep" detail)))
    let sleeps (ms : Nat) := h.call s false "sleep" argsText = (h, .suspended (.sleep ms)) ∧
      h.conclude s (.sleep ms) = (h, .ok .null) ∧
      ∀ (e : Execution) (clock : Nat) (next : Answer → Program),
        e.inst = h.inst → e.cancelled = false →
        e.phase = .running (.call "sleep" argsText next) →
          (e.advance s clock h.world).1.due? s = some (clock + ms)
    (units < 0 → refuses "argument 1 must be a non-negative number") ∧
      (0 ≤ units → units ≤ limit * unitsPerOne → sleeps ms ∧ ms * unitsPerOne ≤ units) ∧
      ((limit + 1) * unitsPerOne ≤ units → limit < maxCount →
        refuses (toString ms ++ " ms exceeds the " ++ toString limit ++ " ms limit")) ∧
      (limit * unitsPerOne < units → units < (limit + 1) * unitsPerOne →
        limit ≤ maxCount → sleeps limit) ∧
      ∃ e, h.call s true "sleep" argsText = (h, .answered (.error e)) := by
  intro limit ms refuses sleeps
  rcases Int.lt_or_le units 0 with hneg | hnonneg
  · have hone := Int.mul_nonneg (Int.natCast_nonneg limit) (Int.natCast_nonneg unitsPerOne)
    have hone' := Int.mul_nonneg (Int.natCast_nonneg (limit + 1)) (Int.natCast_nonneg unitsPerOne)
    rw [Int.natCast_succ] at hone'
    refine ⟨fun _ => Host.call_sleep_negative s false h hargs hn hneg, fun h0 =>
      by omega, fun h1 => by omega,
      fun h1 => by omega, _, Host.call_sleep_negative s true h hargs hn hneg⟩
  · obtain ⟨units, rfl⟩ := Int.eq_ofNat_of_zero_le hnonneg
    have hcall := Host.call_sleep_units s h hargs hn
    have hsleeps (ms' : Nat) (hms : wholePart units = ms') (hlimit : ¬ limit < wholePart units) :
        sleeps ms' := by
      subst hms
      rw [if_neg hlimit] at hcall
      refine ⟨hcall, rfl, fun e clock next hinst hcancelled hphase => ?_⟩
      have hhost : (⟨e.inst, h.world⟩ : Host) = h := by rw [hinst]
      simp [Execution.advance, hphase, hcancelled, hhost, hcall, Execution.due?]
    refine ⟨fun hneg => by omega, fun _ hle => ?_, fun hle hlimit =>
      ?_, fun hlow hhigh hlimit => ?_, _,
      Host.call_sleep_cancelled s h hargs hn⟩
    · have hle : units ≤ limit * unitsPerOne := by exact_mod_cast hle
      exact ⟨hsleeps _ rfl (Nat.not_lt.mpr (wholePart_le hle)),
        by exact_mod_cast wholePart_mul_le units⟩
    · have hle : (limit + 1) * unitsPerOne ≤ units := by exact_mod_cast hle
      rw [if_pos (lt_wholePart hle hlimit)] at hcall
      exact hcall
    · have hlow : limit * unitsPerOne < units := by exact_mod_cast hlow
      have hhigh : units < (limit + 1) * unitsPerOne := by exact_mod_cast hhigh
      have hms := wholePart_of_between (Nat.le_of_lt hlow) hhigh hlimit
      exact hsleeps limit hms (by omega)

/-- A limit of fifty milliseconds. -/
def fiftyLimit : Settings :=
  { (default : Settings) with config := { (default : Config) with maxSleepMs := 50 } }

/-- Thirty milliseconds are slept, and five hundred are not. -/
theorem sleep_takes_whole_part_fifty :
    (default : Host).call fiftyLimit false "sleep" "[30]" = (default, .suspended (.sleep 30)) ∧
      (default : Host).call fiftyLimit false "sleep" "[500]" = (default, .answered (.error
        (.invalidArgument "sleep" "500 ms exceeds the 50 ms limit"))) := by
  have hparse (text : String) (k : Nat) (h : Json.parse text = .ok (.arr [.int k])) :=
    sleep_takes_whole_part fiftyLimit default text (.int k) ((k * unitsPerOne : Nat) : Int) h
      (congrArg some (Int.natCast_mul k unitsPerOne).symm)
  have hwithin : ((30 * unitsPerOne : Nat) : Int) ≤
      (fiftyLimit.config.maxSleepMs : Int) * unitsPerOne := by
    rw [← Int.natCast_mul]
    exact Int.ofNat_le.mpr (Nat.mul_le_mul_right _ (by decide))
  have hbeyond : ((fiftyLimit.config.maxSleepMs : Int) + 1) * unitsPerOne ≤
      ((500 * unitsPerOne : Nat) : Int) := by
    rw [← Int.natCast_succ, ← Int.natCast_mul]
    exact Int.ofNat_le.mpr (Nat.mul_le_mul_right _ (by decide))
  obtain ⟨-, hsleeps, -⟩ := hparse "[30]" 30 (by rfl)
  obtain ⟨-, -, hrefuses, -⟩ := hparse "[500]" 500 (by rfl)
  have hthirty := (hsleeps (Int.natCast_nonneg _) hwithin).1.1
  have hhundreds := hrefuses hbeyond (by decide)
  rw [Int.toNat_natCast, wholePart_mul (by decide)] at hthirty hhundreds
  exact ⟨hthirty, hhundreds⟩

/-! ## A half millisecond too long -/

/-- Fifty and a half, as it is written. -/
def fiftyAndHalf : Numeral := ⟨false, [5, 0], [5], none⟩

def fiftyAndHalfUnits : Nat := 101 * Nat.pow 2 1073

theorem value?_fiftyAndHalf :
    fiftyAndHalf.value? = some (.float (.finite false fiftyAndHalfUnits)) := by
  have hdouble : fiftyAndHalf.double? = some (.finite false fiftyAndHalfUnits) := by decide +kernel
  rw [Numeral.value?, if_neg (by decide), hdouble, Option.map_some]

theorem parse_fiftyAndHalf :
    Json.parse "[50.5]" = .ok (.arr [.float (.finite false fiftyAndHalfUnits)]) := by
  obtain ⟨p, q, r, s, hread⟩ : ∃ p q r s, Document.read "[50.5]" =
      ⟨.array p (.item (.numeral q fiftyAndHalf r) (.closed s)), none⟩ := ⟨_, _, _, _, rfl⟩
  rw [Json.parse, hread, Document.readAs, maxNesting]
  simp only [Node.toJson, Node.toItems, value?_fiftyAndHalf]
  rfl

/-- With a limit of fifty milliseconds, fifty and a half are accepted, and only fifty are slept. -/
theorem fraction_beyond_limit_sleeps :
    ¬ ∀ (s : Settings) (h : Host) (argsText : String) (n : Json) (units : Int),
      Json.parse argsText = .ok (.arr [n]) → n.units? = some units →
        s.config.maxSleepMs * unitsPerOne < units →
          ∃ detail, h.call s false "sleep" argsText =
            (h, .answered (.error (.invalidArgument "sleep" detail))) := by
  intro h
  have hunits : (Json.float (.finite false fiftyAndHalfUnits)).units? =
    some (fiftyAndHalfUnits : Int) := rfl
  have hwhole : wholePart fiftyAndHalfUnits = 50 := by decide +kernel
  have hbeyond : fiftyLimit.config.maxSleepMs * unitsPerOne < fiftyAndHalfUnits := by decide +kernel
  obtain ⟨detail, hrefused⟩ := h fiftyLimit default "[50.5]" _ _ parse_fiftyAndHalf hunits
    (by exact_mod_cast hbeyond)
  rw [Host.call_sleep_units fiftyLimit default parse_fiftyAndHalf hunits, hwhole] at hrefused
  cases hrefused

end ScriptBench
