import Mathlib.Tactic.FinCases
import ScriptBench.Proofs.Json.Typed
import ScriptBench.Proofs.Report.Nesting
import ScriptBench.Proofs.Text.Moments

/-!
Which reports are read back from their text.

Every level of blocks opens two brackets, and reading stops at the 128th.

1. A block is accepted as it is written, and with its members in key order, by a reader of as many
   levels as it has (`TestBlock.acceptsBoth_decodeLevels`); no reader accepts it with fewer brackets
   than are in it (`TestBlock.bounded_decodeLevels`).
2. A report with at least one block opens two brackets for every level and two or three more
   (`TestReport.depth_toJson`).
3. So the report of any calls is read back, directly and through the untyped value of its text, if
   there were at most 62 blocks open at once; if there were more, both ways fail
   (`report_read_back`).
-/
namespace ScriptBench

open Decoder

/-! ## Records -/

theorem TestStatus.acceptsBoth (s : TestStatus) : AcceptsBoth decoder (.str s.name) s := by
  refine acceptsBoth_of_sorted (accepts_choice ?_) rfl
  cases s <;> rfl

theorem DiagnosticKind.acceptsBoth (k : DiagnosticKind) : AcceptsBoth decoder (.str k.name) k := by
  refine acceptsBoth_of_sorted (accepts_choice ?_) rfl
  cases k <;> rfl

theorem Time.acceptsBoth {t : Time} (h : t.isValid = true) : AcceptsBoth decoder t.toJson t := by
  refine acceptsBoth_of_sorted (accepts_parsed ?_ _) rfl
  rw [parse_text h]
  rfl

theorem acceptsBoth_string (s : String) : AcceptsBoth string (.str s) s :=
  acceptsBoth_of_sorted (accepts_string s) rfl

theorem acceptsBoth_bool (b : Bool) : AcceptsBoth bool (.bool b) b :=
  acceptsBoth_of_sorted (accepts_bool b) rfl

namespace Assertion

theorem acceptsBoth (a : Assertion) : AcceptsBoth decoder a.toJson a :=
  acceptsBoth_record (.need (acceptsBoth_bool a.passed) (.need (acceptsBoth_string a.message) .nil))
    (by decide)
    (by simp [Decoder.Commute]) rfl rfl

theorem bounded (a : Assertion) : Bounded decoder a.toJson :=
  bounded_record (.need (bounded_of_depth_eq_zero rfl) (.need (bounded_of_depth_eq_zero rfl) .nil))
    (by decide)

theorem unnumbered (a : Assertion) : a.toJson.Unnumbered := ⟨trivial, trivial, trivial⟩

end Assertion

namespace Diagnostic

theorem acceptsBoth (d : Diagnostic) : AcceptsBoth decoder d.toJson d :=
  acceptsBoth_record (.need d.kind.acceptsBoth (.need (acceptsBoth_string d.message) .nil))
    (by decide)
    (by simp [Decoder.Commute]) rfl rfl

theorem bounded (d : Diagnostic) : Bounded decoder d.toJson :=
  bounded_record (.need (bounded_of_depth_eq_zero rfl) (.need (bounded_of_depth_eq_zero rfl) .nil))
    (by decide)

theorem unnumbered (d : Diagnostic) : d.toJson.Unnumbered := ⟨trivial, trivial, trivial⟩

end Diagnostic

/-! ## Blocks -/

namespace TestBlock

mutual

/-- A block is read by a reader of as many levels as it has. -/
theorem acceptsBoth_decodeLevels (b : TestBlock) (hdated : ∀ d ∈ b.subtree, d.Dated) {levels : Nat}
    (hlevels : b.levels ≤ levels) : AcceptsBoth (decodeLevels levels) b.toJson b := by
  obtain ⟨n, o, c, s, sk, t, records, children⟩ := b
  obtain ⟨inner, rfl⟩ : ∃ k, levels = k + 1 := by
    rw [TestBlock.levels] at hlevels
    exact ⟨levels - 1, by omega⟩
  have hown : o.isValid = true ∧ c.isValid = true :=
    hdated (mk n o c s sk t records children) List.mem_cons_self
  have hchildren : List.Forall₂ (AcceptsBoth (decodeLevels inner)) (toJsonList children) children :=
    acceptsBoth_items children (fun d hd => hdated d (List.mem_cons_of_mem _ hd))
      (Nat.le_of_succ_le_succ hlevels)
  rw [decodeLevels]
  refine acceptsBoth_record
    (.need (acceptsBoth_string n)
      (.need (Time.acceptsBoth hown.1)
        (.need (Time.acceptsBoth hown.2)
          (.need s.acceptsBoth
            (.need (acceptsBoth_bool sk)
              (.need (acceptsBoth_bool t)
                (.need (acceptsBoth_map Assertion.acceptsBoth records)
                  (.need (acceptsBoth_list hchildren) .nil))))))))
    (by simp [Field.need]) ?_ rfl rfl
  -- each member puts its own field
  intro d hd e he acc
  obtain ⟨n', o', c', s', sk', t', records', children'⟩ := acc
  fin_cases hd <;> fin_cases he <;> rfl

theorem acceptsBoth_items (bs : List TestBlock) (hdated : ∀ d ∈ subtrees bs, d.Dated) {levels : Nat}
    (hlevels : levelsList bs ≤ levels) :
    List.Forall₂ (AcceptsBoth (decodeLevels levels)) (toJsonList bs) bs := by
  cases bs with
  | nil => exact .nil
  | cons b rest =>
    rw [levelsList_cons, Nat.max_le] at hlevels
    exact .cons
      (acceptsBoth_decodeLevels b (fun d hd => hdated d (List.mem_append_left _ hd)) hlevels.1)
      (acceptsBoth_items rest (fun d hd => hdated d (List.mem_append_right _ hd)) hlevels.2)

end

theorem exists_mismatch {α : Type} (n : Node) (expected : String) :
    ∃ fault, n.mismatch expected = (.error fault : Except Fault α) := by
  cases n with
  | numeral start literal stop =>
    simp only [Node.mismatch]
    split <;> exact ⟨_, rfl⟩
  | _ => exact ⟨_, rfl⟩

mutual

/-- No reader accepts a block with fewer brackets than are in it. -/
theorem bounded_decodeLevels (b : TestBlock) (levels : Nat) :
    Bounded (decodeLevels levels) b.toJson := by
  obtain ⟨n, o, c, s, sk, t, records, children⟩ := b
  cases levels with
  | zero => exact fun n _ _ _ => exists_mismatch n _
  | succ inner =>
    rw [decodeLevels, toJson]
    exact bounded_record
      (.need (bounded_of_depth_eq_zero rfl)
        (.need (bounded_of_depth_eq_zero rfl)
          (.need (bounded_of_depth_eq_zero rfl)
            (.need (bounded_of_depth_eq_zero rfl)
              (.need (bounded_of_depth_eq_zero rfl)
                (.need (bounded_of_depth_eq_zero rfl)
                  (.need (bounded_map Assertion.bounded records)
                    (.need (bounded_list (bounded_items children inner)) .nil))))))))
      (by simp [Field.need])

theorem bounded_items (bs : List TestBlock) (levels : Nat) :
    ∀ v ∈ toJsonList bs, Bounded (decodeLevels levels) v := by
  cases bs with
  | nil => exact fun v hv => absurd hv List.not_mem_nil
  | cons b rest =>
    intro v hv
    rcases List.mem_cons.mp hv with rfl | hv
    · exact bounded_decodeLevels b levels
    · exact bounded_items rest levels v hv

end

/-! ## Brackets -/

mutual

theorem depth_toJson (b : TestBlock) :
    2 * b.levels ≤ b.toJson.depth ∧ b.toJson.depth ≤ 2 * b.levels + 1 := by
  obtain ⟨n, o, c, s, sk, t, records, children⟩ := b
  have hrecords : Json.depthItems (records.map Assertion.toJson) ≤ 1 :=
    depthItems_map (fun _ => Nat.le_refl 1) _
  have hchildren := depth_toJsonList children
  simp only [TestBlock.levels, toJson, Time.toJson, Json.depth, Json.depthMembers]
  omega

theorem depth_toJsonList (bs : List TestBlock) :
    2 * levelsList bs ≤ Json.depthItems (toJsonList bs) ∧
      Json.depthItems (toJsonList bs) ≤ 2 * levelsList bs + 1 := by
  cases bs with
  | nil => exact ⟨Nat.le_refl _, Nat.zero_le _⟩
  | cons b rest =>
    have hb := depth_toJson b
    have hrest := depth_toJsonList rest
    simp only [levelsList_cons, toJsonList, Json.depthItems]
    omega

end

mutual

/-- With its members in key order a block still opens a bracket for every level. -/
theorem levels_le_depth_sorted (b : TestBlock) : b.levels ≤ b.toJson.sorted.depth := by
  obtain ⟨n, o, c, s, sk, t, records, children⟩ := b
  have hchildren := levelsList_le_depth_sorted children
  rw [toJson, Json.depth_sorted_obj (by simp), TestBlock.levels]
  simp only [Json.sortedValues, Json.sorted, Json.depthMembers, Json.depth]
  omega

theorem levelsList_le_depth_sorted (bs : List TestBlock) :
    levelsList bs ≤ Json.depthItems (Json.sortedItems (toJsonList bs)) := by
  cases bs with
  | nil => exact Nat.zero_le _
  | cons b rest =>
    have hb := levels_le_depth_sorted b
    have hrest := levelsList_le_depth_sorted rest
    simp only [levelsList_cons, toJsonList, Json.sortedItems, Json.depthItems]
    omega

end

mutual

theorem unnumbered_toJson (b : TestBlock) : b.toJson.Unnumbered := by
  obtain ⟨n, o, c, s, sk, t, records, children⟩ := b
  have hrecords : Json.UnnumberedItems (records.map Assertion.toJson) :=
    unnumbered_map Assertion.unnumbered records
  exact ⟨trivial, trivial, trivial, trivial, trivial, trivial, hrecords,
    unnumbered_toJsonList children, trivial⟩

theorem unnumbered_toJsonList (bs : List TestBlock) : Json.UnnumberedItems (toJsonList bs) := by
  cases bs with
  | nil => exact trivial
  | cons b rest => exact ⟨unnumbered_toJson b, unnumbered_toJsonList rest⟩

end

theorem acceptsBoth (b : TestBlock) (hdated : ∀ d ∈ b.subtree, d.Dated) :
    AcceptsBoth decoder b.toJson b := by
  have hdepth := depth_toJson b
  have hsorted := levels_le_depth_sorted b
  refine ⟨fun n hn budget hbudget => ?_, fun n hn budget hbudget => ?_⟩
  · have hlevels : b.levels ≤ budget + 1 := by omega
    exact (acceptsBoth_decodeLevels b hdated hlevels).1 n hn budget hbudget
  · have hlevels : b.levels ≤ budget + 1 := by omega
    exact (acceptsBoth_decodeLevels b hdated hlevels).2 n hn budget hbudget

theorem bounded (b : TestBlock) : Bounded decoder b.toJson := fun n hn budget hbudget =>
  bounded_decodeLevels b (budget + 1) n hn budget hbudget

theorem acceptsBoth_all (bs : List TestBlock) (hdated : ∀ d ∈ subtrees bs, d.Dated) :
    List.Forall₂ (AcceptsBoth decoder) (toJsonList bs) bs := by
  induction bs with
  | nil => exact .nil
  | cons b rest ih =>
    exact .cons (acceptsBoth b fun d hd => hdated d (List.mem_append_left _ hd))
      (ih fun d hd => hdated d (List.mem_append_right _ hd))

theorem bounded_all (bs : List TestBlock) : ∀ v ∈ toJsonList bs, Bounded decoder v := by
  induction bs with
  | nil => exact fun v hv => absurd hv List.not_mem_nil
  | cons b rest ih =>
    intro v hv
    rcases List.mem_cons.mp hv with rfl | hv
    · exact bounded b
    · exact ih v hv

end TestBlock

/-! ## Reports -/

namespace TestReport

open TestBlock

theorem acceptsBoth {r : TestReport} (hdated : ∀ b ∈ subtrees r.blocks, b.Dated) :
    AcceptsBoth decoder r.toJson r :=
  acceptsBoth_record
    (.need r.status.acceptsBoth
      (.need (acceptsBoth_bool r.skipped)
        (.need (acceptsBoth_map Assertion.acceptsBoth r.records)
          (.need (acceptsBoth_list (acceptsBoth_all r.blocks hdated))
            (.need (acceptsBoth_map Diagnostic.acceptsBoth r.diagnostics) .nil)))))
    (by decide) (by simp [Decoder.Commute]) rfl rfl

theorem bounded (r : TestReport) : Bounded decoder r.toJson :=
  bounded_record
    (.need (bounded_of_depth_eq_zero rfl)
      (.need (bounded_of_depth_eq_zero rfl)
        (.need (bounded_map Assertion.bounded r.records)
          (.need (bounded_list (bounded_all r.blocks))
            (.need (bounded_map Diagnostic.bounded r.diagnostics) .nil)))))
    (by decide)

theorem depth_toJson (r : TestReport) :
    2 * levelsList r.blocks + 2 ≤ r.toJson.depth ∧ r.toJson.depth ≤
      2 * levelsList r.blocks + 3 := by
  have hrecords : Json.depthItems (r.records.map Assertion.toJson) ≤ 1 :=
    depthItems_map (fun _ => Nat.le_refl 1) _
  have hdiagnostics : Json.depthItems (r.diagnostics.map Diagnostic.toJson) ≤ 1 :=
    depthItems_map (fun _ => Nat.le_refl 1) _
  have hblocks := depth_toJsonList r.blocks
  simp only [toJson, Json.depth, Json.depthMembers]
  omega

theorem unnumbered_toJson (r : TestReport) : r.toJson.Unnumbered := by
  have hrecords : Json.UnnumberedItems (r.records.map Assertion.toJson) :=
    unnumbered_map Assertion.unnumbered r.records
  have hdiagnostics : Json.UnnumberedItems (r.diagnostics.map Diagnostic.toJson) :=
    unnumbered_map Diagnostic.unnumbered r.diagnostics
  exact ⟨trivial, trivial, hrecords, unnumbered_toJsonList r.blocks, hdiagnostics, trivial⟩

end TestReport

namespace Aggregator

open TestBlock

theorem depth_report (steps : List Step) (now : Time) :
    let depth := ((empty.run steps).report now).toJson.depth
    2 * empty.mostOpen steps + 2 ≤ depth ∧ depth ≤ 2 * empty.mostOpen steps + 3 := by
  have hdepth := ((empty.run steps).report now).depth_toJson
  rw [levels_report] at hdepth
  exact hdepth

/-- If more than 62 blocks were open at once, the text of the report is nested too deep to be
read. -/
theorem report_unreadable {steps : List Step} (hmany : 62 < empty.mostOpen steps) (now : Time) :
    let r := (empty.run steps).report now
    (∃ fault, ofText TestReport.decoder r.toJson.text = .error fault) ∧
      ∃ fault, Json.parse r.toJson.text = .error fault := by
  intro r
  have hdepth := depth_report steps now
  have hexceeds : maxNesting < r.toJson.depth := by
    show 127 < ((empty.run steps).report now).toJson.depth
    omega
  exact not_read_back r.unnumbered_toJson r.bounded hexceeds

/-- The report of any calls is read back from its text, and from the untyped value of its text, if
at most 62 blocks were open at once; if there were more, neither the report nor the value is
read. -/
theorem report_read_back {steps : List Step} (hsteps : ∀ st ∈ steps, st.Timely) {now : Time}
    (hnow : now.isValid = true) :
    let r := (empty.run steps).report now
    (empty.mostOpen steps ≤ 62 →
      ofText TestReport.decoder r.toJson.text = .ok r ∧
        ∃ v, Json.parse r.toJson.text = .ok v ∧ ofJson TestReport.decoder v = .ok r) ∧
      (62 < empty.mostOpen steps →
        (∃ fault, ofText TestReport.decoder r.toJson.text = .error fault) ∧
          ∃ fault, Json.parse r.toJson.text = .error fault) := by
  intro r
  refine ⟨fun hfew => ?_, fun hmany => report_unreadable hmany now⟩
  have haccepts : AcceptsBoth TestReport.decoder r.toJson r :=
    TestReport.acceptsBoth (dated_report hsteps hnow)
  have hdepth := depth_report steps now
  have hfits : r.toJson.depth ≤ maxNesting := by
    show ((empty.run steps).report now).toJson.depth ≤ 127
    omega
  exact read_back r.unnumbered_toJson haccepts hfits

/-- Blocks opened one inside the other, none of them closed. -/
def opened (count : Nat) : List Step := List.replicate count (.openBlock .epoch "t")

theorem timely_opened (count : Nat) : ∀ st ∈ opened count, st.Timely := by
  intro st hst
  rw [List.eq_of_mem_replicate hst]
  exact (show Time.epoch.isValid = true by decide)

theorem mostOpen_opened (count : Nat) (g : Aggregator) :
    g.mostOpen (opened count) = g.stack.length + count := by
  induction count generalizing g with
  | zero => rfl
  | succ count ih =>
    rw [opened, List.replicate_succ, mostOpen, ← opened, ih]
    show max g.stack.length (g.stack.length + 1 + count) = g.stack.length + (count + 1)
    omega

/-- Sixty-two blocks that are never closed are read back. -/
theorem report_read_back_deepest :
    let r := (empty.run (opened 62)).report .epoch
    ofText TestReport.decoder r.toJson.text = .ok r ∧
      ∃ v, Json.parse r.toJson.text = .ok v ∧ ofJson TestReport.decoder v = .ok r :=
  (report_read_back (timely_opened 62) (by decide)).1 (Nat.le_of_eq (mostOpen_opened 62 empty))

/-- One more is too many. -/
theorem deeper_report_unreadable :
    let r := (empty.run (opened 63)).report .epoch
    ¬ (ofText TestReport.decoder r.toJson.text = .ok r ∧
      ∃ v, Json.parse r.toJson.text = .ok v ∧ ofJson TestReport.decoder v = .ok r) := by
  intro r ⟨hread, _⟩
  obtain ⟨⟨fault, hfault⟩, -⟩ :=
    report_unreadable (Nat.lt_of_lt_of_eq (by decide) (mostOpen_opened 63 empty).symm) .epoch
  rw [hfault] at hread
  cases hread

end Aggregator

end ScriptBench
