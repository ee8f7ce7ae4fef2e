import ScriptBench.Report.Aggregator

/-!
A report laid out in rows.

A row is a block with its own records, known by the chain of blocks around it. The rows of a report
come in the order in which its blocks are printed, a block before the blocks inside it, after the
row of the records outside of all blocks. An aggregator has the rows its report would have.

1. A record goes to the row of the innermost open block (`rows_append`), an opened block has the
   last row (`rows_openBlock`), and closing leaves every row where it is (`rows_closeBlock`).
2. So does closing all that is still open, and marking blocks as skipped: the report of an
   aggregator has its rows (`rows_report`).
3. What a report counts are the records in its rows (`count_eq`).
-/
namespace ScriptBench

/-- How a block was opened: its place among all blocks, from 1, its name and its time. -/
structure Opening where
  number : Nat
  name : String
  openedAt : Time
  deriving DecidableEq, Repr

/-- Blocks around one another, innermost first; the empty chain is outside of all blocks. -/
abbrev Chain := List Opening

/-- A block, given by its chain, and its own records. -/
abbrev Row := Chain × List Assertion

namespace TestBlock

mutual

/-- The rows of a block inside a chain, numbered from `n`. -/
def rows (outer : Chain) (n : Nat) : TestBlock → List Row
  | mk name openedAt _ _ _ _ records children =>
    (⟨n, name, openedAt⟩ :: outer, records) :: rowsList (⟨n, name, openedAt⟩ :: outer)
      (n + 1) children

def rowsList (outer : Chain) (n : Nat) : List TestBlock → List Row
  | [] => []
  | b :: rest => rows outer n b ++ rowsList outer (n + (rows outer n b).length) rest

end

theorem rowsList_append (outer : Chain) (n : Nat) (bs cs : List TestBlock) :
    rowsList outer n (bs ++ cs) =
      rowsList outer n bs ++ rowsList outer (n + (rowsList outer n bs).length) cs := by
  induction bs generalizing n with
  | nil => rfl
  | cons b rest ih =>
    simp only [List.cons_append, rowsList, ih, List.append_assoc, List.length_append, Nat.add_assoc]

theorem rowsList_singleton (outer : Chain) (n : Nat) (b : TestBlock) :
    rowsList outer n [b] = rows outer n b := by
  simp [rowsList]

mutual

theorem rows_markSkipped (outer : Chain) (n : Nat) :
    ∀ b : TestBlock, rows outer n (markSkipped b) = rows outer n b
  | mk name openedAt _ _ _ _ _ children => by
    simp only [markSkipped, rows, rowsList_markSkipped _ _ children]

theorem rowsList_markSkipped (outer : Chain) (n : Nat) :
    ∀ bs : List TestBlock, rowsList outer n (markSkippedList bs) = rowsList outer n bs
  | [] => rfl
  | b :: rest => by
    simp only [markSkippedList, rowsList, rows_markSkipped _ _ b, rowsList_markSkipped _ _ rest]

end

end TestBlock

/-- A block closed behind others has the rows it had while it was open. -/
theorem OpenBlock.rowsList_finish (outer : Chain) (n : Nat) (bs : List TestBlock) (b : OpenBlock)
    (closedAt : Time) (truncated : Bool) {number : Nat}
    (h : number = n + (TestBlock.rowsList outer n bs).length) :
    TestBlock.rowsList outer n (bs ++ [b.finish closedAt truncated]) =
      TestBlock.rowsList outer n bs ++ (⟨number, b.name, b.openedAt⟩ :: outer, b.records) ::
        TestBlock.rowsList (⟨number, b.name, b.openedAt⟩ :: outer) (number + 1) b.children := by
  rw [TestBlock.rowsList_append, TestBlock.rowsList_singleton, ← h, finish, TestBlock.rows]

/-- The row outside of all blocks, then the rows of the blocks in the order of the report. -/
def TestReport.rows (r : TestReport) : List Row :=
  ([], r.records) :: TestBlock.rowsList [] 1 r.blocks

namespace Aggregator

/-! ## The rows of an aggregator -/

/-- The chain of the open blocks, and the rows before them, of them and of what is closed inside
them. -/
def openRows (before : List Row) : List OpenBlock → Chain × List Row
  | [] => ([], before)
  | b :: outer =>
    let around := openRows before outer
    let here : Chain := ⟨around.2.length, b.name, b.openedAt⟩ :: around.1
    (here, around.2 ++ (here, b.records) :: TestBlock.rowsList here
      (around.2.length + 1) b.children)

/-- The rows that no open block has a part in. -/
def doneRows (g : Aggregator) : List Row := ([], g.records) :: TestBlock.rowsList [] 1 g.closed

def chain (g : Aggregator) : Chain := (openRows g.doneRows g.stack).1

def rows (g : Aggregator) : List Row := (openRows g.doneRows g.stack).2

theorem rows_append (g : Aggregator) (passed : Bool) (message : String) :
    (g.append passed message).chain = g.chain ∧
      ∃ before records after, g.rows = before ++ (g.chain, records) :: after ∧
        (g.append passed message).rows =
          before ++ (g.chain, records ++ [⟨passed, message⟩]) :: after := by
  obtain ⟨records, stack, closed, diagnostics, skipped⟩ := g
  cases stack with
  | nil => exact ⟨rfl, [], records, _, rfl, rfl⟩
  | cons b outer => exact ⟨rfl, _, b.records, _, rfl, rfl⟩

theorem rows_openBlock (g : Aggregator) (now : Time) (name : String) :
    (g.openBlock now name).chain = ⟨g.rows.length, name, now⟩ :: g.chain ∧
      (g.openBlock now name).rows = g.rows ++ [(⟨g.rows.length, name, now⟩ :: g.chain, [])] :=
  ⟨rfl, rfl⟩

/-- Closing the innermost block leaves every row where it is. -/
theorem rows_attach (g : Aggregator) (b : OpenBlock) (outer : List OpenBlock) (closedAt : Time)
    (truncated : Bool) (h : g.stack = b :: outer) :
    (attach (b.finish closedAt truncated) { g with stack := outer }).chain = g.chain.tail ∧
      (attach (b.finish closedAt truncated) { g with stack := outer }).rows = g.rows := by
  obtain ⟨records, stack, closed, diagnostics, skipped⟩ := g
  subst h
  cases outer with
  | nil =>
    refine ⟨rfl, ?_⟩
    simp only [attach, rows, openRows, doneRows, List.cons_append]
    rw [OpenBlock.rowsList_finish [] 1 closed b closedAt truncated (Nat.add_comm _ _)]
    rfl
  | cons b' outer =>
    refine ⟨rfl, ?_⟩
    simp only [attach, rows, openRows, doneRows, List.append_assoc, List.cons_append]
    rw [OpenBlock.rowsList_finish _ _ b'.children b closedAt truncated rfl]
    simp only [List.length_append, List.length_cons, Nat.add_assoc, Nat.add_comm 1]

/-- Only the block that is innermost can be closed. -/
theorem rows_closeBlock (g : Aggregator) (now : Time) (name : String) :
    (g.closeBlock now name).1.chain =
        (if g.chain.head?.map (·.name) = some name then g.chain.tail else g.chain) ∧
      (g.closeBlock now name).1.rows = g.rows := by
  obtain ⟨records, stack, closed, diagnostics, skipped⟩ := g
  cases stack with
  | nil => exact ⟨rfl, rfl⟩
  | cons b outer =>
    have hhead : (chain ⟨records, b :: outer, closed, diagnostics, skipped⟩).head?.map (·.name) =
        some b.name := rfl
    simp only [closeBlock, hhead, Option.some.injEq]
    split
    · exact rows_attach ⟨records, b :: outer, closed, diagnostics, skipped⟩ b outer now false rfl
    · exact ⟨rfl, rfl⟩

/-! ## The report -/

/-- Closing all open blocks at once leaves every row where it is. -/
theorem rows_fold (before : List Row) (now : Time) (stack : List OpenBlock)
    (inner : Option TestBlock) :
    before ++ TestBlock.rowsList [] before.length (fold now stack inner).toList =
      (openRows before stack).2 ++
        TestBlock.rowsList (openRows before stack).1 (openRows before stack).2.length
          inner.toList := by
  induction stack generalizing inner with
  | nil => rfl
  | cons b outer ih =>
    -- `b` is closed around `inner` and is then what is closed inside the blocks around it
    rw [fold, ih, Option.toList_some, ← List.nil_append [_],
      OpenBlock.rowsList_finish _ _ [] _ now true rfl]
    simp only [openRows, TestBlock.rowsList, List.nil_append, List.length_nil, Nat.add_zero,
      TestBlock.rowsList_append, List.append_assoc, List.cons_append, List.length_append,
      List.length_cons, Nat.add_assoc, Nat.add_comm 1]

theorem rows_report (g : Aggregator) (now : Time) : (g.report now).rows = g.rows := by
  have hrows : ([], g.records) :: TestBlock.rowsList [] 1
    (g.closed ++ (fold now g.stack none).toList) =
      g.rows := by
    have hfold := rows_fold g.doneRows now g.stack none
    rw [TestBlock.rowsList_append, ← List.cons_append, rows]
    simpa [doneRows, TestBlock.rowsList, Nat.add_comm] using hfold
  rw [report]
  split
  · rw [TestReport.rows, TestBlock.rowsList_markSkipped, hrows]
  · exact hrows

end Aggregator

/-! ## Counting -/

/-- The records of some rows, each with the chain it is under. -/
def Row.placed (rows : List Row) : List (Chain × Assertion) :=
  rows.flatMap fun row => row.2.map (row.1, ·)

theorem Row.placed_cons (row : Row) (rest : List Row) :
    placed (row :: rest) = row.2.map (row.1, ·) ++ placed rest := rfl

theorem Row.placed_append (xs ys : List Row) : placed (xs ++ ys) = placed xs ++ placed ys :=
  List.flatMap_append

/-- How many records of some rows have a verdict. -/
def Row.count (passed : Bool) (rows : List Row) : Nat := (placed rows).countP (·.2.passed == passed)

theorem Row.count_cons (passed : Bool) (chain : Chain) (records : List Assertion)
    (rest : List Row) :
    count passed ((chain, records) :: rest) = records.countP (·.passed == passed) +
      count passed rest := by
  rw [count, placed_cons, List.countP_append, List.countP_map]
  rfl

theorem Row.count_append (passed : Bool) (xs ys : List Row) :
    count passed (xs ++ ys) = count passed xs + count passed ys := by
  rw [count, placed_append, List.countP_append, ← count, ← count]

namespace TestBlock

mutual

theorem count_rows (passed : Bool) (outer : Chain) (n : Nat) :
    ∀ b : TestBlock, Row.count passed (rows outer n b) = count passed b
  | mk _ _ _ _ _ _ _ children => by
    rw [rows, Row.count_cons, count, countList_rows passed _ _ children]

theorem countList_rows (passed : Bool) (outer : Chain) (n : Nat) :
    ∀ bs : List TestBlock, Row.count passed (rowsList outer n bs) = countList passed bs
  | [] => rfl
  | b :: rest => by
    rw [rowsList, Row.count_append, countList, count_rows passed _ _ b,
      countList_rows passed _ _ rest]

end

end TestBlock

theorem TestReport.count_eq (passed : Bool) (r : TestReport) :
    r.count passed = Row.count passed r.rows := by
  rw [count, rows, Row.count_cons, TestBlock.countList_rows]

end ScriptBench
