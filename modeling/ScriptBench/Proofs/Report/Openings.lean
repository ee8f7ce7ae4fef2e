import ScriptBench.Proofs.Report.Verdicts

/-!
Blocks stand in a report in the order in which they were opened.

The blocks of a report are listed depth first, a block before the blocks inside it
(`TestBlock.subtrees`), and are numbered in that order, from 1. What is proved:

1. A report has a row for each of its blocks, in their order, and the chain of a row names the block
   and the blocks around it as they stand in the tree (`heads_rowsList`, `around_rowsList`).
2. By the ledger of its calls every block that is opened has the next number, and goes into the
   block that is innermost (`opened_run`, `blocks_run_openBlock`).
3. So the blocks of a report are the openings, in their order and where they belong, and the first
   block of a name is the one opened first (`blocks_stand_in_opening_order`).
-/
namespace ScriptBench

/-- Which block was opened, and when. -/
def Opening.block (o : Opening) : String × Time := (o.name, o.openedAt)

/-- The block a chain leads to, unless it leads outside of all blocks. -/
def Chain.block? (c : Chain) : Option (String × Time) := (List.head? c).map (·.block)

/-- The number of the innermost block of a chain. -/
def Chain.innermost? (c : Chain) : Option Nat := (List.head? c).map (·.number)

namespace TestBlock

/-- Which block this is, and when it was opened. -/
def opening (b : TestBlock) : String × Time := (b.name, b.openedAt)

mutual

/-- For a block and the blocks inside it, numbered from `n`: the number of the block right around
each. -/
def around (outer : Option Nat) (n : Nat) : TestBlock → List (Option Nat)
  | mk _ _ _ _ _ _ _ children => outer :: aroundList (some n) (n + 1) children

def aroundList (outer : Option Nat) (n : Nat) : List TestBlock → List (Option Nat)
  | [] => []
  | b :: rest => around outer n b ++ aroundList outer (n + (around outer n b).length) rest

end

mutual

theorem length_around (outer : Option Nat) (n : Nat) (chain : Chain) :
    ∀ b : TestBlock, (around outer n b).length = (rows chain n b).length
  | mk name openedAt _ _ _ _ _ children => by
    rw [around, rows, List.length_cons, List.length_cons, length_aroundList _ _ _ children]

theorem length_aroundList (outer : Option Nat) (n : Nat) (chain : Chain) :
    ∀ bs : List TestBlock, (aroundList outer n bs).length = (rowsList chain n bs).length
  | [] => rfl
  | b :: rest => by
    rw [aroundList, rowsList, List.length_append, List.length_append, length_around outer n chain b,
      length_aroundList _ _ chain rest]

end

mutual

theorem around_rows (chain : Chain) (n : Nat) :
    ∀ b : TestBlock, (rows chain n b).map (fun row => Chain.innermost? row.1.tail) =
      around (Chain.innermost? chain) n b
  | mk name openedAt _ _ _ _ _ children => by
    have hinside := around_rowsList (⟨n, name, openedAt⟩ :: chain) (n + 1) children
    rw [rows, List.map_cons, hinside, around]
    rfl

theorem around_rowsList (chain : Chain) (n : Nat) :
    ∀ bs : List TestBlock, (rowsList chain n bs).map (fun row => Chain.innermost? row.1.tail) =
      aroundList (Chain.innermost? chain) n bs
  | [] => rfl
  | b :: rest => by
    rw [rowsList, List.map_append, around_rows chain n b, around_rowsList chain _ rest, aroundList,
      length_around _ n chain b]

end

mutual

/-- The rows of a block are headed by the block and the blocks inside it, in their order. -/
theorem heads_rows (chain : Chain) (n : Nat) :
    ∀ b : TestBlock, (rows chain n b).map (fun row => Chain.block? row.1) =
      ((subtree b).map (·.opening)).map some
  | mk name openedAt _ _ _ _ _ children => by
    have hinside := heads_rowsList (⟨n, name, openedAt⟩ :: chain) (n + 1) children
    rw [rows, subtree, List.map_cons, List.map_cons, List.map_cons, hinside]
    rfl

theorem heads_rowsList (chain : Chain) (n : Nat) :
    ∀ bs : List TestBlock, (rowsList chain n bs).map (fun row => Chain.block? row.1) =
      ((subtrees bs).map (·.opening)).map some
  | [] => rfl
  | b :: rest => by
    rw [rowsList, subtrees, List.map_append, List.map_append, List.map_append, heads_rows chain n b,
      heads_rowsList chain _ rest]

end

mutual

theorem find?_eq (name : String) :
    ∀ b : TestBlock, b.find? name = b.subtree.find? (fun d => d.name = name)
  | mk n o c s sk t records children => by
    rw [find?, subtree, List.find?_cons, findList?_eq name children]
    by_cases h : n = name <;> simp [h, TestBlock.name]

theorem findList?_eq (name : String) :
    ∀ bs : List TestBlock, findList? name bs = (subtrees bs).find? (fun d => d.name = name)
  | [] => rfl
  | b :: rest => by
    rw [findList?, subtrees, List.find?_append, find?_eq name b, findList?_eq name rest]

end

end TestBlock

/-- The block that a call opens, and when. -/
def Aggregator.Step.opens? : Aggregator.Step → Option (String × Time)
  | .openBlock now name => some (name, now)
  | _ => none

/-! ## Openings in the ledger -/

namespace Ledger

theorem run_append (l : Ledger) (xs ys : List Aggregator.Step) :
    l.run (xs ++ ys) = (l.run xs).run ys :=
  List.foldl_append

/-- A block that is opened comes last, inside the blocks that are open. -/
theorem blocks_step (l : Ledger) (st : Aggregator.Step) :
    (l.step st).blocks =
      l.blocks ++ (st.opens?.map fun o => ⟨l.blocks.length, o.1, o.2⟩ :: l.chain).toList := by
  cases st with
  | append passed message => exact (List.append_nil _).symm
  | openBlock now name => rfl
  | closeBlock now name =>
    rw [step]
    split <;> exact (List.append_nil _).symm
  | skip => exact (List.append_nil _).symm

/-- The ledger has the blocks that were opened, each once and in the order of opening. -/
theorem opened_run (l : Ledger) (steps : List Aggregator.Step) :
    (l.run steps).blocks.map Chain.block? =
      l.blocks.map Chain.block? ++ (steps.filterMap (·.opens?)).map some := by
  induction steps generalizing l with
  | nil => exact (List.append_nil _).symm
  | cons st rest ih =>
    -- the first call adds what it opens, the others what they open after that
    rw [run, List.foldl_cons, ← run, ih, blocks_step, List.filterMap_cons]
    cases st.opens? with
    | none => simp
    | some o => simp [Chain.block?, Opening.block]

theorem blocks_run (l : Ledger) (steps : List Aggregator.Step) :
    ∃ more, (l.run steps).blocks = l.blocks ++ more := by
  induction steps generalizing l with
  | nil => exact ⟨[], (List.append_nil _).symm⟩
  | cons st rest ih =>
    obtain ⟨more, hmore⟩ := ih (l.step st)
    rw [blocks_step, List.append_assoc] at hmore
    exact ⟨_, hmore⟩

/-- A block that is opened goes into the block that is innermost at that moment, and stays there. -/
theorem blocks_run_openBlock (l : Ledger) (before after : List Aggregator.Step) (now : Time)
    (name : String) :
    (l.run (before ++ .openBlock now name :: after)).blocks[(l.run before).blocks.length]? =
      some (⟨(l.run before).blocks.length, name, now⟩ :: (l.run before).chain) := by
  have hrun : l.run (before ++ .openBlock now name :: after) =
      ((l.run before).step (.openBlock now name)).run after := run_append l before _
  obtain ⟨more, hmore⟩ := blocks_run ((l.run before).step (.openBlock now name)) after
  rw [hrun, hmore, step, List.append_assoc, List.getElem?_append_right (Nat.le_refl _),
    Nat.sub_self]
  rfl

theorem length_blocks_empty_run (steps : List Aggregator.Step) :
    (empty.run steps).blocks.length = (steps.filterMap (·.opens?)).length + 1 := by
  have hlength := congrArg List.length (opened_run empty steps)
  rw [List.length_map, List.length_append, List.length_map, List.length_map] at hlength
  rw [hlength, Nat.add_comm]
  rfl

end Ledger

/-! ## Openings in the report -/

namespace Aggregator

theorem openRows_chain (before : List Row) (stack : List OpenBlock) :
    (openRows before stack).1.map (·.block) = stack.map fun b => (b.name, b.openedAt) := by
  induction stack with
  | nil => rfl
  | cons b outer ih =>
    rw [openRows, List.map_cons, List.map_cons, ih]
    rfl

theorem chain_run (steps : List Step) :
    (Ledger.empty.run steps).chain.map (·.block) = (empty.run steps).stack.map fun b =>
      (b.name, b.openedAt) := by
  rw [← (follows_run Ledger.sound_empty follows_empty steps).chain, chain, openRows_chain]

/-- The chains of a report, outside of all blocks first, are those of the ledger. -/
theorem chains_report (steps : List Step) (now : Time) :
    ((empty.run steps).report now).rows.map (·.1) = (Ledger.empty.run steps).blocks := by
  rw [report_rows, Ledger.rows, List.map_map]
  exact List.map_id _

theorem opened_report (steps : List Step) (now : Time) :
    (TestBlock.subtrees ((empty.run steps).report now).blocks).map (·.opening) =
      steps.filterMap (·.opens?) := by
  have hrows : (((empty.run steps).report now).rows.map (·.1)).map Chain.block? =
      none :: (steps.filterMap (·.opens?)).map some := by
    rw [chains_report]
    exact Ledger.opened_run .empty steps
  rw [List.map_map, TestReport.rows, List.map_cons] at hrows
  have hblocks := (TestBlock.heads_rowsList [] 1 _).symm.trans (List.tail_eq_of_cons_eq hrows)
  exact (List.map_inj_right fun _ _ => Option.some.inj).mp hblocks

/-- The block right around each is the one that was innermost when it was opened. -/
theorem around_report (before after : List Step) (openedAt : Time) (name : String) (now : Time) :
    let report := (empty.run (before ++ .openBlock openedAt name :: after)).report now
    (TestBlock.aroundList none 1 report.blocks)[(before.filterMap (·.opens?)).length]? =
      some (Chain.innermost? (Ledger.empty.run before).chain) := by
  intro report
  -- its row in the ledger, which no later call touches
  have hchain : (report.rows.map (·.1))[(before.filterMap (·.opens?)).length + 1]? =
      some (⟨(Ledger.empty.run before).blocks.length, name,
          openedAt⟩ :: (Ledger.empty.run before).chain) := by
    rw [chains_report, ← Ledger.length_blocks_empty_run]
    exact Ledger.blocks_run_openBlock .empty before after openedAt name
  rw [TestReport.rows, List.map_cons, List.getElem?_cons_succ, List.getElem?_map] at hchain
  obtain ⟨row, hrow, hrow'⟩ := Option.map_eq_some_iff.mp hchain
  have haround := TestBlock.around_rowsList [] 1 report.blocks
  rw [show none = Chain.innermost? [] from rfl, ← haround, List.getElem?_map, hrow,
    Option.map_some, hrow']
  rfl

end Aggregator

open TestBlock (subtrees aroundList) in
/-- Whatever is called, the blocks of the report are the blocks that were opened, each once and in
the order of opening, each right inside the block that was innermost when it was opened. The first
block of a name is therefore the one opened first, and there is none only if none of that name was
opened. -/
theorem blocks_stand_in_opening_order (steps : List Aggregator.Step) (now : Time) :
    let report := (Aggregator.empty.run steps).report now
    let blocks := subtrees report.blocks
    let opened := steps.filterMap (·.opens?)
    blocks.map (·.opening) = opened ∧
      (∀ before openedAt name after, steps = before ++ .openBlock openedAt name :: after →
        let calls := Ledger.empty.run before
        let place := (before.filterMap (·.opens?)).length
        opened[place]? = some (name, openedAt) ∧
          calls.chain.map (·.block) =
            (Aggregator.empty.run before).stack.map (fun b => (b.name, b.openedAt)) ∧
          (aroundList none 1 report.blocks)[place]? = some (Chain.innermost? calls.chain)) ∧
      ∀ name,
        report.findBlock? name = (opened.findIdx? (·.1 = name)).bind (blocks[·]?) ∧
          (report.findBlock? name = none ↔ ∀ openedAt, .openBlock openedAt name ∉ steps) := by
  intro report blocks opened
  have hblocks : blocks.map (·.opening) = opened := Aggregator.opened_report steps now
  have hfind : ∀ name, report.findBlock? name = blocks.find? (fun b => b.name = name) := fun name =>
    TestBlock.findList?_eq name report.blocks
  refine ⟨hblocks, ?_, fun name => ⟨?_, ?_⟩⟩
  · rintro before openedAt name after rfl
    refine ⟨?_, Aggregator.chain_run before,
      Aggregator.around_report before after openedAt name now⟩
    simp [opened, List.filterMap_append, Aggregator.Step.opens?]
  · rw [hfind, List.find?_eq_bind_findIdx?_getElem?, ← hblocks, List.findIdx?_map]
    rfl
  · -- a name that no block has is a name under which no call has opened one
    have hnames : (∃ b ∈ blocks, b.name = name) ↔ ∃ openedAt, .openBlock openedAt name ∈ steps := by
      constructor
      · rintro ⟨b, hb, rfl⟩
        have hopened : b.opening ∈ opened := hblocks ▸ List.mem_map_of_mem hb
        obtain ⟨st, hst, hopens⟩ := List.mem_filterMap.mp hopened
        cases st with
        | openBlock at' name' =>
          cases hopens
          exact ⟨_, hst⟩
        | append passed message => cases hopens
        | closeBlock at' name' => cases hopens
        | skip => cases hopens
      · rintro ⟨openedAt, hst⟩
        have hopened : (name, openedAt) ∈ blocks.map (·.opening) :=
          hblocks ▸ List.mem_filterMap.mpr ⟨_, hst, rfl⟩
        obtain ⟨b, hb, hopening⟩ := List.mem_map.mp hopened
        exact ⟨b, hb, congrArg Prod.fst hopening⟩
    rw [hfind, List.find?_eq_none]
    simpa using not_congr hnames

end ScriptBench
