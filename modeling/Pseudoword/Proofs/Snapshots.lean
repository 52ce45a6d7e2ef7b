import Mathlib
import Pseudoword.Proofs.Levels

/-! # Tables between compilations

A table counts at once, but what it samples from changes only when it is compiled. Whatever is asked of
it in whatever order, it is told by two lists of cells: those that were observed so far, and those that
had been observed at the last compilation.

* **`Table.Operation`**, **`Table.run`** — what may be asked of a table, and the table afterwards.
* **`Table.perform_cases`** — what one operation can do.
* **`Table.Normalises counts levels`** — levels that are the rounded parts of counts.
* **`Table.exists_ran`** — each run is told by two lists of cells.
* **`Table.normalises_run`** — hence levels, dead rows and samples are those of the last compilation. -/

namespace Pseudoword

namespace Table

variable {t : Table}

/-! ## (1) Operations -/

/-- **What may be asked of a table.** -/
inductive Operation where
  /-- Observe the cells at places. -/
  | record (places : List (Int × Int))
  /-- Fix the distributions. -/
  | compile
  /-- Sample a row. -/
  | sample (row : Int) (u : Draw)
  /-- Look up how often a column was observed in a row. -/
  | countAt (row column : Int)
  /-- Look up the counts of a row. -/
  | countsOf (row : Int)
  /-- Look up the levels of a row. -/
  | levelsAt (row : Int)
  /-- Look up whether a row is dead. -/
  | isDead (row : Int)
  /-- Look up how many rows are dead. -/
  | deadRows
  /-- Look at all counts, all levels or the state, none of which has a place that could be wrong. -/
  | look

/-- Whether an operation is a compilation. -/
def Operation.isCompile : Operation → Bool
  | .compile => true
  | _ => false

/-- The table after an operation, or what is wrong with the operation. -/
def perform? (t : Table) : Operation → Except TableFault Table
  | .record places => t.record places
  | .compile => t.compile
  | .sample row u => (t.sample row u).map fun _ => t
  | .countAt row column => (t.countAt row column).map fun _ => t
  | .countsOf row => (t.countsOf row).map fun _ => t
  | .levelsAt row => (t.levelsAt row).map fun _ => t
  | .isDead row => (t.isDead row).map fun _ => t
  | .deadRows => t.deadRows.map fun _ => t
  | .look => .ok t

/-- The table after an operation, which stays as it is if something is wrong with the operation. -/
def perform (t : Table) (operation : Operation) : Table :=
  match t.perform? operation with
  | .ok next => next
  | .error _ => t

/-- **The table after several operations**, any of which may be wrong. -/
def run (t : Table) (operations : List Operation) : Table :=
  operations.foldl perform t

/-- The places that an operation observes: none, unless it is a recording and all of them are in the
table. -/
def observedBy (t : Table) : Operation → List (Int × Int)
  | .record places =>
    match t.record places with
    | .ok _ => places
    | .error _ => []
  | _ => []

/-- **The places that operations observe**, in order. -/
def observedIn (t : Table) : List Operation → List (Int × Int)
  | [] => []
  | operation :: operations => t.observedBy operation ++ (t.perform operation).observedIn operations

/-- **The operations up to the last compilation**, and none if there was none. -/
def upToCompile (operations : List Operation) : List Operation :=
  operations.rdropWhile fun operation => !operation.isCompile

theorem run_concat (t : Table) (operations : List Operation) (operation : Operation) :
    t.run (operations ++ [operation]) = (t.run operations).perform operation := by
  rw [run, List.foldl_append, List.foldl_cons, List.foldl_nil, run]

theorem observedIn_concat (t : Table) (operations : List Operation) (operation : Operation) :
    t.observedIn (operations ++ [operation])
      = t.observedIn operations ++ (t.run operations).observedBy operation := by
  induction operations generalizing t with
  | nil => exact List.append_nil _
  | cons first operations ih =>
      rw [List.cons_append, observedIn, ih, observedIn, List.append_assoc]
      rfl

theorem upToCompile_concat (operations : List Operation) (operation : Operation) :
    upToCompile (operations ++ [operation])
      = if operation.isCompile then operations ++ [operation] else upToCompile operations := by
  rw [upToCompile, List.rdropWhile_concat, upToCompile]
  cases operation.isCompile <;> rfl

/-- Looking something up leaves the table as it is, whether it is found or not. -/
theorem map_const_eq_self {α : Type} (t : Table) (answer : Except TableFault α) :
    (match answer.map fun _ => t with
      | .ok next => next
      | .error _ => t) = t := by
  cases answer <;> rfl

/-- **What an operation can do that is no compilation**: count some cells, which may be none. -/
theorem exists_perform_eq_tally {operation : Operation} (hother : operation.isCompile = false) :
    ∃ cells, (∀ cell ∈ cells, t.Contains cell)
      ∧ t.observedBy operation = cells.map placeOf ∧ t.perform operation = t.tally cells := by
  -- where an operation observes nothing, no cells are counted
  have hnone : ∀ operation : Operation, t.observedBy operation = [] → t.perform operation = t →
      ∃ cells, (∀ cell ∈ cells, t.Contains cell)
        ∧ t.observedBy operation = cells.map placeOf ∧ t.perform operation = t.tally cells :=
    fun _ hobserved hperform => ⟨[], nofun, hobserved, hperform.trans tally_nil.symm⟩
  cases operation with
  | record places =>
      cases hcells : t.cells places with
      | error fault =>
          have hrecord : t.record places = .error fault := by
            rw [record, hcells]
            rfl
          exact hnone _ (by rw [observedBy, hrecord]) (by rw [perform, perform?, hrecord])
      | ok cells =>
          have hrecord : t.record places = .ok (t.tally cells) := by
            rw [record, hcells]
            rfl
          obtain ⟨hplaces, hcontains⟩ := cells_eq_ok hcells
          exact ⟨cells, hcontains, by rw [observedBy, hrecord, hplaces],
            by rw [perform, perform?, hrecord]⟩
  | compile => cases hother
  | sample row u => exact hnone _ rfl (t.map_const_eq_self _)
  | countAt row column => exact hnone _ rfl (t.map_const_eq_self _)
  | countsOf row => exact hnone _ rfl (t.map_const_eq_self _)
  | levelsAt row => exact hnone _ rfl (t.map_const_eq_self _)
  | isDead row => exact hnone _ rfl (t.map_const_eq_self _)
  | deadRows => exact hnone _ rfl (t.map_const_eq_self _)
  | look => exact hnone _ rfl rfl

/-- **What one operation can do**: fix the distributions, or count some cells, which may be none. -/
theorem perform_cases (hcolumns : t.columns ≠ 0) (operation : Operation) :
    (operation = .compile ∧ t.observedBy operation = [] ∧ t.perform operation = t.settle)
      ∨ (operation.isCompile = false ∧ ∃ cells, (∀ cell ∈ cells, t.Contains cell)
        ∧ t.observedBy operation = cells.map placeOf ∧ t.perform operation = t.tally cells) := by
  cases operation with
  | compile => exact .inl ⟨rfl, rfl, by rw [perform, perform?, compile, if_neg hcolumns]⟩
  | _ => exact .inr ⟨rfl, exists_perform_eq_tally rfl⟩

/-! ## (2) Levels that normalise counts -/

/-- **Levels that normalise counts**: the level of a column is the sum of the counts up to it over the sum
of all, rounded to the nearest number. Without any count, all levels are zero. -/
structure Normalises (counts : List Nat) (levels : List Binary64) : Prop where
  /-- There is a level for each count. -/
  length_eq : levels.length = counts.length
  /-- The level of a column is the rounded quotient of two sums. -/
  isRounding : 0 < counts.sum → ∀ (column : Nat) (h : column < levels.length),
    Binary64.IsRounding (counts.take (column + 1)).sum counts.sum levels[column]
  /-- Without any count, all levels are zero. -/
  eq_zero : counts.sum = 0 → ∀ level ∈ levels, level = Binary64.zero

variable {cells : List Cell}

/-- The counts of a row add up to its cells. -/
theorem Tallies.sum_rowOf (h : t.Tallies cells) (row : Nat) :
    (t.rowOf row).toList.sum = visits cells row := by
  rw [h.toList_rowOf]
  exact total_rowCounts (h.lt_columns row)

/-- **Compiling normalises the counts of each row.** -/
theorem Tallies.normalises_settle (h : t.Tallies cells) (row : Nat) :
    Normalises (t.rowOf row).toList (t.settle.levelsOf row).toList := by
  refine ⟨?_, fun hpos column hcolumn => ?_, fun hzero level hlevel => ?_⟩
  · rw [h.toList_levelsOf_settle, h.toList_rowOf, rowCounts, List.length_map, List.length_map]
  · simp only [h.toList_levelsOf_settle] at hcolumn ⊢
    rw [List.length_map, List.length_range] at hcolumn
    have htake : ((t.rowOf row).toList.take (column + 1)).sum = before cells row (column + 1) := by
      rw [h.toList_rowOf]
      exact total_take_rowCounts cells row hcolumn
    rw [h.sum_rowOf] at hpos
    rw [h.sum_rowOf, htake, List.getElem_map, List.getElem_range]
    exact Binary64.isRounding_ofRatio _ hpos
  · rw [h.sum_rowOf] at hzero
    rw [h.toList_levelsOf_settle] at hlevel
    obtain ⟨column, -, rfl⟩ := List.mem_map.mp hlevel
    exact levelOf_eq_zero hzero column

/-- **After compiling, a row is dead exactly if it has no count.** -/
theorem Tallies.isDeadRow_settle (h : t.Tallies cells) (row : Nat) :
    t.settle.isDeadRow row = decide ((t.rowOf row).toList.sum = 0) := by
  rw [isDeadRow_eq_isNone_pick? _ row .negative, h.sum_rowOf, Bool.eq_iff_iff,
    Option.isNone_iff_eq_none, h.samples_settle.pick?_eq_none_iff_visits, decide_eq_true_iff]

/-! ## (3) What a run leads to -/

/-- The table after observing cells, with the distributions of other ones. -/
def between (t : Table) (cells settled : List Cell) (compiled : Bool) : Table :=
  { t.tally cells with distributions := (t.tally settled).settle.distributions, compiled := compiled }

/-- Observing more cells leaves the distributions. -/
theorem tally_between (t : Table) (cells settled more : List Cell) (compiled : Bool) :
    (t.between cells settled compiled).tally more
      = t.between (cells ++ more) settled (compiled && more.isEmpty) := by
  rw [between, between, tally_append]
  rfl

/-- Compiling makes the distributions those of all cells observed. -/
theorem settle_between (t : Table) (cells settled : List Cell) (compiled : Bool) :
    (t.between cells settled compiled).settle = t.between cells cells true := rfl

/-- **A run told by two lists of cells**: those that were observed, and those that had been observed at
the last compilation. -/
structure Ran (t : Table) (operations : List Operation) (cells settled : List Cell) : Prop where
  /-- The cells are those at the places observed. -/
  observed_eq : t.observedIn operations = cells.map placeOf
  /-- They are in the table. -/
  contains : ∀ cell ∈ cells, t.Contains cell
  /-- So are those of the last compilation. -/
  contains_settled : ∀ cell ∈ settled, t.Contains cell
  /-- The table counts the cells and has the distributions of the last compilation. -/
  run_eq : ∃ compiled, t.run operations = t.between cells settled compiled
  /-- At the last compilation, it counted the cells of which it had the distributions. -/
  run_upToCompile_eq : ∃ compiled, t.run (upToCompile operations) = t.between settled settled compiled

/-- **One more operation** adds cells to those observed, or settles them. -/
theorem Ran.concat {operations : List Operation} {settled : List Cell} (hcolumns : t.columns ≠ 0)
    (h : t.Ran operations cells settled) (operation : Operation) :
    ∃ cells' settled', t.Ran (operations ++ [operation]) cells' settled' := by
  obtain ⟨compiled, hrun⟩ := h.run_eq
  have hkept : (t.run operations).columns ≠ 0 := by
    rw [hrun]
    exact hcolumns
  rcases perform_cases hkept operation with
    ⟨rfl, hobserved, hperform⟩ | ⟨hother, more, hmore, hobserved, hperform⟩
  · -- a compilation settles what was observed so far
    have hsettled : t.run (operations ++ [.compile]) = t.between cells cells true := by
      rw [run_concat, hperform, hrun, settle_between]
    have hlast : upToCompile (operations ++ [.compile]) = operations ++ [.compile] :=
      upToCompile_concat operations .compile
    refine ⟨cells, cells, ?_, h.contains, h.contains, ⟨true, hsettled⟩, ⟨true, ?_⟩⟩
    · rw [observedIn_concat, hobserved, List.append_nil, h.observed_eq]
    · rw [hlast, hsettled]
  · -- any other operation leaves what is settled, and the last compilation where it was
    rw [hrun] at hmore
    refine ⟨cells ++ more, settled, ?_, fun cell hcell => ?_, h.contains_settled,
      ⟨compiled && more.isEmpty, ?_⟩, ?_⟩
    · rw [observedIn_concat, hobserved, h.observed_eq, List.map_append]
    · exact (List.mem_append.mp hcell).elim (h.contains cell) (hmore cell)
    · rw [run_concat, hperform, hrun, tally_between]
    · rw [upToCompile_concat, hother]
      exact h.run_upToCompile_eq

/-- **Every run is told by two lists of cells.** -/
theorem exists_ran (rows : Int) {columns : Int} (hcolumns : columns ≠ 0)
    (operations : List Operation) :
    ∃ cells settled, (empty rows columns).Ran operations cells settled := by
  -- from the right, since what is settled depends on the last compilation
  induction operations using List.reverseRecOn with
  | nil => exact ⟨[], [], rfl, nofun, nofun, ⟨false, rfl⟩, ⟨false, rfl⟩⟩
  | append_singleton operations operation ih =>
      obtain ⟨cells, settled, h⟩ := ih
      exact h.concat hcolumns operation

section Ran

variable {operations : List Operation} {settled : List Cell}

/-- Places are the same in all tables of a run. -/
theorem Ran.cell_eq (h : t.Ran operations cells settled) (row column : Int) :
    (t.run operations).cell row column = t.cell row column := by
  obtain ⟨compiled, hrun⟩ := h.run_eq
  rw [hrun]
  rfl

theorem Ran.rows_eq (h : t.Ran operations cells settled) : (t.run operations).rows = t.rows := by
  obtain ⟨compiled, hrun⟩ := h.run_eq
  rw [hrun]
  rfl

theorem Ran.columns_eq (h : t.Ran operations cells settled) :
    (t.run operations).columns = t.columns := by
  obtain ⟨compiled, hrun⟩ := h.run_eq
  rw [hrun]
  rfl

/-- **What a run tallies** are the cells observed. -/
theorem Ran.tallies (h : t.Ran operations cells settled) (hfresh : t.Tallies []) :
    (t.run operations).Tallies cells := by
  obtain ⟨compiled, hrun⟩ := h.run_eq
  have hcells : (t.tally cells).Tallies cells := hfresh.tally h.contains
  rw [hrun]
  exact ⟨hcells.size_rowOf, hcells.count_eq, hcells.observations_eq, hcells.contains⟩

/-- **The levels of a row normalise its counts at the last compilation.** -/
theorem Ran.normalises (h : t.Ran operations cells settled) (hfresh : t.Tallies []) (row : Nat) :
    Normalises ((t.run (upToCompile operations)).rowOf row).toList
      ((t.run operations).levelsOf row).toList := by
  obtain ⟨_, hrun⟩ := h.run_eq
  obtain ⟨_, hsettled⟩ := h.run_upToCompile_eq
  have hpast : (t.tally settled).Tallies settled := hfresh.tally h.contains_settled
  rw [hrun, hsettled]
  exact hpast.normalises_settle row

/-- **A row is dead exactly if it had no count at the last compilation.** -/
theorem Ran.isDeadRow_eq (h : t.Ran operations cells settled) (hfresh : t.Tallies []) (row : Nat) :
    (t.run operations).isDeadRow row
      = decide (((t.run (upToCompile operations)).rowOf row).toList.sum = 0) := by
  obtain ⟨_, hrun⟩ := h.run_eq
  obtain ⟨_, hsettled⟩ := h.run_upToCompile_eq
  have hpast : (t.tally settled).Tallies settled := hfresh.tally h.contains_settled
  rw [hrun, hsettled]
  exact hpast.isDeadRow_settle row

/-- **Samples are those of the last compilation.** -/
theorem Ran.sample_eq (h : t.Ran operations cells settled) (row : Int) (u : Draw) :
    (t.run operations).sample row u = (t.run (upToCompile operations)).sample row u := by
  obtain ⟨_, hrun⟩ := h.run_eq
  obtain ⟨_, hsettled⟩ := h.run_upToCompile_eq
  rw [hrun, hsettled]
  rfl

/-- **Compiling after a run** is compiling after observing all at once. -/
theorem Ran.compile_eq (h : t.Ran operations cells settled) :
    t.record (t.observedIn operations) = .ok (t.tally cells)
      ∧ (t.run operations).compile = (t.tally cells).compile := by
  obtain ⟨_, hrun⟩ := h.run_eq
  rw [h.observed_eq, hrun]
  exact ⟨record_of_contains h.contains, rfl⟩

end Ran

/-- **Whether a table is compiled after an operation**: if this was a compilation, or the table was
compiled before and nothing was observed. -/
theorem compiled_perform_iff (hcolumns : t.columns ≠ 0) (operation : Operation) :
    (t.perform operation).compiled = true
      ↔ operation = .compile ∨ t.compiled = true ∧ t.observedBy operation = [] := by
  rcases perform_cases hcolumns operation with
    ⟨rfl, -, hperform⟩ | ⟨hother, cells, -, hobserved, hperform⟩
  · rw [hperform]
    exact iff_of_true rfl (.inl rfl)
  · have hne : operation ≠ .compile := fun heq => by
      rw [heq] at hother
      cases hother
    rw [hperform, hobserved, List.map_eq_nil_iff, ← List.isEmpty_iff, or_iff_right hne,
      ← Bool.and_eq_true_iff]
    rfl

theorem columns_perform (hcolumns : t.columns ≠ 0) (operation : Operation) :
    (t.perform operation).columns = t.columns := by
  rcases perform_cases hcolumns operation with ⟨-, -, hperform⟩ | ⟨-, cells, -, -, hperform⟩
  · rw [hperform]
    rfl
  · rw [hperform]
    rfl

/-- **Whether a table is compiled after a run**: if nothing was observed since some compilation, or none
at all and the table was compiled before. -/
theorem compiled_run_iff (hcolumns : t.columns ≠ 0) (operations : List Operation) :
    (t.run operations).compiled = true
      ↔ (t.compiled = true ∧ t.observedIn operations = [])
        ∨ ∃ earlier later, operations = earlier ++ .compile :: later
          ∧ (t.run (earlier ++ [.compile])).observedIn later = [] := by
  induction operations generalizing t with
  | nil => simp [run, observedIn]
  | cons operation operations ih =>
      have hkept : (t.perform operation).columns ≠ 0 := by rwa [columns_perform hcolumns]
      rw [run, List.foldl_cons, ← run, ih hkept, compiled_perform_iff hcolumns, observedIn,
        List.append_eq_nil_iff]
      constructor
      · rintro (⟨rfl | ⟨hcompiled, hfirst⟩, hrest⟩ | ⟨earlier, later, rfl, hlater⟩)
        · exact .inr ⟨[], operations, rfl, hrest⟩
        · exact .inl ⟨hcompiled, hfirst, hrest⟩
        · exact .inr ⟨operation :: earlier, later, rfl, hlater⟩
      · rintro (⟨hcompiled, hfirst, hrest⟩ | ⟨earlier, later, heq, hlater⟩)
        · exact .inl ⟨.inr ⟨hcompiled, hfirst⟩, hrest⟩
        · -- the compilation is the first operation or one of the others
          cases earlier with
          | nil =>
              cases heq
              exact .inl ⟨.inl rfl, hlater⟩
          | cons first earlier =>
              cases heq
              exact .inr ⟨earlier, later, rfl, hlater⟩

/-! ## (4) Every run of operations -/

/-- Without a compilation, there are no operations up to it. -/
theorem upToCompile_eq_nil {operations : List Operation} (h : .compile ∉ operations) :
    upToCompile operations = [] := by
  refine List.rdropWhile_eq_nil_iff.mpr fun operation hmem => ?_
  cases operation with
  | compile => exact absurd hmem h
  | _ => rfl

/-- **Every run of operations**, wrong ones included. The levels of each row normalise its counts as they
stood at the last compilation, or are all zero if there was none; a row is dead exactly if it had no count
then, and samples are those of that time. The table is compiled exactly if nothing was observed since a
compilation, and has as many observations as all of its counts say. Compiling it leads to the same table
as observing all at once in a fresh one and compiling that. -/
theorem normalises_run (rows : Int) {columns : Int} (hcolumns : 1 ≤ columns)
    (operations : List Operation) :
    let fresh := empty rows columns
    let t := fresh.run operations
    let settled := fresh.run (upToCompile operations)
    (∀ row : Nat, row < rows → settled.countsOf row = .ok (settled.rowOf row).toList
        ∧ t.levelsAt row = .ok (t.levelsOf row).toList
        ∧ (t.levelsOf row).size = columns
        ∧ Normalises (settled.rowOf row).toList (t.levelsOf row).toList
        ∧ t.isDead row = .ok (decide ((settled.rowOf row).toList.sum = 0)))
      ∧ t.allLevels = (List.range rows.toNat).flatMap (fun row => (t.levelsOf row).toList)
      ∧ t.deadRows = .ok ((List.range rows.toNat).countP fun row =>
        (settled.rowOf row).toList.sum = 0)
      ∧ (∀ row u, t.sample row u = settled.sample row u)
      ∧ (.compile ∉ operations → settled = fresh ∧ ∀ row, (fresh.rowOf row).toList.sum = 0)
      ∧ (t.compiled = true ↔ ∃ earlier later, operations = earlier ++ .compile :: later
        ∧ (fresh.run (earlier ++ [.compile])).observedIn later = [])
      ∧ t.observations = t.allCounts.sum
      ∧ ∃ once table, fresh.record (fresh.observedIn operations) = .ok once
        ∧ once.compile = .ok table ∧ t.compile = .ok table := by
  intro fresh t settled
  have hne : columns ≠ 0 := by omega
  have hfresh : fresh.Tallies [] := .empty rows columns
  obtain ⟨cells, past, h⟩ := exists_ran rows hne operations
  obtain ⟨cells', past', h'⟩ := exists_ran rows hne (upToCompile operations)
  have hrows : t.rows = rows := h.rows_eq
  have hcolumn : t.columns = columns := h.columns_eq
  have hdead : ∀ row, t.isDeadRow row = decide ((settled.rowOf row).toList.sum = 0) :=
    h.isDeadRow_eq hfresh
  -- the first and the last place of a row are in the table
  have hfirst : ∀ row : Nat, row < rows → fresh.cell row 0 = .ok (row, 0) := fun row hrow =>
    cell_of_contains ⟨hrow, hcolumns⟩
  have hlast : ∀ row : Nat, row < rows →
      t.cell row (t.columns - 1) = .ok (row, columns.toNat - 1) := fun row hrow => by
    have hplace : t.columns - 1 = ((columns.toNat - 1 : Nat) : Int) := by omega
    rw [h.cell_eq, hplace]
    refine cell_of_contains ⟨hrow, ?_⟩
    show ((columns.toNat - 1 : Nat) : Int) < columns
    omega
  refine ⟨fun row hrow => ⟨?_, ?_, ?_, h.normalises hfresh row, ?_⟩, ?_, ?_, h.sample_eq,
    fun hnone => ⟨?_, fun row => ?_⟩, ?_, ?_, fresh.tally cells, (fresh.tally cells).settle,
    h.compile_eq.1, if_neg hne, h.compile_eq.2.trans (if_neg hne)⟩
  · rw [countsOf, h'.cell_eq, hfirst row hrow]
    rfl
  · rw [levelsAt, h.cell_eq, hfirst row hrow]
    rfl
  · have hlength := (h.normalises hfresh row).length_eq
    rw [Array.length_toList, Array.length_toList, (h'.tallies hfresh).size_rowOf, h'.columns_eq]
      at hlength
    show ((t.levelsOf row).size : Int) = columns
    rw [hlength]
    exact Int.toNat_of_nonneg (show 0 ≤ columns by omega)
  · rw [isDead, hlast row hrow, ← hdead]
    rfl
  · rw [allLevels, flat, hrows, if_neg (by omega)]
  · have hcount : (List.range rows.toNat).countP t.isDeadRow
        = (List.range rows.toNat).countP fun row => (settled.rowOf row).toList.sum = 0 :=
      List.countP_congr fun row _ => by rw [hdead]
    rw [deadRows, hrows, hcount]
    split
    · next hrows =>
      rw [Int.toNat_of_nonpos hrows]
      rfl
    · next hrows =>
      have hcell : t.cell 0 (t.columns - 1) = .ok (0, columns.toNat - 1) := hlast 0 (by omega)
      rw [hcell]
      rfl
  · show fresh.run (upToCompile operations) = fresh
    rw [upToCompile_eq_nil hnone]
    rfl
  · rw [hfresh.toList_rowOf]
    exact total_rowCounts_eq_zero_iff.mpr fun _ _ => List.not_mem_nil
  · rw [compiled_run_iff (t := fresh) hne]
    exact or_iff_right fun hcompiled => Bool.false_ne_true hcompiled.1
  · exact ((h.tallies hfresh).sum_allCounts (show 0 ≤ t.columns by omega)).symm

/-- In a table of two rows, the second row stays dead until the next compilation, although something was
recorded in it; a recording of no places, and one with a foreign place, change nothing. -/
theorem normalises_staleRow :
    let fresh := empty 2 2
    let operations : List Operation := [.record [(0, 1), (0, 1)], .compile, .record [(1, 0), (2, 0)],
      .record [], .record [(1, 0)], .deadRows]
    let t := fresh.run operations
    fresh.observedIn operations = [(0, 1), (0, 1), (1, 0)] ∧ t.observations = 3
      ∧ t.isDead 0 = .ok false ∧ t.isDead 1 = .ok true ∧ t.deadRows = .ok 1
      ∧ ∃ once table, fresh.record [(0, 1), (0, 1), (1, 0)] = .ok once ∧ once.compile = .ok table
        ∧ t.compile = .ok table := by
  intro fresh operations t
  obtain ⟨hrows, -, hdead, -, -, -, hsum, honce⟩ :=
    normalises_run 2 (show (1 : Int) ≤ 2 by decide) operations
  have hobserved : fresh.observedIn operations = [(0, 1), (0, 1), (1, 0)] := by decide +kernel
  obtain ⟨-, -, -, -, hlive⟩ := hrows 0 (by decide)
  obtain ⟨-, -, -, -, hstale⟩ := hrows 1 (by decide)
  refine ⟨hobserved, hsum.trans (by decide +kernel), hlive.trans (by decide +kernel),
    hstale.trans (by decide +kernel), hdead.trans (by decide +kernel), hobserved ▸ honce⟩

end Table
end Pseudoword
