import Pseudoword.Distribution
import Pseudoword.Error
import Pseudoword.Log
import Std.Data.TreeMap

/-! # Transition tables

A table counts how often each column was observed in each row. Compiling it turns the counts of every
row into a distribution, from which columns are then sampled; what is observed later shows only after
the next compilation. Rows in which nothing was observed are dead. They are not stored, because
nearly all rows of a large table are dead.

* `Table.ofDimensions` — a table in which nothing was observed.
* `Table.count`, `Table.distribution?` — what a table holds.
* `Table.tally`, `Table.record` — count cells, without and with a check of their place.
* `Table.compile` — fix the distributions.
* `Table.pick?`, `Table.sample` — sample a row, without and with a check of its place.
-/

namespace Pseudoword

/-- Why something cannot be done with a table. -/
inductive TableFault where
  /-- There is no such row. -/
  | foreignRow (row rows : Int)
  /-- There is no such column. -/
  | foreignColumn (column columns : Int)
  /-- There are no columns to compile. -/
  | noColumns
  /-- Nothing was observed in the row. -/
  | deadRow (row : Int)
  deriving DecidableEq, Repr

/-- The wording of a fault. -/
def TableFault.message : TableFault → String
  | .foreignRow row rows => "Row " ++ toString row ++ " out of range [0, " ++ toString rows ++ ")"
  | .foreignColumn column columns =>
    "Column " ++ toString column ++ " out of range [0, " ++ toString columns ++ ")"
  | .noColumns => "range() arg 3 must not be zero"
  | .deadRow row => (Error.deadState row).message

/-- How often each column was observed in each row, and the distributions fixed last. -/
structure Table where
  /-- How many rows there are. A table with fewer than one has none. -/
  rows : Int
  /-- How many columns there are. -/
  columns : Int
  /-- The counts of the rows in which something was observed. -/
  counts : Std.TreeMap Nat (Array Nat)
  /-- The distributions of those rows at the last compilation. -/
  distributions : Std.TreeMap Nat Distribution
  /-- Whether nothing was observed since the last compilation, and there was one. -/
  compiled : Bool
  /-- How many observations were made. -/
  observations : Nat

/-- A place in a table, by row and column. -/
abbrev Cell := Nat × Nat

namespace Table

/-- The table in which nothing was observed. -/
def empty (rows columns : Int) : Table :=
  ⟨rows, columns, ∅, ∅, false, 0⟩

/-- The table of given dimensions in which nothing was observed, unless it has more cells than fit into
memory. -/
def ofDimensions (capacity rows columns : Int) : Except SizeFault Table :=
  match sizeFault? capacity rows columns with
  | some fault => .error fault
  | none => .ok (empty rows columns)

variable (t : Table)

/-! ## Contents -/

/-- The counts of a row in which nothing was observed. -/
def zeros : Array Nat :=
  Array.replicate t.columns.toNat 0

/-- The counts of a row. -/
def rowOf (row : Nat) : Array Nat :=
  match t.counts[row]? with
  | some counts => counts
  | none => t.zeros

/-- How often a column was observed in a row. -/
def count (row column : Nat) : Nat :=
  (t.rowOf row).getD column 0

/-- How many observations were made in a row. -/
def total (row : Nat) : Nat :=
  match t.counts[row]? with
  | some counts => Distribution.total counts.toList
  | none => 0

/-- The distribution of a row at the last compilation, if something had been observed in it. -/
def distribution? (row : Nat) : Option Distribution :=
  t.distributions[row]?.filter fun d => !d.isDead

/-- The levels of a row at the last compilation. -/
def levelsOf (row : Nat) : Array Binary64 :=
  match t.distributions[row]? with
  | some d => d.levels
  | none => Array.replicate t.columns.toNat Binary64.zero

/-- Whether nothing had been observed in a row at the last compilation. -/
def isDeadRow (row : Nat) : Bool :=
  (t.distribution? row).isNone

/-! ## Observing -/

/-- The counts with one more observation of a cell. -/
def bump (counts : Std.TreeMap Nat (Array Nat)) (cell : Cell) : Std.TreeMap Nat (Array Nat) :=
  counts.insert cell.1 ((counts[cell.1]?.getD t.zeros).modify cell.2 (· + 1))

/-- The table after observing cells, each of which has to be in it. -/
def tally (cells : List Cell) : Table :=
  { t with
    counts := cells.foldl t.bump t.counts
    observations := t.observations + cells.length
    compiled := t.compiled && cells.isEmpty }

/-- The row and column of a cell in the table, if they are. The row is looked at first. -/
def cell (row column : Int) : Except TableFault Cell :=
  if 0 ≤ row ∧ row < t.rows then
    if 0 ≤ column ∧ column < t.columns then .ok (row.toNat, column.toNat)
    else .error (.foreignColumn column t.columns)
  else .error (.foreignRow row t.rows)

/-- The cells at given places, or the first thing wrong with one. -/
def cells : List (Int × Int) → Except TableFault (List Cell)
  -- all cells are looked at before anything is counted
  | [] => .ok []
  | (row, column) :: places =>
    match t.cell row column with
    | .error fault => .error fault
    | .ok cell => (cells places).map (cell :: ·)

/-- The table after observing the cells at given places. If one of them is not in the table, nothing
is observed. -/
def record (places : List (Int × Int)) : Except TableFault Table :=
  (t.cells places).map t.tally

/-! ## Compiling -/

/-- How many slices of the counts hold nothing. A table of negative width has no slices. -/
def unobservedRows : Nat :=
  if t.columns < 0 then 0 else (List.range t.rows.toNat).countP (t.total · == 0)

/-- The table with the distributions that its counts give. -/
def settle : Table :=
  { t with
    distributions := t.counts.map fun _ counts => .ofCounts counts.toList
    compiled := true }

/-- Fix the distributions, unless there are no columns. -/
def compile : Except TableFault Table :=
  if t.columns = 0 then .error .noColumns else .ok t.settle

/-- The report of a compilation. -/
def compileRecord : LogRecord :=
  let dead := t.unobservedRows
  ⟨.info, "table",
    "Compiled transition table: " ++ toString (t.rows - dead) ++ " live rows, " ++ toString dead
      ++ " dead rows, " ++ toString t.observations ++ " observations"⟩

/-! ## Sampling -/

/-- The column that a draw selects in a row of the table, or nothing if the row is dead. -/
def pick? (row : Nat) (u : Draw) : Option Nat :=
  (t.distribution? row).map (·.pick u)

/-- The column that a draw selects in a row. -/
def sample (row : Int) (u : Draw) : Except TableFault Nat :=
  match t.cell row 0 with
  | .error fault => .error fault
  | .ok (r, _) =>
    match t.pick? r u with
    | none => .error (.deadRow row)
    | some column => .ok column

/-! ## Looking up -/

/-- How often a column was observed in a row, both of which have to be in the table. -/
def countAt (row column : Int) : Except TableFault Nat :=
  (t.cell row column).map fun (r, c) => t.count r c

/-- The counts of a row, which has to be in the table. -/
def countsOf (row : Int) : Except TableFault (List Nat) :=
  (t.cell row 0).map fun (r, _) => (t.rowOf r).toList

/-- The levels of a row, which has to be in the table. -/
def levelsAt (row : Int) : Except TableFault (List Binary64) :=
  (t.cell row 0).map fun (r, _) => (t.levelsOf r).toList

/-- Whether a row is dead, which has to be in the table. -/
def isDead (row : Int) : Except TableFault Bool :=
  (t.cell row (t.columns - 1)).map fun (r, _) => t.isDeadRow r

/-- How many rows are dead. A table that has rows needs a column to tell by. -/
def deadRows : Except TableFault Nat :=
  if t.rows ≤ 0 then .ok 0
  -- every row is told by its last column, so the first row decides whether there is one
  else (t.cell 0 (t.columns - 1)).map fun _ => (List.range t.rows.toNat).countP t.isDeadRow

/-- One value for each cell, row by row. Where the dimensions are negative, no row has a value, yet
there are as many cells as their product says. -/
def flat {α : Type} (row : Nat → Array α) (filler : α) : List α :=
  if t.columns < 0 then List.replicate (t.rows * t.columns).toNat filler
  else (List.range t.rows.toNat).flatMap fun r => (row r).toList

/-- All counts, row by row. -/
def allCounts : List Nat :=
  t.flat t.rowOf 0

/-- The cells in which something was observed, row by row, and how often. -/
def observed : List (Cell × Nat) :=
  (List.range t.rows.toNat).flatMap fun row =>
    (t.rowOf row).toList.zipIdx.filterMap fun (count, column) =>
      if count = 0 then none else some ((row, column), count)

/-- All levels, row by row. -/
def allLevels : List Binary64 :=
  t.flat t.levelsOf Binary64.zero

end Table
end Pseudoword
