import Mathlib
import Pseudoword.Proofs.Snapshots
import Pseudoword.Proofs.Spelling

/-! # Recording in place

A table is kept as two long lists, one of all counts and one of all levels, row after row. To record places,
the offset of every place is found first, and only then are the counts at the offsets raised, one by one. So a
place that is not in the table breaks off before anything was written. And as no two cells have the same
offset, a count is raised exactly as often as its place occurs, whatever the order.

* **`Sheet`**, **`Sheet.record`** — a table as it is kept, and recording in place.
* **`Table.offset_eq_iff`** — no two cells of a table have the same offset.
* **`Table.allCounts_tally`** — to count cells is to raise the counts at their offsets.
* **`Table.Tallies.record_sheet`** — in place, recording comes to the same as in a table that is not kept.
* **`Table.records_run`** — recording after every run of operations. -/

namespace Pseudoword

/-! ## (1) Steps that may break off -/

section Steps

variable {ε σ α β : Type} {step : EStateM ε σ α} {more : α → EStateM ε σ β} {before after : σ}

/-- After a step that is done comes the next one, on what the first one left. -/
theorem bind_of_ok {a : α} (h : step before = .ok a after) : (step >>= more) before = more a after := by
  show EStateM.bind step more before = _
  rw [EStateM.bind, h]

/-- After a step that broke off comes none. -/
theorem bind_of_error {fault : ε} (h : step before = .error fault after) :
    (step >>= more) before = .error fault after := by
  show EStateM.bind step more before = _
  rw [EStateM.bind, h]

end Steps

/-! ## (2) Sheets -/

/-- **A table as it is kept**: all counts and all levels, row after row. -/
structure Sheet where
  /-- How many rows there are. -/
  rows : Int
  /-- How many columns there are. -/
  columns : Int
  /-- The counts of the first row, then those of the second one, and so on. -/
  counts : List Nat
  /-- The levels, in the same order. -/
  levels : List Binary64
  /-- Whether nothing was observed since the last compilation, and there was one. -/
  compiled : Bool
  /-- How many observations were made. -/
  observations : Nat

/-- The sheet of a table. -/
def Table.sheet (t : Table) : Sheet :=
  ⟨t.rows, t.columns, t.allCounts, t.allLevels, t.compiled, t.observations⟩

/-- Why something cannot be done with a sheet. -/
inductive SheetFault where
  /-- A place is not in the table. -/
  | table (fault : TableFault)
  /-- There is no count at an offset. -/
  | noOffset (offset : Nat)

namespace Sheet

/-- **Steps that write on a sheet** and may break off. What was written before stays written. -/
abbrev Keeping :=
  EStateM SheetFault Sheet

/-- The offset of a place, if it is in the table. The row is looked at first. -/
def offset (row column : Int) : Keeping Nat := do
  let sheet ← get
  if 0 ≤ row ∧ row < sheet.rows then
    if 0 ≤ column ∧ column < sheet.columns then return (row * sheet.columns + column).toNat
    else throw (.table (.foreignColumn column sheet.columns))
  else throw (.table (.foreignRow row sheet.rows))

/-- The offsets of places. -/
def offsets : List (Int × Int) → Keeping (List Nat)
  | [] => return []
  | (row, column) :: places => do
    let first ← offset row column
    return first :: (← offsets places)

/-- Raise the counts at offsets, one by one. -/
def raise : List Nat → Keeping Unit
  | [] => return
  | offset :: offsets => do
    if offset < (← get).counts.length then
      modify fun sheet => { sheet with counts := sheet.counts.modify offset (· + 1) }
      raise offsets
    else throw (.noOffset offset)

/-- **Record places**: find the offsets of all of them, raise the counts there, then add up the
observations. -/
def record (places : List (Int × Int)) : Keeping Unit := do
  let offsets ← offsets places
  raise offsets
  modify fun sheet =>
    { sheet with
      observations := sheet.observations + offsets.length
      compiled := sheet.compiled && offsets.isEmpty }

/-- Look up the count of a place. -/
def countAt (row column : Int) : Keeping Nat := do
  let offset ← offset row column
  match (← get).counts[offset]? with
  | none => throw (.noOffset offset)
  | some count => return count

/-- What is found of a table on its sheet, which stays as it is. -/
def found {α : Type} (sheet : Sheet) : Except TableFault α → EStateM.Result SheetFault Sheet α
  | .error fault => .error (.table fault) sheet
  | .ok a => .ok a sheet

/-- **Raising counts one by one**, if there is one at each offset. -/
theorem raise_eq {offsets : List Nat} {sheet : Sheet}
    (h : ∀ offset ∈ offsets, offset < sheet.counts.length) :
    raise offsets sheet = .ok () { sheet with
      counts := offsets.foldl (fun counts offset => counts.modify offset (· + 1)) sheet.counts } := by
  induction offsets generalizing sheet with
  | nil => rfl
  | cons offset offsets ih =>
      show (if offset < sheet.counts.length then
          modify (fun sheet => { sheet with counts := sheet.counts.modify offset (· + 1) }) >>=
            fun _ => raise offsets
        else throw (.noOffset offset) : Keeping Unit) sheet = _
      rw [if_pos (h offset (by simp))]
      -- as many counts are left for the offsets to come
      refine (bind_of_ok rfl).trans (ih fun later hlater => ?_)
      show later < (sheet.counts.modify offset (· + 1)).length
      rw [List.length_modify]
      exact h later (List.mem_cons_of_mem _ hlater)

end Sheet

namespace Table

variable {t : Table} {cells : List Cell} {cell : Cell}

/-! ## (3) Offsets -/

/-- The offset of a cell: the cells of earlier rows come before it, and those of earlier columns. -/
def offset (t : Table) (cell : Cell) : Nat :=
  cell.1 * t.columns.toNat + cell.2

/-- **No two cells of a table have the same offset.** -/
theorem offset_eq_iff {other : Cell} (hcell : t.Contains cell) (hother : t.Contains other) :
    t.offset cell = t.offset other ↔ cell = other := by
  constructor
  · intro h
    -- the row is the quotient of the offset by the number of columns
    have hrow : ∀ {one : Cell}, t.Contains one → t.offset one / t.columns.toNat = one.1 := by
      intro one hone
      have hlt : one.2 < t.columns.toNat := Int.lt_toNat.mpr hone.2
      rw [offset, Nat.mul_comm, Nat.mul_add_div (Nat.zero_lt_of_lt hlt), Nat.div_eq_of_lt hlt,
        Nat.add_zero]
    have hsame : cell.1 = other.1 := by rw [← hrow hcell, ← hrow hother, h]
    rw [offset, offset, hsame] at h
    exact Prod.ext hsame (Nat.add_left_cancel h)
  · rintro rfl
    rfl

/-- As many values stand in rows of one length as the rows have together. -/
theorem length_flatMap_range {α : Type} {row : Nat → List α} {width : Nat}
    (h : ∀ i, (row i).length = width) (rows : Nat) :
    ((List.range rows).flatMap row).length = rows * width := by
  simp [List.length_flatMap, h]

/-- **Where a value stands** among rows of one length. -/
theorem getElem?_flatMap_range {α : Type} {row : Nat → List α} {width : Nat}
    (h : ∀ i, (row i).length = width) {rows i j : Nat} (hi : i < rows) (hj : j < width) :
    ((List.range rows).flatMap row)[i * width + j]? = (row i)[j]? := by
  induction rows with
  | zero => exact absurd hi (Nat.not_lt_zero i)
  | succ rows ih =>
      have hlength := length_flatMap_range h rows
      rw [List.range_succ, List.flatMap_append, List.flatMap_singleton]
      rcases Nat.lt_succ_iff_lt_or_eq.mp hi with hearlier | rfl
      · have hbefore : (i + 1) * width ≤ rows * width := Nat.mul_le_mul_right width hearlier
        rw [Nat.succ_mul] at hbefore
        rw [List.getElem?_append_left (by omega), ih hearlier]
      · rw [List.getElem?_append_right (by omega), hlength, Nat.add_sub_cancel_left]

/-- **All counts, in a table that has columns**: one for each cell. -/
theorem allCounts_of_contains (hcell : t.Contains cell) :
    t.allCounts = (List.range t.rows.toNat).flatMap fun row => (t.rowOf row).toList := by
  have hcolumn := hcell.2
  rw [allCounts, flat, if_neg (by omega)]

/-- The rows of a table are all of one length. -/
theorem Tallies.length_toList_rowOf (h : t.Tallies cells) (row : Nat) :
    (t.rowOf row).toList.length = t.columns.toNat := by
  rw [Array.length_toList, h.size_rowOf]

/-- **The count of a cell stands at its offset.** -/
theorem Tallies.getElem?_allCounts (h : t.Tallies cells) (hcell : t.Contains cell) :
    t.allCounts[t.offset cell]? = some (cells.count cell) := by
  have hrow : cell.1 < t.rows.toNat := Int.lt_toNat.mpr hcell.1
  have hcolumn : cell.2 < t.columns.toNat := Int.lt_toNat.mpr hcell.2
  rw [allCounts_of_contains hcell, offset, getElem?_flatMap_range h.length_toList_rowOf hrow hcolumn,
    h.toList_rowOf, rowCounts, List.getElem?_map, List.getElem?_range hcolumn]
  rfl

/-- There is a count at the offset of each cell. -/
theorem Tallies.offset_lt (h : t.Tallies cells) (hcell : t.Contains cell) :
    t.offset cell < t.allCounts.length :=
  (List.getElem?_eq_some_iff.mp (h.getElem?_allCounts hcell)).1

/-- Each offset at which there is a count is that of a cell, if there are cells at all. -/
theorem Tallies.exists_offset_eq (h : t.Tallies cells) (hcell : t.Contains cell) {offset : Nat}
    (hoffset : offset < t.allCounts.length) :
    ∃ other, t.Contains other ∧ t.offset other = offset := by
  rw [allCounts_of_contains hcell, length_flatMap_range h.length_toList_rowOf, Nat.mul_comm] at hoffset
  have hwidth : 0 < t.columns.toNat := Nat.zero_lt_of_lt (Int.lt_toNat.mpr hcell.2)
  refine ⟨(offset / t.columns.toNat, offset % t.columns.toNat), ⟨?_, ?_⟩, ?_⟩
  · exact Int.lt_toNat.mp (Nat.div_lt_of_lt_mul hoffset)
  · exact Int.lt_toNat.mp (Nat.mod_lt _ hwidth)
  · exact Nat.div_add_mod' _ _

/-- **To count a cell is to raise the count at its offset**, and no other one. -/
theorem Tallies.allCounts_tally_singleton (h : t.Tallies cells) (hcell : t.Contains cell) :
    (t.tally [cell]).allCounts = t.allCounts.modify (t.offset cell) (· + 1) := by
  have hnext := h.tally_singleton hcell
  have hlength : (t.tally [cell]).allCounts.length = t.allCounts.length := by
    rw [allCounts_of_contains hcell, allCounts_of_contains (t := t.tally [cell]) hcell,
      length_flatMap_range h.length_toList_rowOf, length_flatMap_range hnext.length_toList_rowOf]
    rfl
  refine List.ext_getElem? fun place => ?_
  rw [List.getElem?_modify]
  by_cases hplace : place < t.allCounts.length
  · obtain ⟨other, hother, rfl⟩ := h.exists_offset_eq hcell hplace
    have hraised : (t.tally [cell]).allCounts[t.offset other]? = some ((cells ++ [cell]).count other) :=
      hnext.getElem?_allCounts hother
    rw [hraised, h.getElem?_allCounts hother, List.count_append, List.count_singleton]
    simp only [offset_eq_iff hcell hother, beq_iff_eq]
    split <;> rfl
  · rw [List.getElem?_eq_none (by omega), List.getElem?_eq_none (by omega)]
    rfl

/-- **To count cells is to raise the counts at their offsets**, one by one. -/
theorem Tallies.allCounts_tally (h : t.Tallies cells) {more : List Cell}
    (hmore : ∀ cell ∈ more, t.Contains cell) :
    (t.tally more).allCounts
      = (more.map t.offset).foldl (fun counts offset => counts.modify offset (· + 1)) t.allCounts := by
  induction more generalizing t cells with
  | nil => rw [tally_nil, List.map_nil, List.foldl_nil]
  | cons cell more ih =>
      have hcell : t.Contains cell := hmore cell (by simp)
      rw [tally_cons, List.map_cons, List.foldl_cons, ← h.allCounts_tally_singleton hcell]
      exact ih (h.tally_singleton hcell) fun d hd => hmore d (List.mem_cons_of_mem _ hd)

/-! ## (4) Recording in place and in a table that is not kept -/

/-- Finding an offset in place is looking up a cell. -/
theorem offset_sheet (t : Table) (row column : Int) :
    Sheet.offset row column t.sheet = t.sheet.found ((t.cell row column).map t.offset) := by
  show (if 0 ≤ row ∧ row < t.rows then
      if 0 ≤ column ∧ column < t.columns then return (row * t.columns + column).toNat
      else throw (.table (.foreignColumn column t.columns))
    else throw (.table (.foreignRow row t.rows)) : Sheet.Keeping Nat) t.sheet = _
  rw [cell]
  split
  · next hrow =>
    split
    · next hcolumn =>
      obtain ⟨r, rfl⟩ := Int.eq_ofNat_of_zero_le hrow.1
      obtain ⟨c, rfl⟩ := Int.eq_ofNat_of_zero_le hcolumn.1
      obtain ⟨columns, hcolumns⟩ := Int.eq_ofNat_of_zero_le (show 0 ≤ t.columns by omega)
      show EStateM.Result.ok _ _ = EStateM.Result.ok (t.offset _) _
      rw [offset, hcolumns]
      congr 1
    · rfl
  · rfl

/-- Finding offsets in place is looking up cells, and writes nothing. -/
theorem offsets_sheet (t : Table) (places : List (Int × Int)) :
    Sheet.offsets places t.sheet = t.sheet.found ((t.cells places).map (·.map t.offset)) := by
  induction places with
  | nil => rfl
  | cons place places ih =>
      obtain ⟨row, column⟩ := place
      have hfirst := t.offset_sheet row column
      rw [Table.cells]
      cases hcell : t.cell row column with
      | error fault =>
          rw [hcell] at hfirst
          exact bind_of_error hfirst
      | ok cell =>
          rw [hcell] at hfirst
          refine (bind_of_ok hfirst).trans ?_
          cases hcells : t.cells places with
          | error fault =>
              rw [hcells] at ih
              exact bind_of_error ih
          | ok cells =>
              rw [hcells] at ih
              exact bind_of_ok ih

/-- **Recording in place** comes to the same as recording in a table that is not kept. If a place is not in
the table, the sheet stays as it was. -/
theorem Tallies.record_sheet (h : t.Tallies cells) (places : List (Int × Int)) :
    Sheet.record places t.sheet = match t.record places with
      | .error fault => .error (.table fault) t.sheet
      | .ok next => .ok () next.sheet := by
  have hoffsets := t.offsets_sheet places
  rw [Table.record]
  cases hcells : t.cells places with
  | error fault =>
      rw [hcells] at hoffsets
      exact bind_of_error hoffsets
  | ok more =>
      rw [hcells] at hoffsets
      obtain ⟨-, hmore⟩ := cells_eq_ok hcells
      have hlt : ∀ offset ∈ more.map t.offset, offset < t.sheet.counts.length := by
        intro offset hoffset
        obtain ⟨cell, hcell, rfl⟩ := List.mem_map.mp hoffset
        exact h.offset_lt (hmore cell hcell)
      refine (bind_of_ok hoffsets).trans ((bind_of_ok (Sheet.raise_eq hlt)).trans ?_)
      show EStateM.Result.ok () (Sheet.mk t.rows t.columns
        ((more.map t.offset).foldl (fun counts offset => counts.modify offset (· + 1)) t.allCounts)
        t.allLevels (t.compiled && (more.map t.offset).isEmpty)
        (t.observations + (more.map t.offset).length)) = _
      rw [← h.allCounts_tally hmore, List.isEmpty_map, List.length_map]
      rfl

/-- Looking up a count in place is looking it up in the table. -/
theorem Tallies.countAt_sheet (h : t.Tallies cells) (row column : Int) :
    Sheet.countAt row column t.sheet = t.sheet.found (t.countAt row column) := by
  have hoffset := t.offset_sheet row column
  rw [Table.countAt]
  cases hcell : t.cell row column with
  | error fault =>
      rw [hcell] at hoffset
      exact bind_of_error hoffset
  | ok cell =>
      rw [hcell] at hoffset
      obtain ⟨-, hcontains⟩ := cell_eq_ok hcell
      refine (bind_of_ok hoffset).trans ?_
      show (match t.allCounts[t.offset cell]? with
        | none => throw (.noOffset (t.offset cell))
        | some count => return count : Sheet.Keeping Nat) t.sheet = _
      rw [h.getElem?_allCounts hcontains]
      show EStateM.Result.ok _ _ = EStateM.Result.ok (t.count cell.1 cell.2) _
      rw [h.count_eq]

/-! ## (5) Places in and outside of a table -/

/-- **A place in a table**: its row and its column are in range. -/
def HasPlace (t : Table) (place : Int × Int) : Prop :=
  (0 ≤ place.1 ∧ place.1 < t.rows) ∧ 0 ≤ place.2 ∧ place.2 < t.columns

instance (t : Table) (place : Int × Int) : Decidable (t.HasPlace place) :=
  inferInstanceAs (Decidable (_ ∧ _))

/-- What is wrong with a place that is not in the table: its row, or else its column. -/
def misplaced (t : Table) (place : Int × Int) : TableFault :=
  if 0 ≤ place.1 ∧ place.1 < t.rows then .foreignColumn place.2 t.columns
  else .foreignRow place.1 t.rows

/-- The cell of a place, if it is in the table. -/
theorem cell_eq (t : Table) (place : Int × Int) :
    t.cell place.1 place.2
      = if t.HasPlace place then .ok (place.1.toNat, place.2.toNat) else .error (t.misplaced place) := by
  rw [cell]
  by_cases hrow : 0 ≤ place.1 ∧ place.1 < t.rows
  · by_cases hcolumn : 0 ≤ place.2 ∧ place.2 < t.columns
    · rw [if_pos hrow, if_pos hcolumn, if_pos ⟨hrow, hcolumn⟩]
    · rw [if_pos hrow, if_neg hcolumn, if_neg fun h => hcolumn h.2, misplaced, if_pos hrow]
  · rw [if_neg hrow, if_neg fun h => hrow h.1, misplaced, if_neg hrow]

/-- **Looking up places fails at the first one that is not in the table.** -/
theorem cells_of_first_misplaced {earlier later : List (Int × Int)} {place : Int × Int}
    (hearlier : ∀ other ∈ earlier, t.HasPlace other) (hplace : ¬ t.HasPlace place) :
    t.cells (earlier ++ place :: later) = .error (t.misplaced place) := by
  induction earlier with
  | nil =>
      have hcell := t.cell_eq place
      rw [if_neg hplace] at hcell
      rw [List.nil_append, Table.cells, hcell]
  | cons other earlier ih =>
      have hcell := t.cell_eq other
      rw [if_pos (hearlier other (by simp))] at hcell
      rw [List.cons_append, Table.cells, hcell,
        ih fun other hother => hearlier other (List.mem_cons_of_mem _ hother)]
      rfl

/-- **Places in a table are those of its cells.** -/
theorem exists_cells_eq_ok {places : List (Int × Int)} (h : ∀ place ∈ places, t.HasPlace place) :
    ∃ cells, t.cells places = .ok cells := by
  induction places with
  | nil => exact ⟨[], rfl⟩
  | cons place places ih =>
      obtain ⟨cells, hcells⟩ := ih fun other hother => h other (List.mem_cons_of_mem _ hother)
      have hcell := t.cell_eq place
      rw [if_pos (h place (by simp))] at hcell
      rw [Table.cells, hcell, hcells]
      exact ⟨_, rfl⟩

/-- **Recording fails for the first place that is not in the table**, whatever comes before it and after. -/
theorem record_of_first_misplaced {earlier later : List (Int × Int)} {place : Int × Int}
    (hearlier : ∀ other ∈ earlier, t.HasPlace other) (hplace : ¬ t.HasPlace place) :
    t.record (earlier ++ place :: later) = .error (t.misplaced place) := by
  rw [record, cells_of_first_misplaced hearlier hplace]
  rfl

/-! ## (6) What recording changes -/

theorem placeOf_injective : Function.Injective placeOf := by
  rintro ⟨row, column⟩ ⟨row', column'⟩ h
  simpa [placeOf] using h

/-- **Counting cells raises each count by how often its place occurs**, and fails for the same places as
before. -/
theorem Tallies.countAt_tally (h : t.Tallies cells) {more : List Cell}
    (hmore : ∀ cell ∈ more, t.Contains cell) (row column : Int) :
    (t.tally more).countAt row column
      = (t.countAt row column).map (· + (more.map placeOf).count (row, column)) := by
  have hsame : (t.tally more).cell row column = t.cell row column := rfl
  rw [countAt, countAt, hsame]
  cases hcell : t.cell row column with
  | error fault => rfl
  | ok cell =>
      have hcount := (h.tally hmore).count_eq cell.1 cell.2
      rw [List.count_append, ← h.count_eq] at hcount
      rw [(cell_eq_ok hcell).1, List.count_map_of_injective _ _ placeOf_injective]
      exact congrArg Except.ok hcount

/-- **The order of cells does not show** in what is counted. -/
theorem Tallies.sheet_tally_of_perm (h : t.Tallies cells) {more others : List Cell}
    (hmore : ∀ cell ∈ more, t.Contains cell) (hperm : more.Perm others) :
    (t.tally more).sheet = (t.tally others).sheet := by
  have hothers : ∀ cell ∈ others, t.Contains cell := fun cell hcell =>
    hmore cell (hperm.mem_iff.mpr hcell)
  have hrow : ∀ row, ((t.tally more).rowOf row).toList = ((t.tally others).rowOf row).toList := by
    intro row
    rw [(h.tally hmore).toList_rowOf, (h.tally hothers).toList_rowOf]
    exact List.map_congr_left fun column _ => (hperm.append_left cells).count_eq _
  have hcounts : (t.tally more).allCounts = (t.tally others).allCounts := by
    rw [allCounts, allCounts, flat, flat, List.flatMap_congr fun row _ => hrow row]
    rfl
  have hobservations : (t.tally more).observations = (t.tally others).observations :=
    congrArg (t.observations + ·) hperm.length_eq
  have hempty : more.isEmpty = others.isEmpty := by
    rw [Bool.eq_iff_iff, List.isEmpty_iff_length_eq_zero, List.isEmpty_iff_length_eq_zero,
      hperm.length_eq]
  have hcompiled : (t.tally more).compiled = (t.tally others).compiled :=
    congrArg (t.compiled && ·) hempty
  rw [sheet, sheet, hcounts, hobservations, hcompiled]
  rfl

/-! ## (7) Every table -/

/-- **A table tallies cells after each operation**, and keeps its dimensions. -/
theorem Tallies.perform (h : t.Tallies cells) (operation : Operation) :
    (∃ more, (t.perform operation).Tallies more)
      ∧ (t.perform operation).rows = t.rows ∧ (t.perform operation).columns = t.columns := by
  cases hcompile : operation.isCompile with
  | false =>
      obtain ⟨more, hmore, -, hperform⟩ := exists_perform_eq_tally hcompile
      rw [hperform]
      exact ⟨⟨_, h.tally hmore⟩, rfl, rfl⟩
  | true =>
      obtain rfl : operation = .compile := by
        cases operation with
        | compile => rfl
        | _ => cases hcompile
      -- without columns, a compilation fails
      rw [Table.perform, perform?, compile]
      by_cases hcolumns : t.columns = 0
      · rw [if_pos hcolumns]
        exact ⟨⟨_, h⟩, rfl, rfl⟩
      · rw [if_neg hcolumns]
        exact ⟨⟨_, h.settle⟩, rfl, rfl⟩

/-- **A table tallies cells after every run**, and keeps its dimensions. -/
theorem Tallies.run (h : t.Tallies cells) (operations : List Operation) :
    (∃ more, (t.run operations).Tallies more)
      ∧ (t.run operations).rows = t.rows ∧ (t.run operations).columns = t.columns := by
  induction operations generalizing t cells with
  | nil => exact ⟨⟨_, h⟩, rfl, rfl⟩
  | cons operation operations ih =>
      obtain ⟨⟨more, hmore⟩, hrows, hcolumns⟩ := h.perform operation
      rw [← hrows, ← hcolumns]
      exact ih hmore

/-- **Recording after every run**, in place and in a table that is not kept. If all places are in the table,
the count of each place rises by how often it occurs, the levels and the samples stay, and the observations rise
by the number of places; and in whatever order the places are recorded, at once or in two parts, the sheet is the
same. Otherwise recording fails for the first place that is not in the table, for its row or else for its column,
and the sheet stays as it was. -/
theorem records_run (rows columns : Int) (operations : List Operation) (places : List (Int × Int)) :
    let t := (empty rows columns).run operations
    (t.rows = rows ∧ t.columns = columns)
      ∧ ((∀ place ∈ places, t.HasPlace place) →
        ∃ next, t.record places = .ok next ∧ Sheet.record places t.sheet = .ok () next.sheet
          ∧ (∀ row column, next.countAt row column
              = (t.countAt row column).map (· + places.count (row, column))
            ∧ Sheet.countAt row column next.sheet
              = next.sheet.found ((t.countAt row column).map (· + places.count (row, column))))
          ∧ next.sheet.levels = t.sheet.levels ∧ (∀ row u, next.sample row u = t.sample row u)
          ∧ next.observations = t.observations + places.length
          ∧ next.compiled = (t.compiled && places.isEmpty)
          ∧ ∀ xs ys, places.Perm (xs ++ ys) → ∃ between last, t.record xs = .ok between
            ∧ between.record ys = .ok last ∧ last.sheet = next.sheet
            ∧ Sheet.record xs t.sheet = .ok () between.sheet
            ∧ Sheet.record ys between.sheet = .ok () next.sheet)
      ∧ (∀ earlier place later, places = earlier ++ place :: later →
        (∀ other ∈ earlier, t.HasPlace other) → ¬ t.HasPlace place →
        t.record places = .error (t.misplaced place)
          ∧ Sheet.record places t.sheet = .error (.table (t.misplaced place)) t.sheet)
      ∧ ((∀ place ∈ places, t.HasPlace place)
        ∨ ∃ earlier place later, places = earlier ++ place :: later
          ∧ (∀ other ∈ earlier, t.HasPlace other) ∧ ¬ t.HasPlace place) := by
  intro t
  obtain ⟨⟨cells, h⟩, hrows, hcolumns⟩ := (Tallies.empty rows columns).run operations
  refine ⟨⟨hrows, hcolumns⟩, fun hplaces => ?_, fun earlier place later hsplit hearlier hplace => ?_,
    forall_or_exists_first _ places⟩
  · obtain ⟨more, hcells⟩ := exists_cells_eq_ok hplaces
    obtain ⟨rfl, hmore⟩ := cells_eq_ok hcells
    have hrecord : t.record (more.map placeOf) = .ok (t.tally more) := record_of_contains hmore
    have hsheet := h.record_sheet (more.map placeOf)
    rw [hrecord] at hsheet
    have hcount := h.countAt_tally hmore
    refine ⟨_, hrecord, hsheet, fun row column => ⟨hcount row column, ?_⟩, rfl, fun _ _ => rfl, ?_, ?_,
      fun xs ys hperm => ?_⟩
    · rw [(h.tally hmore).countAt_sheet, hcount]
    · rw [List.length_map]
      rfl
    · rw [List.isEmpty_map]
      rfl
    · have hall : ∀ place ∈ xs ++ ys, t.HasPlace place := fun place hplace =>
        hplaces place (hperm.mem_iff.mpr hplace)
      obtain ⟨first, hfirst⟩ := exists_cells_eq_ok fun place hplace =>
        hall place (List.mem_append_left ys hplace)
      obtain ⟨second, hsecond⟩ := exists_cells_eq_ok fun place hplace =>
        hall place (List.mem_append_right xs hplace)
      obtain ⟨rfl, hxs⟩ := cells_eq_ok hfirst
      obtain ⟨rfl, hys⟩ := cells_eq_ok hsecond
      have hbetween := h.tally hxs
      have hrecord₁ := h.record_sheet (first.map placeOf)
      have hrecord₂ := hbetween.record_sheet (second.map placeOf)
      have hys' : ∀ cell ∈ second, (t.tally first).Contains cell := hys
      rw [record_of_contains hxs] at hrecord₁
      rw [record_of_contains hys'] at hrecord₂
      rw [← List.map_append, List.map_perm_map_iff placeOf_injective] at hperm
      have hsame : ((t.tally first).tally second).sheet = (t.tally more).sheet := by
        rw [← tally_append]
        exact (h.sheet_tally_of_perm hmore hperm).symm
      exact ⟨_, _, record_of_contains hxs, record_of_contains hys', hsame, hrecord₁,
        hrecord₂.trans (congrArg _ hsame)⟩
  · subst hsplit
    have hrecord : t.record (earlier ++ place :: later) = .error (t.misplaced place) :=
      record_of_first_misplaced hearlier hplace
    have hsheet := h.record_sheet (earlier ++ place :: later)
    rw [hrecord] at hsheet
    exact ⟨hrecord, hsheet⟩

/-- In a table of two rows and three columns, the last column of the first row is recorded twice and the first
column of the second row once. A fourth column of the first row, which would be the first one of the second row,
is refused, and so is a third row; what was named before is not recorded either. -/
theorem records_spilling :
    let t := (empty 2 3).run [.record [(1, 0)], .compile]
    (∃ next, t.record [(0, 2), (1, 0), (0, 2)] = .ok next ∧ next.countAt 0 2 = .ok 2
        ∧ next.countAt 1 0 = .ok 2 ∧ next.countAt 1 1 = .ok 0 ∧ next.observations = 4
        ∧ next.compiled = false)
      ∧ Sheet.record [(0, 2), (0, 3)] t.sheet = .error (.table (.foreignColumn 3 3)) t.sheet
      ∧ Sheet.record [(0, 2), (2, 7)] t.sheet = .error (.table (.foreignRow 2 2)) t.sheet := by
  intro t
  obtain ⟨-, hall, -, -⟩ := records_run 2 3 [.record [(1, 0)], .compile] [(0, 2), (1, 0), (0, 2)]
  obtain ⟨-, -, hcolumn, -⟩ := records_run 2 3 [.record [(1, 0)], .compile] [(0, 2), (0, 3)]
  obtain ⟨-, -, hrow, -⟩ := records_run 2 3 [.record [(1, 0)], .compile] [(0, 2), (2, 7)]
  obtain ⟨next, hnext, -, hcount, -, -, hobservations, hcompiled, -⟩ := hall (by decide)
  refine ⟨⟨next, hnext, ?_, ?_, ?_, hobservations.trans (by decide), hcompiled.trans (by decide)⟩,
    (hcolumn [(0, 2)] (0, 3) [] rfl (by decide) (by decide)).2,
    (hrow [(0, 2)] (2, 7) [] rfl (by decide) (by decide)).2⟩
  · exact (hcount 0 2).1.trans (by decide)
  · exact (hcount 1 0).1.trans (by decide)
  · exact (hcount 1 1).1.trans (by decide)

end Table
end Pseudoword
