import Mathlib
import Pseudoword.Proofs.Picking
import Pseudoword.Table

/-! # Tables and the cells that they have seen

A table is an account of the cells that were observed in it. Two relations tie it to them: what it
counts are the cells observed so far, and what it samples from are those that had been observed when
it was compiled last, which may be fewer.

* **`Table.Tallies t cells`** — the counts of the table are those of the cells.
* **`Table.Samples t cells`** — the distributions of the table are those of the cells.
* **`Table.Tallies.tally`**, **`Table.Tallies.settle`** — what observing and compiling do to them.
* **`Table.Samples.mem_of_pick?`**, **`Table.Samples.pick?_eq_none_iff`** — what can be sampled. -/

namespace Pseudoword

namespace Table

variable (t : Table)

/-! ## (1) Cells of the table -/

/-- **A cell of the table**: its row and its column are in range. -/
def Contains (cell : Cell) : Prop :=
  (cell.1 : Int) < t.rows ∧ (cell.2 : Int) < t.columns

/-- The place of a cell, as callers name it. -/
def placeOf (cell : Cell) : Int × Int :=
  (cell.1, cell.2)

variable {t}

theorem cell_of_contains {row column : Nat} (h : t.Contains (row, column)) :
    t.cell row column = .ok (row, column) := by
  rw [cell, if_pos ⟨Int.natCast_nonneg row, h.1⟩, if_pos ⟨Int.natCast_nonneg column, h.2⟩,
    Int.toNat_natCast, Int.toNat_natCast]

theorem cells_of_contains {cells : List Cell} (h : ∀ cell ∈ cells, t.Contains cell) :
    t.cells (cells.map placeOf) = .ok cells := by
  induction cells with
  | nil => rfl
  | cons cell cells ih =>
      have hcell : t.cell cell.1 cell.2 = .ok cell := cell_of_contains (h cell (by simp))
      have hcells := ih fun d hd => h d (List.mem_cons_of_mem _ hd)
      rw [List.map_cons, placeOf, Table.cells, hcell, hcells]
      rfl

/-- What a place is that is looked up without fault: that of a cell of the table. -/
theorem cell_eq_ok {row column : Int} {cell : Cell} (h : t.cell row column = .ok cell) :
    (row, column) = placeOf cell ∧ t.Contains cell := by
  unfold Table.cell at h
  split at h
  · next hrow =>
    split at h
    · next hcolumn =>
      cases h
      refine ⟨Prod.ext ?_ ?_, ?_, ?_⟩
      · exact (Int.toNat_of_nonneg hrow.1).symm
      · exact (Int.toNat_of_nonneg hcolumn.1).symm
      · show (row.toNat : Int) < t.rows
        omega
      · show (column.toNat : Int) < t.columns
        omega
    · cases h
  · cases h

/-- **Places that are looked up without fault** are those of cells of the table. -/
theorem cells_eq_ok {places : List (Int × Int)} {cells : List Cell} (h : t.cells places = .ok cells) :
    places = cells.map placeOf ∧ ∀ cell ∈ cells, t.Contains cell := by
  induction places generalizing cells with
  | nil =>
      cases h
      exact ⟨rfl, fun _ hcell => nomatch hcell⟩
  | cons place places ih =>
      obtain ⟨row, column⟩ := place
      rw [Table.cells] at h
      cases hcell : t.cell row column with
      | error fault =>
          rw [hcell] at h
          cases h
      | ok cell =>
          cases hcells : t.cells places with
          | error fault =>
              rw [hcell, hcells] at h
              cases h
          | ok others =>
              rw [hcell, hcells] at h
              cases h
              obtain ⟨hplace, hcontains⟩ := cell_eq_ok hcell
              obtain ⟨hplaces, hothers⟩ := ih hcells
              exact ⟨by rw [hplace, hplaces, List.map_cons],
                List.forall_mem_cons.mpr ⟨hcontains, hothers⟩⟩

/-- **Recording cells of the table never fails**, and counts them. -/
theorem record_of_contains {cells : List Cell} (h : ∀ cell ∈ cells, t.Contains cell) :
    t.record (cells.map placeOf) = .ok (t.tally cells) := by
  rw [record, cells_of_contains h]
  rfl

/-- Looking up a cell of the table never fails. -/
theorem countAt_of_contains {row column : Nat} (h : t.Contains (row, column)) :
    t.countAt row column = .ok (t.count row column) := by
  rw [countAt, cell_of_contains h]
  rfl

/-- **Sampling a row of the table** fails only if the row is dead. -/
theorem sample_of_contains {row : Nat} (h : t.Contains (row, 0)) (u : Draw) :
    t.sample row u = match t.pick? row u with
      | none => .error (.deadRow row)
      | some column => .ok column := by
  have hcell : t.cell row 0 = .ok (row, 0) := cell_of_contains h
  cases hpick : t.pick? row u with
  | none => simp only [sample, hcell, hpick]
  | some column => simp only [sample, hcell, hpick]

/-! ## (2) What counting changes -/

theorem tally_nil : t.tally [] = t := by
  simp [tally]

/-- Counting cells and then others is counting all of them. -/
theorem tally_append (cells more : List Cell) :
    t.tally (cells ++ more) = (t.tally cells).tally more := by
  have hflag : (t.compiled && (cells ++ more).isEmpty)
      = (t.compiled && cells.isEmpty && more.isEmpty) := by
    cases cells <;> simp
  have hobservations : t.observations + (cells ++ more).length
      = t.observations + cells.length + more.length := by
    rw [List.length_append, Nat.add_assoc]
  rw [tally, List.foldl_append, hflag, hobservations]
  rfl

/-- Counting several cells is counting the first one and then the others. -/
theorem tally_cons (cell : Cell) (cells : List Cell) :
    t.tally (cell :: cells) = (t.tally [cell]).tally cells :=
  tally_append [cell] cells

theorem rowOf_eq (row : Nat) : t.rowOf row = t.counts[row]?.getD t.zeros := by
  rw [rowOf]
  cases t.counts[row]? <;> rfl

/-- **Counting one cell** changes one column of one row. -/
theorem rowOf_tally_singleton (cell : Cell) (row : Nat) :
    (t.tally [cell]).rowOf row
      = if cell.1 = row then (t.rowOf row).modify cell.2 (· + 1) else t.rowOf row := by
  have hzeros : (t.tally [cell]).zeros = t.zeros := rfl
  rw [rowOf_eq, rowOf_eq, hzeros]
  simp only [tally, List.foldl_cons, List.foldl_nil, bump, Std.TreeMap.getElem?_insert,
    compare_eq_iff_eq]
  split
  · next h => rw [Option.getD_some, h]
  · rfl

/-- Looking up a column after one of the columns was raised by one. -/
theorem getD_modify_succ {counts : Array Nat} {i : Nat} (h : i < counts.size) (j : Nat) :
    (counts.modify i (· + 1)).getD j 0 = counts.getD j 0 + if i = j then 1 else 0 := by
  rw [Array.getD_eq_getD_getElem?, Array.getD_eq_getD_getElem?, Array.getElem?_modify]
  split
  · next heq =>
    subst heq
    rw [Array.getElem?_eq_getElem h]
    rfl
  · rfl

/-! ## (3) Counting cells -/

/-- **A table that tallies cells**: what it counts are exactly these cells, all of which are in it. -/
structure Tallies (t : Table) (cells : List Cell) : Prop where
  /-- Each row has a count for each column. -/
  size_rowOf : ∀ row, (t.rowOf row).size = t.columns.toNat
  /-- A cell was counted as often as it occurs. -/
  count_eq : ∀ row column, t.count row column = cells.count (row, column)
  /-- As many observations were made as there are cells. -/
  observations_eq : t.observations = cells.length
  /-- The cells are in the table. -/
  contains : ∀ cell ∈ cells, t.Contains cell

/-- The table in which nothing was observed tallies no cells. -/
theorem Tallies.empty (rows columns : Int) : (Table.empty rows columns).Tallies [] where
  size_rowOf := fun row => by
    rw [rowOf_eq]
    simp [Table.empty, zeros]
  count_eq := fun row column => by
    rw [count, rowOf_eq]
    simp only [Table.empty, zeros, Std.TreeMap.getElem?_emptyc, Option.getD_none,
      Array.getD_eq_getD_getElem?, Array.getElem?_replicate, List.count_nil]
    split <;> rfl
  observations_eq := rfl
  contains := fun _ h => nomatch h

/-- One more cell is counted. -/
theorem Tallies.tally_singleton {cells : List Cell} (h : t.Tallies cells) {cell : Cell}
    (hcell : t.Contains cell) : (t.tally [cell]).Tallies (cells ++ [cell]) where
  size_rowOf := fun row => by
    have hcolumns : (t.tally [cell]).columns = t.columns := rfl
    rw [rowOf_tally_singleton, hcolumns]
    split
    · rw [Array.size_modify, h.size_rowOf]
    · exact h.size_rowOf row
  count_eq := fun row column => by
    have hlt : cell.2 < (t.rowOf row).size := by
      rw [h.size_rowOf]
      have := hcell.2
      omega
    rw [count, rowOf_tally_singleton, List.count_append, List.count_singleton, ← h.count_eq, count]
    by_cases hrow : cell.1 = row
    · rw [if_pos hrow, getD_modify_succ hlt]
      congr 1
      simp [Prod.ext_iff, hrow]
    · rw [if_neg hrow]
      simp [Prod.ext_iff, hrow]
  observations_eq := by
    rw [List.length_append, ← h.observations_eq]
    rfl
  contains := fun d hd => by
    rcases List.mem_append.mp hd with hd | hd
    · exact h.contains d hd
    · exact List.mem_singleton.mp hd ▸ hcell

/-- **Counting cells of the table** adds them to those that it tallies. -/
theorem Tallies.tally {cells more : List Cell} (h : t.Tallies cells)
    (hmore : ∀ cell ∈ more, t.Contains cell) : (t.tally more).Tallies (cells ++ more) := by
  induction more generalizing t cells with
  | nil => rwa [tally_nil, List.append_nil]
  | cons cell more ih =>
      rw [tally_cons, List.append_cons]
      exact ih (h.tally_singleton (hmore cell (by simp)))
        fun d hd => hmore d (List.mem_cons_of_mem _ hd)

/-- The counts of a row, by column, among some cells. -/
def rowCounts (columns : Nat) (cells : List Cell) (row : Nat) : List Nat :=
  (List.range columns).map fun column => cells.count (row, column)

/-- **A row of the table** holds the counts of the row among the cells. -/
theorem Tallies.toList_rowOf {cells : List Cell} (h : t.Tallies cells) (row : Nat) :
    (t.rowOf row).toList = rowCounts t.columns.toNat cells row := by
  apply List.ext_getElem
  · rw [rowCounts, List.length_map, List.length_range, Array.length_toList, h.size_rowOf]
  · intro column hcolumn _
    have hget := h.count_eq row column
    rw [count, Array.getD_eq_getD_getElem?, Array.getElem?_eq_getElem (by simpa using hcolumn)]
      at hget
    simpa [rowCounts] using hget

/-- **All counts together are the observations.** -/
theorem Tallies.sum_allCounts {cells : List Cell} (h : t.Tallies cells) (hcolumns : 0 ≤ t.columns) :
    t.allCounts.sum = t.observations := by
  have hcount : ∀ cell, (cells : Multiset Cell).count cell = cells.count cell := by
    intro cell
    rw [Multiset.coe_count]
    exact List.countP_congr (by simp)
  have hrows : ∀ row, (t.rowOf row).toList.sum
      = ∑ column ∈ Finset.range t.columns.toNat, (cells : Multiset Cell).count (row, column) := by
    intro row
    rw [h.toList_rowOf row, rowCounts]
    simp only [hcount]
    rfl
  have hinside : ∀ cell ∈ (cells : Multiset Cell),
      cell ∈ Finset.range t.rows.toNat ×ˢ Finset.range t.columns.toNat := by
    intro cell hcell
    have := h.contains cell hcell
    rw [Finset.mem_product, Finset.mem_range, Finset.mem_range]
    exact ⟨by have := this.1; omega, by have := this.2; omega⟩
  calc t.allCounts.sum
      = ∑ row ∈ Finset.range t.rows.toNat, (t.rowOf row).toList.sum := by
        rw [allCounts, flat, if_neg (by omega), List.flatMap_def, List.sum_flatten, List.map_map]
        simp [Finset.sum, Multiset.range, Function.comp_def]
    _ = ∑ row ∈ Finset.range t.rows.toNat, ∑ column ∈ Finset.range t.columns.toNat,
          (cells : Multiset Cell).count (row, column) :=
        Finset.sum_congr rfl fun row _ => hrows row
    _ = ∑ cell ∈ Finset.range t.rows.toNat ×ˢ Finset.range t.columns.toNat,
          (cells : Multiset Cell).count cell := (Finset.sum_product _ _ fun cell : Cell =>
            (cells : Multiset Cell).count cell).symm
    _ = t.observations := by
        rw [Multiset.sum_count_eq_card hinside, Multiset.coe_card, h.observations_eq]

/-! ## (4) Sampling cells -/

/-- **A table that samples from cells**: its distributions are those of the counts of these cells, and
a row of which there is no cell has none. -/
structure Samples (t : Table) (cells : List Cell) : Prop where
  /-- The distribution of a row comes from its counts, unless all of them are zero. -/
  distribution?_eq : ∀ row, t.distribution? row
    = (some (Distribution.ofCounts (rowCounts t.columns.toNat cells row))).filter (!·.isDead)
  /-- The cells have columns of the table. -/
  lt_columns : ∀ cell ∈ cells, (cell.2 : Int) < t.columns

/-- The counts of a row of which there is no cell are all zero. -/
theorem total_rowCounts_eq_zero_iff {columns : Nat} {cells : List Cell} {row : Nat} :
    Distribution.total (rowCounts columns cells row) = 0
      ↔ ∀ column < columns, (row, column) ∉ cells := by
  simp [Distribution.total_eq_zero_iff, rowCounts, List.count_eq_zero]

/-- A table that was never compiled samples from no cells. -/
theorem Samples.empty (rows columns : Int) : (Table.empty rows columns).Samples [] where
  distribution?_eq := fun row => by
    have hdead : (Distribution.ofCounts (rowCounts columns.toNat [] row)).isDead = true :=
      (Distribution.isDead_ofCounts _).mpr (total_rowCounts_eq_zero_iff.mpr (by simp))
    simp [distribution?, Table.empty, Option.filter, hdead]
  lt_columns := fun _ h => nomatch h

/-- What is observed later does not show in samples. -/
theorem Samples.tally {cells : List Cell} (h : t.Samples cells) (more : List Cell) :
    (t.tally more).Samples cells where
  distribution?_eq := h.distribution?_eq
  lt_columns := h.lt_columns

/-- **Compiling makes a table sample from what it tallies.** -/
theorem Tallies.samples_settle {cells : List Cell} (h : t.Tallies cells) :
    t.settle.Samples cells where
  distribution?_eq := fun row => by
    have hcolumns : t.settle.columns = t.columns := rfl
    rw [hcolumns, ← h.toList_rowOf row, distribution?, settle, Std.TreeMap.getElem?_map, rowOf]
    cases t.counts[row]? with
    | some counts => rfl
    | none =>
        have hdead : (Distribution.ofCounts t.zeros.toList).isDead = true := by
          rw [Distribution.isDead_ofCounts, Distribution.total_eq_zero_iff, zeros,
            Array.toList_replicate]
          exact fun n hn => List.eq_of_mem_replicate hn
        simp [Option.filter, hdead]
  lt_columns := fun cell hcell => (h.contains cell hcell).2

/-- Compiling does not change what a table tallies. -/
theorem Tallies.settle {cells : List Cell} (h : t.Tallies cells) : t.settle.Tallies cells :=
  ⟨h.size_rowOf, h.count_eq, h.observations_eq, h.contains⟩

/-- **Only cells that were seen are sampled**: the column that a draw picks in a row is that of a cell. -/
theorem Samples.mem_of_pick? {cells : List Cell} (h : t.Samples cells) {row column : Nat} {u : Draw}
    (hpick : t.pick? row u = some column) : (row, column) ∈ cells := by
  rw [pick?, h.distribution?_eq row, Option.map_eq_some_iff] at hpick
  obtain ⟨d, hd, rfl⟩ := hpick
  obtain ⟨hd, hlive⟩ := Option.filter_eq_some_iff.mp hd
  obtain rfl := Option.some.inj hd
  have hadds := Distribution.pick_adds (by simpa using hlive) u
  have hlt : (Distribution.ofCounts (rowCounts t.columns.toNat cells row)).pick u
      < (rowCounts t.columns.toNat cells row).length := by simpa using hadds.lt_size
  have hpos := hadds.count_pos
  rw [List.getD_eq_getElem?_getD, List.getElem?_eq_getElem hlt] at hpos
  simpa [rowCounts, List.count_pos_iff] using hpos

/-- The column that a draw picks is a column of the table. -/
theorem Samples.lt_of_pick? {cells : List Cell} (h : t.Samples cells) {row column : Nat} {u : Draw}
    (hpick : t.pick? row u = some column) : (column : Int) < t.columns :=
  h.lt_columns _ (h.mem_of_pick? hpick)

/-- **A row is dead exactly if no cell of it was seen**, whatever the draw. -/
theorem Samples.pick?_eq_none_iff {cells : List Cell} (h : t.Samples cells) {row : Nat} {u : Draw} :
    t.pick? row u = none ↔ ∀ column, (row, column) ∉ cells := by
  rw [pick?, h.distribution?_eq row, Option.map_eq_none_iff, Option.filter_eq_none_iff]
  constructor
  · intro hdead column hmem
    have hzero := (Distribution.isDead_ofCounts _).mp (by simpa using hdead _ rfl)
    have hlt := h.lt_columns _ hmem
    exact total_rowCounts_eq_zero_iff.mp hzero column (by omega) hmem
  · intro hnone d hd
    obtain rfl := Option.some.inj hd
    have hzero := total_rowCounts_eq_zero_iff.mpr fun column (_ : column < t.columns.toNat) =>
      hnone column
    simpa using (Distribution.isDead_ofCounts _).mpr hzero

end Table
end Pseudoword
