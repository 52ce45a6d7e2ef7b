import Mathlib
import Pseudoword.Proofs.Snapshots

/-! # Sampling as a scan

Sampling a row halves its way to a level, falls back on the first column of the last run of levels, and
skips levels of zero. All of this finds what going through the levels one by one would find: the first
level at which the draw stops. A draw up to one stops at levels that are not zero and reach it, a draw above
one at the level one, and what is no number at all at any level that is not zero.

* **`Draw.stopsAt u level`** — whether a draw stops at a level.
* **`Table.reached_iff_stopsAt`** — these are the levels of the columns that the draw may pick.
* **`Table.Samples.pick?_eq_findIdx?`** — the pick of a draw, as a scan of the levels of the row.
* **`Table.Ran.samples`**, **`Table.Ran.toList_levelsOf`** — samples and levels after a run.
* **`Table.scans_run`** — sampling after every run of operations. -/

namespace Pseudoword

/-! ## (1) Levels at which a draw stops -/

/-- **Whether a draw stops at a level**, when the levels of a row are gone through one by one. -/
def Draw.stopsAt : Draw → Binary64 → Bool
  | .notANumber, x => decide (Binary64.zero < x)
  -- every level reaches a draw below zero
  | .negative, x => decide (Binary64.zero < x)
  | .level size, x =>
    if size ≤ Binary64.one then decide (Binary64.zero < x ∧ size ≤ x)
    else decide (x = Binary64.one)

namespace Binary64

theorem zero_lt_iff {x : Binary64} : zero < x ↔ x ≠ zero := by
  constructor
  · rintro h rfl
    exact Nat.lt_irrefl _ h
  · intro h
    exact Nat.pos_of_ne_zero fun hrank => h (congrArg Binary64.mk hrank)

protected theorem not_lt {x y : Binary64} : ¬ x < y ↔ y ≤ x := Nat.not_lt

protected theorem not_le {x y : Binary64} : ¬ x ≤ y ↔ y < x := Nat.not_le

end Binary64

namespace Table

variable {t : Table} {cells settled : List Cell} {row column : Nat} {u : Draw}

/-- No level is above one. -/
theorem levelOf_le_one (cells : List Cell) (row column : Nat) :
    levelOf cells row column ≤ Binary64.one := by
  rcases Nat.eq_zero_or_pos (visits cells row) with hdead | hlive
  · rw [levelOf_eq_zero hdead]
    exact Nat.zero_le _
  · exact Binary64.ofRatio_le_one (before_le_visits cells row _) hlive

/-- **The columns that a draw may pick** are those at whose levels it stops. -/
theorem reached_iff_stopsAt :
    Reached cells row u column ↔ u.stopsAt (levelOf cells row column) = true := by
  have hle := levelOf_le_one cells row column
  cases u with
  | notANumber =>
      rw [Draw.stopsAt, decide_eq_true_iff, Binary64.zero_lt_iff]
      exact ⟨fun h => h.level_ne_zero, fun hne => ⟨hne, .inl rfl⟩⟩
  | negative =>
      rw [Draw.stopsAt, decide_eq_true_iff, Binary64.zero_lt_iff]
      exact ⟨fun h => h.level_ne_zero, fun hne => ⟨hne, .inl rfl⟩⟩
  | level size =>
      rw [Draw.stopsAt]
      by_cases hsize : size ≤ Binary64.one
      · rw [if_pos hsize, decide_eq_true_iff, Binary64.zero_lt_iff]
        constructor
        · rintro ⟨hne, hnot | hone⟩
          · exact ⟨hne, Binary64.not_lt.mp (of_decide_eq_false hnot)⟩
          · exact ⟨hne, hone ▸ hsize⟩
        · rintro ⟨hne, hreach⟩
          exact ⟨hne, .inl (decide_eq_false (Binary64.not_lt.mpr hreach))⟩
      · -- a draw above one exceeds every level, so that only the level one is left
        rw [if_neg hsize, decide_eq_true_iff]
        constructor
        · rintro ⟨-, hnot | hone⟩
          · exact absurd (Nat.le_trans (Binary64.not_lt.mp (of_decide_eq_false hnot)) hle) hsize
          · exact hone
        · intro hone
          refine ⟨?_, .inr hone⟩
          rw [hone]
          decide +kernel

/-- **The pick of a draw is a scan**: the first column of the row at whose level the draw stops. -/
theorem Samples.pick?_eq_findIdx? (h : t.Samples cells) (row : Nat) (u : Draw) :
    t.pick? row u = ((List.range t.columns.toNat).map (levelOf cells row)).findIdx? u.stopsAt := by
  cases hscan : ((List.range t.columns.toNat).map (levelOf cells row)).findIdx? u.stopsAt with
  | none =>
      rw [List.findIdx?_eq_none_iff] at hscan
      cases hpick : t.pick? row u with
      | none => rfl
      | some column =>
          -- a column that is picked is one of the row, and the draw stops at its level
          have hlt := h.lt_of_pick? hpick
          have hreached := (h.pick?_eq_some_iff.mp hpick).1
          have hmem : levelOf cells row column ∈ (List.range t.columns.toNat).map (levelOf cells row) :=
            List.mem_map_of_mem (List.mem_range.mpr (Int.lt_toNat.mpr hlt))
          rw [reached_iff_stopsAt, hscan _ hmem] at hreached
          cases hreached
  | some column =>
      obtain ⟨hcolumn, hstops, hfirst⟩ := List.findIdx?_eq_some_iff_getElem.mp hscan
      rw [List.getElem_map, List.getElem_range] at hstops
      refine h.pick?_eq_some_iff.mpr ⟨reached_iff_stopsAt.mpr hstops, fun j hj hreached => ?_⟩
      have hnot := hfirst j hj
      rw [List.getElem_map, List.getElem_range] at hnot
      exact hnot (reached_iff_stopsAt.mp hreached)

/-- How often a column was counted, by the cells; a column beyond those of the row has none. -/
theorem getD_rowCounts {columns : Nat} (h : ∀ cell ∈ cells, cell.1 = row → cell.2 < columns)
    (column : Nat) : (rowCounts columns cells row).getD column 0 = cells.count (row, column) := by
  by_cases hcolumn : column < columns
  · simp [rowCounts, List.getD_eq_getElem?_getD, List.getElem?_range hcolumn]
  · have hnone : (row, column) ∉ cells := fun hcell => hcolumn (h _ hcell rfl)
    rw [List.count_eq_zero_of_not_mem hnone, List.getD_eq_default]
    simpa [rowCounts] using hcolumn

/-! ## (2) Samples and levels after a run -/

section Ran

variable {operations : List Operation}

/-- **What a run samples from** are the cells of its last compilation. -/
theorem Ran.samples (h : t.Ran operations cells settled) (hfresh : t.Tallies []) :
    (t.run operations).Samples settled := by
  obtain ⟨_, hrun⟩ := h.run_eq
  have hpast : (t.tally settled).settle.Samples settled :=
    (hfresh.tally h.contains_settled).samples_settle
  rw [hrun]
  exact ⟨hpast.distribution?_eq, hpast.lt_columns⟩

/-- **The levels of a row after a run** are told by these cells, too. -/
theorem Ran.toList_levelsOf (h : t.Ran operations cells settled) (hfresh : t.Tallies [])
    (row : Nat) :
    ((t.run operations).levelsOf row).toList
      = (List.range t.columns.toNat).map (levelOf settled row) := by
  obtain ⟨_, hrun⟩ := h.run_eq
  have hpast : (t.tally settled).Tallies settled := hfresh.tally h.contains_settled
  rw [hrun]
  exact hpast.toList_levelsOf_settle row

/-- The cells of the last compilation are what the table tallied then. -/
theorem Ran.tallies_settled (h : t.Ran operations cells settled) (hfresh : t.Tallies []) :
    (t.run (upToCompile operations)).Tallies settled := by
  obtain ⟨_, hsettled⟩ := h.run_upToCompile_eq
  have hpast : (t.tally settled).Tallies settled := hfresh.tally h.contains_settled
  rw [hsettled]
  exact ⟨hpast.size_rowOf, hpast.count_eq, hpast.observations_eq, hpast.contains⟩

/-- Places were the same at the last compilation. -/
theorem Ran.cell_settled_eq (h : t.Ran operations cells settled) (row column : Int) :
    (t.run (upToCompile operations)).cell row column = t.cell row column := by
  obtain ⟨_, hsettled⟩ := h.run_upToCompile_eq
  rw [hsettled]
  rfl

/-- The cells of the last compilation are in columns of the table. -/
theorem Ran.lt_columns (h : t.Ran operations cells settled) (row : Nat) :
    ∀ cell ∈ settled, cell.1 = row → cell.2 < t.columns.toNat :=
  fun cell hcell _ => Int.lt_toNat.mpr (h.contains_settled cell hcell).2

/-- Together, a row had as many counts at the last compilation as there are cells of it. -/
theorem Ran.sum_rowCounts (h : t.Ran operations cells settled) (row : Nat) :
    (rowCounts t.columns.toNat settled row).sum = visits settled row :=
  total_rowCounts (h.lt_columns row)

/-- **What a row had counted at the last compilation.** -/
theorem Ran.countsOf_settled (h : t.Ran operations cells settled) (hfresh : t.Tallies [])
    (hrow : t.Contains (row, 0)) :
    (t.run (upToCompile operations)).countsOf row
      = .ok (rowCounts t.columns.toNat settled row) := by
  have hpast := h.tallies_settled hfresh
  have hcolumns : (t.run (upToCompile operations)).columns = t.columns := by
    obtain ⟨_, hsettled⟩ := h.run_upToCompile_eq
    rw [hsettled]
    rfl
  have hcell : t.cell row 0 = .ok (row, 0) := cell_of_contains hrow
  rw [countsOf, h.cell_settled_eq, hcell]
  show Except.ok ((t.run (upToCompile operations)).rowOf row).toList = _
  rw [hpast.toList_rowOf, hcolumns]

/-- The levels of a row after a run, looked up. -/
theorem Ran.levelsAt_eq (h : t.Ran operations cells settled) (hfresh : t.Tallies [])
    (hrow : t.Contains (row, 0)) :
    (t.run operations).levelsAt row
      = .ok ((List.range t.columns.toNat).map (levelOf settled row)) := by
  have hcell : t.cell row 0 = .ok (row, 0) := cell_of_contains hrow
  rw [levelsAt, h.cell_eq, hcell, ← h.toList_levelsOf hfresh]
  rfl

/-- **Whether a row is dead after a run**, looked up. -/
theorem Ran.isDead_eq (h : t.Ran operations cells settled) (hfresh : t.Tallies [])
    (hrow : t.Contains (row, 0)) :
    (t.run operations).isDead row = .ok (decide (visits settled row = 0)) := by
  have hcolumns : 0 < t.columns := hrow.2
  have hplace : t.columns - 1 = ((t.columns.toNat - 1 : Nat) : Int) := by omega
  have hcell : t.cell row (t.columns - 1) = .ok (row, t.columns.toNat - 1) := by
    rw [hplace]
    refine cell_of_contains ⟨hrow.1, ?_⟩
    show ((t.columns.toNat - 1 : Nat) : Int) < t.columns
    omega
  have hdead : (t.run operations).isDeadRow row = decide (visits settled row = 0) := by
    rw [isDeadRow_eq_isNone_pick? _ row .negative, Bool.eq_iff_iff, Option.isNone_iff_eq_none,
      (h.samples hfresh).pick?_eq_none_iff_visits, decide_eq_true_iff]
  rw [isDead, h.columns_eq, h.cell_eq, hcell, ← hdead]
  rfl

/-- The rows of the table are those after a run. -/
theorem Ran.contains_run (h : t.Ran operations cells settled) (hrow : t.Contains (row, column)) :
    (t.run operations).Contains (row, column) := by
  rw [Contains, h.rows_eq, h.columns_eq]
  exact hrow

end Ran

/-! ## (3) Every run of operations -/

/-- **Sampling a row finds a column** exactly if the draw picks it, -/
theorem sample_eq_ok_iff (h : t.Contains (row, 0)) :
    t.sample row u = .ok column ↔ t.pick? row u = some column := by
  rw [sample_of_contains h]
  cases t.pick? row u <;> simp

/-- and finds the row **dead** exactly if it picks none. -/
theorem sample_eq_deadRow_iff (h : t.Contains (row, 0)) :
    t.sample row u = .error (.deadRow row) ↔ t.pick? row u = none := by
  rw [sample_of_contains h]
  cases t.pick? row u <;> simp

/-- A row that is not one of the table is not sampled. -/
theorem sample_of_foreign {row : Int} (h : ¬ (0 ≤ row ∧ row < t.rows)) (u : Draw) :
    t.sample row u = .error (.foreignRow row t.rows) := by
  have hcell : t.cell row 0 = .error (.foreignRow row t.rows) := if_neg h
  rw [sample, hcell]

/-- **Sampling after every run of operations is a scan**, whatever the totals and the draw are. A row that is
not one of the table is refused. A row that had no count at the last compilation, as is each row if there
was none, is dead, and sampling says so. In any other row sampling finds the first column at whose level
the draw stops, which there always is, and which had been counted by then. -/
theorem scans_run (rows : Int) {columns : Int} (hcolumns : 1 ≤ columns)
    (operations : List Operation) :
    let fresh := empty rows columns
    let t := fresh.run operations
    (∀ row u, ¬ (0 ≤ row ∧ row < rows) → t.sample row u = .error (.foreignRow row rows))
      ∧ ∀ row : Nat, row < rows → ∃ counts levels,
        (fresh.run (upToCompile operations)).countsOf row = .ok counts
          ∧ t.levelsAt row = .ok levels
          ∧ t.isDead row = .ok (decide (counts.sum = 0))
          ∧ (.compile ∉ operations → counts.sum = 0)
          ∧ ∀ u, (t.sample row u = .error (.deadRow row) ↔ counts.sum = 0)
            ∧ (counts.sum ≠ 0 → ∃ column, t.sample row u = .ok column
              ∧ levels.findIdx? u.stopsAt = some column ∧ 0 < counts.getD column 0) := by
  intro fresh t
  have hfresh : fresh.Tallies [] := .empty rows columns
  obtain ⟨cells, settled, h⟩ := exists_ran rows (show columns ≠ 0 by omega) operations
  refine ⟨fun row u hrow => ?_, fun row hrow => ?_⟩
  · have hrows : t.rows = rows := h.rows_eq
    rw [sample_of_foreign (hrows.symm ▸ hrow), hrows]
  · have hcontains : fresh.Contains (row, 0) := ⟨hrow, hcolumns⟩
    have hpast := h.tallies_settled hfresh
    have hsamples := h.samples hfresh
    have hsum := h.sum_rowCounts row
    refine ⟨_, _, h.countsOf_settled hfresh hcontains, h.levelsAt_eq hfresh hcontains, ?_,
      fun hnone => ?_, fun u => ⟨?_, fun hlive => ?_⟩⟩
    · rw [hsum]
      exact h.isDead_eq hfresh hcontains
    · -- without a compilation there is no cell of the last one
      have hempty : fresh.run (upToCompile operations) = fresh := by
        rw [upToCompile_eq_nil hnone]
        rfl
      have hobservations := hpast.observations_eq
      rw [hempty] at hobservations
      obtain rfl : settled = [] := List.eq_nil_of_length_eq_zero hobservations.symm
      rw [hsum, visits, List.countP_nil]
    · rw [sample_eq_deadRow_iff (h.contains_run hcontains), hsamples.pick?_eq_none_iff_visits, hsum]
    · obtain ⟨column, hpick⟩ : ∃ column, t.pick? row u = some column := by
        refine Option.ne_none_iff_exists'.mp fun hnone => hlive ?_
        rw [hsum, ← hsamples.pick?_eq_none_iff_visits]
        exact hnone
      refine ⟨column, (sample_eq_ok_iff (h.contains_run hcontains)).mpr hpick, ?_, ?_⟩
      · rw [← hpick, hsamples.pick?_eq_findIdx?, h.columns_eq]
      · rw [getD_rowCounts (h.lt_columns row)]
        exact List.count_pos_iff.mpr (hsamples.mem_of_pick? hpick)

/-- In a row with the counts 0, 2, 1 and 0, the levels are 0, two thirds and twice one. A draw of zero and no
number stop at two thirds, one stops at the first level one, and so does infinity, although it is above
all levels; what is recorded after the compilation does not show. -/
theorem scans_fourColumns :
    let t := (empty 1 4).run [.record [(0, 1), (0, 2), (0, 1)], .compile, .record [(0, 3)]]
    t.sample 1 .negative = .error (.foreignRow 1 1)
      ∧ t.levelsAt 0 = .ok [Binary64.zero, Binary64.ofRatio 2 3, Binary64.one, Binary64.one]
      ∧ t.sample 0 (.level Binary64.zero) = .ok 1 ∧ t.sample 0 .notANumber = .ok 1
      ∧ t.sample 0 (.level Binary64.one) = .ok 2 ∧ t.sample 0 (.level Binary64.infinity) = .ok 2 := by
  intro t
  obtain ⟨hforeign, hrows⟩ := scans_run 1 (show (1 : Int) ≤ 4 by decide)
    [.record [(0, 1), (0, 2), (0, 1)], .compile, .record [(0, 3)]]
  obtain ⟨counts, levels, hcounts, hlevels, -, -, hsample⟩ := hrows 0 (by decide)
  have hcounted : counts = [0, 2, 1, 0] := Except.ok.inj (hcounts.symm.trans (by decide +kernel))
  have hlevelled : levels
      = [Binary64.zero, Binary64.ofRatio 2 3, Binary64.one, Binary64.one] :=
    Except.ok.inj (hlevels.symm.trans (by decide +kernel))
  have hscan : ∀ u column, levels.findIdx? u.stopsAt = some column → t.sample 0 u = .ok column := by
    intro u column hfirst
    obtain ⟨found, hfound, hstops, -⟩ := (hsample u).2 (by rw [hcounted]; decide)
    obtain rfl := Option.some.inj (hstops.symm.trans hfirst)
    exact hfound
  rw [hlevelled] at hscan
  refine ⟨hforeign 1 .negative (by decide), hlevelled ▸ hlevels, hscan _ _ ?_, hscan _ _ ?_,
    hscan _ _ ?_, hscan _ _ ?_⟩ <;> decide +kernel

end Table
end Pseudoword
