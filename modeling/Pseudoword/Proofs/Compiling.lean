import Mathlib
import Pseudoword.Proofs.Quantiles

/-! # What compiling writes

Compiling a row adds its counts up, column by column, and divides each sum by the last one. Whatever the
counts are, these levels climb to one and stay where nothing was counted. That they climb at each column
that was counted takes rounding that tells the sums apart, which it does as long as the row has no more
than `2 ^ 53` counts.

* **`Distribution.levelAfter counts column`** — the level after so many columns, zero before the first one.
* **`Distribution.toList_levels_ofCounts`** — these are the levels that counts give.
* **`Table.exists_compile`** — and those that compiling writes into a row with the counts.
* **`Table.exists_record`** — every list of counts is that of a row.
* **`Table.levels_climb`** — how the levels of a row climb. -/

namespace Pseudoword

/-- Rounded quotients of small numbers increase with the exact ones. -/
theorem Binary64.ofRatio_lt_ofRatio_iff {n m d : Nat} (hd : 0 < d) (hm : m ≤ d)
    (hsmall : d ≤ 2 ^ 53) : ofRatio n d < ofRatio m d ↔ n < m := by
  rw [← Binary64.not_le, ofRatio_le_ofRatio_iff hd hm hsmall, Nat.not_le]

namespace Distribution

variable {counts : List Nat} {column : Nat}

/-! ## (1) The levels that counts give -/

/-- **The level after a number of columns**: of all counts the part that they have, rounded. -/
def levelAfter (counts : List Nat) (column : Nat) : Binary64 :=
  Binary64.ofRatio (counts.take column).sum counts.sum

@[simp] theorem levelAfter_zero (counts : List Nat) : levelAfter counts 0 = Binary64.zero :=
  Binary64.ofRatio_zero _

/-- After all columns, the level is one. -/
theorem levelAfter_length (hlive : 0 < counts.sum) :
    levelAfter counts counts.length = Binary64.one := by
  rw [levelAfter, List.take_length, Binary64.ofRatio_self hlive]

/-- **Levels do not decrease.** -/
theorem levelAfter_mono (hlive : 0 < counts.sum) {earlier : Nat} (hle : earlier ≤ column) :
    levelAfter counts earlier ≤ levelAfter counts column :=
  Binary64.ofRatio_le_ofRatio (total_take_mono counts hle) hlive

theorem levelAfter_le_one (hlive : 0 < counts.sum) (column : Nat) :
    levelAfter counts column ≤ Binary64.one :=
  Binary64.ofRatio_le_one (total_take_le counts column) hlive

/-- **A level is above the one before exactly if its column was counted**, if there are not too many
counts. -/
theorem levelAfter_lt_succ_iff (hlive : 0 < counts.sum) (hsmall : counts.sum ≤ 2 ^ 53)
    (column : Nat) :
    levelAfter counts column < levelAfter counts (column + 1) ↔ 0 < counts.getD column 0 := by
  have hsucc : (counts.take (column + 1)).sum = (counts.take column).sum + counts.getD column 0 :=
    total_take_succ counts column
  have hle : (counts.take (column + 1)).sum ≤ counts.sum := total_take_le counts (column + 1)
  rw [levelAfter, levelAfter, Binary64.ofRatio_lt_ofRatio_iff hlive hle hsmall, hsucc]
  exact Nat.lt_add_right_iff_pos

/-- **The levels that counts give** are those after each column. -/
theorem toList_levels_ofCounts (counts : List Nat) :
    (ofCounts counts).levels.toList
      = (List.range counts.length).map fun column => levelAfter counts (column + 1) := by
  have hsize : (ofCounts counts).levels.size = counts.length := size_ofCounts counts
  apply List.ext_getElem
  · rw [Array.length_toList, hsize, List.length_map, List.length_range]
  · intro column hcolumn _
    rw [Array.length_toList] at hcolumn
    have hlevel := level_ofCounts (hsize ▸ hcolumn)
    rw [level, Array.getD_eq_getD_getElem?, Array.getElem?_eq_getElem hcolumn] at hlevel
    rw [Array.getElem_toList, List.getElem_map, List.getElem_range]
    exact hlevel

end Distribution

namespace Table

variable {t : Table} {counts : List Nat} {column : Nat}

/-! ## (2) Compiling a row -/

/-- **What compiling writes into a row** are the levels that its counts give, unless there are none. Where
counts can be looked up, there is a column, so that compiling does not fail. -/
theorem exists_compile {row : Int} (hlive : 0 < counts.sum) (hcounts : t.countsOf row = .ok counts) :
    ∃ next, t.compile = .ok next
      ∧ next.levelsAt row = .ok (Distribution.ofCounts counts).levels.toList := by
  have hsettled : t.settle.cell row 0 = t.cell row 0 := rfl
  rw [countsOf] at hcounts
  cases hcell : t.cell row 0 with
  | error fault =>
      rw [hcell] at hcounts
      cases hcounts
  | ok cell =>
      rw [hcell] at hcounts
      obtain rfl : (t.rowOf cell.1).toList = counts := Except.ok.inj hcounts
      have hcolumns : t.columns ≠ 0 := by
        obtain ⟨-, hcontains⟩ := cell_eq_ok hcell
        have := hcontains.2
        omega
      refine ⟨t.settle, if_neg hcolumns, ?_⟩
      rw [levelsAt, hsettled, hcell]
      show Except.ok (t.settle.levelsOf cell.1).toList = _
      congr 1
      rw [rowOf] at hlive ⊢
      rw [levelsOf, settle, Std.TreeMap.getElem?_map]
      cases hstored : t.counts[cell.1]? with
      | some stored => rfl
      | none =>
          -- a row that is not stored has no count
          simp only [hstored, zeros, Array.toList_replicate, List.sum_replicate, smul_zero] at hlive
          cases hlive

/-- **The cells of the first row that have given counts**, column by column. -/
def cellsCounting (counts : List Nat) : List Cell :=
  (List.range counts.length).flatMap fun column => List.replicate (counts.getD column 0) (0, column)

/-- Repeated cells of different columns are counted column by column. -/
theorem count_flatMap_replicate {columns : List Nat} (hnodup : columns.Nodup) (times : Nat → Nat) :
    (columns.flatMap fun j => List.replicate (times j) ((0, j) : Cell)).count (0, column)
      = if column ∈ columns then times column else 0 := by
  induction columns with
  | nil => rfl
  | cons first columns ih =>
      obtain ⟨hfirst, hnodup⟩ := List.nodup_cons.mp hnodup
      rw [List.flatMap_cons, List.count_append, ih hnodup, List.count_replicate]
      by_cases heq : first = column
      · subst heq
        rw [if_pos (beq_self_eq_true _), if_neg hfirst, if_pos List.mem_cons_self, Nat.add_zero]
      · have hcell : ((0, first) : Cell) ≠ (0, column) := fun hsame => heq (Prod.mk.inj hsame).2
        rw [if_neg (by simpa using hcell), Nat.zero_add]
        simp only [List.mem_cons, Ne.symm heq, false_or]

/-- **Every list of counts is that of a row**, after recording some places in a fresh table. -/
theorem exists_record (hlive : 0 < counts.sum) :
    ∃ places table, (empty 1 counts.length).record places = .ok table
      ∧ table.countsOf 0 = .ok counts := by
  have hcolumns : 0 < counts.length := List.length_pos_of_sum_pos counts hlive
  have hcontains : ∀ cell ∈ cellsCounting counts, (empty 1 counts.length).Contains cell := by
    intro cell hcell
    obtain ⟨column, hcolumn, hmem⟩ := List.mem_flatMap.mp hcell
    obtain rfl := List.eq_of_mem_replicate hmem
    exact ⟨Int.zero_lt_one, Int.ofNat_lt.mpr (List.mem_range.mp hcolumn)⟩
  have htallies : ((empty 1 counts.length).tally (cellsCounting counts)).Tallies
      (cellsCounting counts) := (Tallies.empty 1 counts.length).tally hcontains
  refine ⟨_, _, record_of_contains hcontains, ?_⟩
  have hcell : ((empty 1 counts.length).tally (cellsCounting counts)).cell 0 0 = .ok (0, 0) :=
    cell_of_contains ⟨Int.zero_lt_one, Int.ofNat_lt.mpr hcolumns⟩
  have hcounts : rowCounts counts.length (cellsCounting counts) 0 = counts := by
    apply List.ext_getElem
    · rw [rowCounts, List.length_map, List.length_range]
    · intro column hcolumn hlt
      simp only [rowCounts, List.getElem_map, List.getElem_range]
      rw [cellsCounting, count_flatMap_replicate List.nodup_range, if_pos (List.mem_range.mpr hlt),
        List.getD_eq_getElem _ _ hlt]
  rw [countsOf, hcell]
  show Except.ok (((empty 1 counts.length).tally (cellsCounting counts)).rowOf 0).toList = _
  rw [htallies.toList_rowOf]
  exact congrArg Except.ok hcounts

/-! ## (3) The levels of a row -/

/-- **How the levels of a row climb**, for all counts that a row may have, if there is one at all. Compiling
writes a level for each column, the rounded part of all counts up to it. These levels do not decrease, are
between zero and one, and end in one; and where the sums of the counts are the same, so are the levels. If
there are no more than `2 ^ 53` counts, a level is above the one before, or above zero in the first column,
exactly where a column was counted. -/
theorem levels_climb {counts : List Nat} (hlive : 1 ≤ counts.sum) :
    let levels : List Binary64 := (Distribution.ofCounts counts).levels.toList
    (∀ (t : Table) (row : Int), t.countsOf row = .ok counts →
        ∃ next, t.compile = .ok next ∧ next.levelsAt row = .ok levels)
      ∧ (∃ places t, (empty 1 counts.length).record places = .ok t ∧ t.countsOf 0 = .ok counts)
      ∧ Normalises counts levels
      ∧ levels.Pairwise (· ≤ ·)
      ∧ (∀ level ∈ levels, Binary64.zero ≤ level ∧ level ≤ Binary64.one)
      ∧ levels.getLast? = some Binary64.one
      ∧ (∀ i j (hi : i < levels.length) (hj : j < levels.length),
        (counts.take (i + 1)).sum = (counts.take (j + 1)).sum → levels[i] = levels[j])
      ∧ (counts.sum ≤ 2 ^ 53 →
        (∀ h : 0 < levels.length, Binary64.zero < levels[0] ↔ 0 < counts.getD 0 0)
        ∧ ∀ column (h : column + 1 < levels.length),
          levels[column] < levels[column + 1] ↔ 0 < counts.getD (column + 1) 0) := by
  intro levels
  have hlevels : levels = (List.range counts.length).map fun column =>
      Distribution.levelAfter counts (column + 1) := Distribution.toList_levels_ofCounts counts
  have hlength : levels.length = counts.length := by
    rw [hlevels, List.length_map, List.length_range]
  have hget : ∀ column (h : column < levels.length),
      levels[column] = Distribution.levelAfter counts (column + 1) := by
    intro column h
    simp only [hlevels, List.getElem_map, List.getElem_range]
  have hcolumns : 0 < counts.length := List.length_pos_of_sum_pos counts hlive
  refine ⟨fun t row => exists_compile hlive, exists_record hlive,
    ⟨hlength, fun _ column h => ?_, fun hzero => by omega⟩, ?_, fun level hlevel => ?_, ?_,
    fun i j hi hj hsum => ?_, fun hsmall => ⟨fun h => ?_, fun column h => ?_⟩⟩
  · rw [hget column h]
    exact Binary64.isRounding_ofRatio _ hlive
  · rw [hlevels, List.pairwise_map]
    exact List.pairwise_lt_range.imp fun hlt =>
      Distribution.levelAfter_mono hlive (Nat.succ_le_succ hlt.le)
  · rw [hlevels] at hlevel
    obtain ⟨column, -, rfl⟩ := List.mem_map.mp hlevel
    exact ⟨Nat.zero_le _, Distribution.levelAfter_le_one hlive _⟩
  · rw [hlevels, List.getLast?_map, List.getLast?_range, if_neg hcolumns.ne', Option.map_some,
      Nat.sub_add_cancel hcolumns, Distribution.levelAfter_length hlive]
  · rw [hget i hi, hget j hj, Distribution.levelAfter, hsum, Distribution.levelAfter]
  · rw [hget 0 h, ← Distribution.levelAfter_zero counts]
    exact Distribution.levelAfter_lt_succ_iff hlive hsmall 0
  · rw [hget column (Nat.lt_of_succ_lt h), hget (column + 1) h]
    exact Distribution.levelAfter_lt_succ_iff hlive hsmall (column + 1)

/-- In a row with the counts 0, 2, 1 and 0, the level climbs at the second column and at the third, and at no
other. -/
theorem levels_climb_fourColumns :
    let levels : List Binary64 := (Distribution.ofCounts [0, 2, 1, 0]).levels.toList
    1 ≤ [0, 2, 1, 0].sum
      ∧ (∃ next, ((empty 1 4).tally [(0, 1), (0, 2), (0, 1)]).compile = .ok next
        ∧ next.levelsAt 0 = .ok levels)
      ∧ ∃ _ : levels.length = 4, ¬ Binary64.zero < levels[0] ∧ levels[0] < levels[1]
        ∧ levels[1] < levels[2] ∧ levels[2] = levels[3] := by
  intro levels
  have hlive : 1 ≤ [0, 2, 1, 0].sum := by decide
  obtain ⟨hcompiles, -, hnormalises, -, -, -, hsame, hstrict⟩ := levels_climb hlive
  obtain ⟨hfirst, hnext⟩ := hstrict (by decide)
  have hlength : levels.length = 4 := hnormalises.1
  have hcounts : ((empty 1 4).tally [(0, 1), (0, 2), (0, 1)]).countsOf 0 = .ok [0, 2, 1, 0] := by
    decide +kernel
  refine ⟨hlive, hcompiles _ 0 hcounts, hlength, ?_, ?_, ?_, ?_⟩
  · rw [hfirst (by rw [hlength]; decide)]
    decide
  · exact (hnext 0 (by rw [hlength]; decide)).mpr (by decide)
  · exact (hnext 1 (by rw [hlength]; decide)).mpr (by decide)
  · exact hsame 2 3 (by rw [hlength]; decide) (by rw [hlength]; decide) rfl

/-- Beyond the bound, a column that was counted can be rounded away. -/
example : (Distribution.ofCounts [2 ^ 54 - 1, 1]).levels = #[Binary64.one, Binary64.one] := by
  decide +kernel

end Table
end Pseudoword
