import Mathlib
import Pseudoword.Proofs.Rounding
import Pseudoword.Proofs.Tallying

/-! # Levels in order

The levels that counts give do not decrease, which makes the halving search exact: what a draw picks is
the first column whose level is not zero and reaches the draw, where a draw above all levels counts as
the last level. And as each level is told by how many cells of a row have a column up to it, so is the
pick: nothing of the table matters but these numbers.

* **`Distribution.ordered_ofCounts`** — levels that come from counts do not decrease.
* **`Distribution.Reaches d u column`** — a column that a draw may pick; `Distribution.pick_spec` says that
  the first one is picked.
* **`Table.visits`**, **`Table.before`** — how many cells a row has, and how many before a column.
* **`Table.levelOf`**, **`Table.Samples.pick?_eq_some_iff`** — levels and samples, told by these numbers. -/

namespace Pseudoword

namespace Distribution

variable {d : Distribution} {u : Draw} {column : Nat}

/-! ## (1) The first column that reaches a draw -/

/-- **Levels in order**: none is less than an earlier one. -/
def Ordered (d : Distribution) : Prop :=
  ∀ i j, i ≤ j → j < d.size → d.level i ≤ d.level j

/-- The total of a longer beginning is no less. -/
theorem total_take_mono (counts : List Nat) : Monotone fun j => total (counts.take j) := by
  apply monotone_nat_of_le_succ
  intro j
  rw [total_take_succ]
  exact Nat.le_add_right _ _

/-- The total of a beginning is at most the total. -/
theorem total_take_le (counts : List Nat) (j : Nat) : total (counts.take j) ≤ total counts := by
  conv_rhs => rw [← List.take_append_drop j counts, total_append]
  exact Nat.le_add_right _ _

/-- **Levels that come from counts are in order.** -/
theorem ordered_ofCounts (counts : List Nat) : (ofCounts counts).Ordered := by
  intro i j hij hj
  rw [size_ofCounts] at hj
  rw [level_ofCounts (Nat.lt_of_le_of_lt hij hj), level_ofCounts hj]
  have hpart : total (counts.take (i + 1)) ≤ total (counts.take (j + 1)) :=
    total_take_mono counts (Nat.succ_le_succ hij)
  rcases Nat.eq_zero_or_pos (total counts) with hzero | hpos
  · -- without any count, all levels are zero
    have hj := total_take_le counts (j + 1)
    rw [hzero, Nat.le_zero] at hj
    rw [hj, Nat.le_zero] at hpart
    rw [hpart, hj]
    exact Nat.le_refl _
  · exact Binary64.ofRatio_le_ofRatio hpart hpos

/-- **A column that a draw may pick**: its level is not zero, and the draw does not exceed it, unless it
is the last level. -/
structure Reaches (d : Distribution) (u : Draw) (column : Nat) : Prop where
  /-- The level is not zero. -/
  level_ne_zero : d.level column ≠ Binary64.zero
  /-- The draw does not exceed the level, or the level is the last one. -/
  reaches : u.exceeds (d.level column) = false ∨ d.level column = d.level d.last

/-- A draw that exceeds a level exceeds all that are less. -/
theorem exceeds_of_le {x y : Binary64} (h : x ≤ y) (hy : u.exceeds y = true) :
    u.exceeds x = true := by
  cases u with
  | notANumber => cases hy
  | negative => cases hy
  | level size =>
      rw [Draw.level_exceeds] at hy ⊢
      exact Nat.lt_of_le_of_lt h hy

/-- The search passes over the columns whose levels the draw exceeds, and over no others. -/
theorem exceeds_iff_lt_search (hordered : d.Ordered) (u : Draw) {column : Nat}
    (hcolumn : column < d.size) :
    u.exceeds (d.level column) = true ↔ column < d.search u 0 d.size := by
  obtain ⟨hle, hearlier, hresult⟩ :=
    search_spec (d := d) u 0 d.size (Nat.zero_le _) (fun _ h => nomatch h)
      (fun h => absurd h (Nat.lt_irrefl _))
  constructor
  · intro hexceeds
    by_contra hnot
    have hge : d.search u 0 d.size ≤ column := Nat.le_of_not_lt hnot
    have hbelow := hresult (Nat.lt_of_le_of_lt hge hcolumn)
    rw [exceeds_of_le (hordered _ _ hge hcolumn) hexceeds] at hbelow
    cases hbelow
  · intro hlt
    obtain ⟨earlier, hsearch⟩ := Nat.exists_eq_succ_of_ne_zero (Nat.ne_of_gt (Nat.zero_lt_of_lt hlt))
    have hlevel := hordered column earlier (by omega) (by omega)
    exact exceeds_of_le hlevel (hearlier earlier hsearch)

/-- Skipping zeros goes through columns whose level is zero, to one whose level is not. -/
theorem skipZeros_spec (hlive : d.isDead = false) (column : Nat) (hle : column ≤ d.last) :
    column ≤ d.skipZeros column ∧ d.skipZeros column ≤ d.last
      ∧ d.level (d.skipZeros column) ≠ Binary64.zero
      ∧ ∀ j, column ≤ j → j < d.skipZeros column → d.level j = Binary64.zero := by
  fun_induction d.skipZeros column with
  | case1 column h ih =>
      obtain ⟨hskip, hlast, hne, hzero⟩ := ih h.1
      refine ⟨by omega, hlast, hne, fun j hj hlt => ?_⟩
      rcases Nat.eq_or_lt_of_le hj with rfl | hj
      · exact h.2
      · exact hzero j hj hlt
  | case2 column h =>
      refine ⟨Nat.le_refl _, hle, fun hzero => ?_, fun j hj hlt => absurd hlt (Nat.not_lt.mpr hj)⟩
      rcases Nat.lt_or_eq_of_le hle with hlt | heq
      · exact h ⟨hlt, hzero⟩
      · exact level_last_ne_zero hlive (heq ▸ hzero)

/-- **Where skipping begins**: the columns before it do not reach the draw, and those from it on do, as far
as their levels are not zero. -/
theorem start_spec (hordered : d.Ordered) (hlive : d.isDead = false) (u : Draw) :
    let start := if d.last < d.search u 0 d.size then d.runStart d.last else d.search u 0 d.size
    start ≤ d.last
      ∧ (∀ j < start, u.exceeds (d.level j) = true ∧ d.level j ≠ d.level d.last)
      ∧ ∀ j, start ≤ j → j ≤ d.last →
        u.exceeds (d.level j) = false ∨ d.level j = d.level d.last := by
  intro start
  have hlast := last_lt_size hlive
  rcases Nat.lt_or_ge d.last (d.search u 0 d.size) with habove | hwithin
  · -- the draw is above every level, and the run of the last level is what is left
    obtain ⟨hrun, hlevel, hnew⟩ := runStart_spec (d := d) d.last
    have hstart : start = d.runStart d.last := if_pos habove
    rw [hstart]
    refine ⟨hrun, fun j hj => ⟨?_, fun hsame => ?_⟩, fun j hj hle => .inr ?_⟩
    · exact (exceeds_iff_lt_search hordered u (by omega)).mpr (by omega)
    · obtain ⟨earlier, hearlier⟩ := Nat.exists_eq_succ_of_ne_zero (Nat.ne_of_gt (Nat.zero_lt_of_lt hj))
      have hbelow := hordered j earlier (by omega) (by omega)
      have habove := hordered earlier (d.runStart d.last) (by omega) (by omega)
      rw [hsame, ← hlevel] at hbelow
      exact hnew earlier hearlier (Binary64.le_antisymm hbelow habove)
    · have hbelow := hordered (d.runStart d.last) j hj (by omega)
      rw [hlevel] at hbelow
      exact Binary64.le_antisymm (hordered j d.last hle hlast) hbelow
  · -- the search ends at a level that the draw does not exceed
    have hstart : start = d.search u 0 d.size := if_neg (Nat.not_lt.mpr hwithin)
    rw [hstart]
    have hreached : ∀ j, d.search u 0 d.size ≤ j → j ≤ d.last → u.exceeds (d.level j) = false := by
      intro j hj hle
      refine Bool.eq_false_of_not_eq_true fun hexceeds => ?_
      have := (exceeds_iff_lt_search hordered u (by omega)).mp hexceeds
      omega
    refine ⟨hwithin, fun j hj => ?_, fun j hj hle => .inl (hreached j hj hle)⟩
    have hexceeds := (exceeds_iff_lt_search hordered u (by omega)).mpr hj
    refine ⟨hexceeds, fun hsame => ?_⟩
    rw [hsame, hreached d.last hwithin le_rfl] at hexceeds
    cases hexceeds

/-- **A draw picks the first column that reaches it.** -/
theorem pick_spec (hordered : d.Ordered) (hlive : d.isDead = false) (u : Draw) :
    d.pick u ≤ d.last ∧ d.Reaches u (d.pick u) ∧ ∀ j < d.pick u, ¬ d.Reaches u j := by
  obtain ⟨hstart, hearlier, hlater⟩ := start_spec hordered hlive u
  obtain ⟨hskip, hlast, hne, hzero⟩ := skipZeros_spec hlive _ hstart
  refine ⟨hlast, ⟨hne, hlater _ hskip hlast⟩, fun j hj hreaches => ?_⟩
  rcases Nat.lt_or_ge j (if d.last < d.search u 0 d.size then d.runStart d.last
    else d.search u 0 d.size) with hlt | hge
  · obtain ⟨hexceeds, hnotlast⟩ := hearlier j hlt
    rcases hreaches.reaches with hnot | hsame
    · rw [hexceeds] at hnot
      cases hnot
    · exact hnotlast hsame
  · exact hreaches.level_ne_zero (hzero j hge hj)

/-- **The first column that reaches a draw is picked.** -/
theorem pick_eq_of_first (hordered : d.Ordered) (hlive : d.isDead = false)
    (hreaches : d.Reaches u column) (hfirst : ∀ j < column, ¬ d.Reaches u j) :
    d.pick u = column := by
  obtain ⟨-, hpicked, hearlier⟩ := pick_spec hordered hlive u
  rcases Nat.lt_trichotomy (d.pick u) column with hlt | heq | hgt
  · exact absurd hpicked (hfirst _ hlt)
  · exact heq
  · exact absurd hreaches (hearlier _ hgt)

end Distribution

namespace Table

variable {t : Table} {cells : List Cell}

/-! ## (2) Levels and cells -/

/-- **How many cells are in a row.** -/
def visits (cells : List Cell) (row : Nat) : Nat :=
  cells.countP fun cell => cell.1 = row

theorem visits_append (cells later : List Cell) (row : Nat) :
    visits (cells ++ later) row = visits cells row + visits later row :=
  List.countP_append

/-- **How many cells are in a row, before a column.** -/
def before (cells : List Cell) (row column : Nat) : Nat :=
  cells.countP fun cell => cell.1 = row ∧ cell.2 < column

@[simp] theorem before_zero (cells : List Cell) (row : Nat) : before cells row 0 = 0 := by
  simp [before]

/-- One more column adds its cell. -/
theorem before_succ (cells : List Cell) (row column : Nat) :
    before cells row (column + 1) = before cells row column + cells.count (row, column) := by
  induction cells with
  | nil => rfl
  | cons cell cells ih =>
      have hcell : (if cell.1 = row ∧ cell.2 < column + 1 then 1 else 0)
          = (if cell.1 = row ∧ cell.2 < column then 1 else 0)
            + if cell = (row, column) then 1 else 0 := by
        simp only [Prod.ext_iff]
        by_cases hrow : cell.1 = row
        · simp only [hrow, true_and]
          split_ifs <;> omega
        · simp [hrow]
      simp only [before, List.countP_cons, List.count_cons, decide_eq_true_eq, beq_iff_eq] at ih ⊢
      rw [ih, hcell]
      omega

/-- Before a column that none of the cells goes beyond, there are all cells of the row. -/
theorem before_eq_visits {row column : Nat} (h : ∀ cell ∈ cells, cell.1 = row → cell.2 < column) :
    before cells row column = visits cells row := by
  apply List.countP_congr
  intro cell hcell
  simpa using fun hrow => h cell hcell hrow

/-- There are no more cells before a column than before a later one. -/
theorem before_mono (cells : List Cell) (row : Nat) : Monotone (before cells row) := by
  apply monotone_nat_of_le_succ
  intro column
  rw [before_succ]
  exact Nat.le_add_right _ _

theorem before_le_visits (cells : List Cell) (row column : Nat) :
    before cells row column ≤ visits cells row :=
  List.countP_mono_left fun cell _ => by simp +contextual

/-- The counts before a column are the cells before it. -/
theorem total_take_rowCounts (cells : List Cell) (row : Nat) {columns column : Nat}
    (h : column ≤ columns) :
    Distribution.total ((rowCounts columns cells row).take column) = before cells row column := by
  induction column with
  | zero => simp
  | succ column ih =>
      have hget : (rowCounts columns cells row).getD column 0 = cells.count (row, column) := by
        simp [rowCounts, List.getD_eq_getElem?_getD, List.getElem?_range (Nat.lt_of_succ_le h)]
      rw [Distribution.total_take_succ, ih (Nat.le_of_succ_le h), hget, before_succ]

/-- All counts of a row are its cells. -/
theorem total_rowCounts {columns row : Nat} (h : ∀ cell ∈ cells, cell.1 = row → cell.2 < columns) :
    Distribution.total (rowCounts columns cells row) = visits cells row := by
  have hall : (rowCounts columns cells row).take columns = rowCounts columns cells row :=
    List.take_of_length_le (by simp [rowCounts])
  rw [← before_eq_visits h, ← total_take_rowCounts cells row le_rfl, hall]

/-- **The level of a column, told by cells**: the part of the cells of its row that have a column up to
it. -/
def levelOf (cells : List Cell) (row column : Nat) : Binary64 :=
  Binary64.ofRatio (before cells row (column + 1)) (visits cells row)

/-- The levels that the counts of a row give. -/
theorem level_rowCounts {columns row column : Nat}
    (h : ∀ cell ∈ cells, cell.1 = row → cell.2 < columns) (hcolumn : column < columns) :
    (Distribution.ofCounts (rowCounts columns cells row)).level column
      = levelOf cells row column := by
  rw [Distribution.level_ofCounts (by simpa [rowCounts] using hcolumn), total_rowCounts h,
    total_take_rowCounts cells row hcolumn, levelOf]

/-- From the last column on, the level is one, unless the row has no cell. -/
theorem levelOf_eq_one {row column : Nat} (h : ∀ cell ∈ cells, cell.1 = row → cell.2 < column + 1)
    (hlive : 0 < visits cells row) : levelOf cells row column = Binary64.one := by
  rw [levelOf, before_eq_visits h, Binary64.ofRatio_self hlive]

/-- The levels of a row without a cell are zero. -/
theorem levelOf_eq_zero {row : Nat} (hdead : visits cells row = 0) (column : Nat) :
    levelOf cells row column = Binary64.zero := by
  have hbefore : before cells row (column + 1) = 0 :=
    Nat.le_zero.mp (hdead ▸ before_le_visits cells row _)
  rw [levelOf, hbefore, Binary64.ofRatio_zero]

/-- The counts of a row are dead exactly if it has no cell. -/
theorem isDead_rowCounts {columns row : Nat}
    (h : ∀ cell ∈ cells, cell.1 = row → cell.2 < columns) :
    (Distribution.ofCounts (rowCounts columns cells row)).isDead = true ↔ visits cells row = 0 := by
  rw [Distribution.isDead_ofCounts, total_rowCounts h]

/-! ## (3) Sampling a row -/

/-- **A column of a row that a draw may pick**: its level is not zero, and the draw does not exceed it,
unless it is one. -/
structure Reached (cells : List Cell) (row : Nat) (u : Draw) (column : Nat) : Prop where
  /-- The level is not zero. -/
  level_ne_zero : levelOf cells row column ≠ Binary64.zero
  /-- The draw does not exceed the level, or the level is one. -/
  reached : u.exceeds (levelOf cells row column) = false ∨ levelOf cells row column = Binary64.one

/-- Which columns a draw may pick depends on their levels alone. -/
theorem reached_congr {cells' : List Cell} {row row' column column' : Nat} {u : Draw}
    (hlevel : levelOf cells' row' column' = levelOf cells row column) :
    Reached cells' row' u column' ↔ Reached cells row u column := by
  constructor
  · intro h
    exact ⟨hlevel ▸ h.level_ne_zero, hlevel ▸ h.reached⟩
  · intro h
    exact ⟨hlevel.symm ▸ h.level_ne_zero, hlevel.symm ▸ h.reached⟩

/-- A row in which a draw may pick a column has a cell. -/
theorem Reached.visits_pos {row column : Nat} {u : Draw} (h : Reached cells row u column) :
    0 < visits cells row :=
  Nat.pos_of_ne_zero fun hzero => h.level_ne_zero (levelOf_eq_zero hzero column)

/-- A row that has a cell has a column. -/
theorem columns_pos_of_visits_pos {columns row : Nat}
    (h : ∀ cell ∈ cells, cell.1 = row → cell.2 < columns) (hlive : 0 < visits cells row) :
    0 < columns := by
  obtain ⟨cell, hcell, hrow⟩ := List.countP_pos_iff.mp hlive
  exact Nat.zero_lt_of_lt (h cell hcell (of_decide_eq_true hrow))

/-- What a draw may pick from the counts of a row is what it may pick by the cells. -/
theorem reaches_rowCounts_iff {columns row column : Nat} {u : Draw}
    (h : ∀ cell ∈ cells, cell.1 = row → cell.2 < columns) (hlive : 0 < visits cells row)
    (hcolumn : column < columns) :
    (Distribution.ofCounts (rowCounts columns cells row)).Reaches u column
      ↔ Reached cells row u column := by
  have hcolumns := columns_pos_of_visits_pos h hlive
  have hlast : (Distribution.ofCounts (rowCounts columns cells row)).last = columns - 1 := by
    simp [Distribution.last, rowCounts]
  have hone : levelOf cells row (columns - 1) = Binary64.one :=
    levelOf_eq_one (by rwa [Nat.sub_add_cancel hcolumns]) hlive
  have hlevel := level_rowCounts h hcolumn
  have hlevelLast := level_rowCounts h (Nat.sub_lt hcolumns Nat.one_pos)
  constructor
  · intro hreaches
    refine ⟨hlevel ▸ hreaches.level_ne_zero, ?_⟩
    rw [← hone, ← hlevelLast, ← hlevel, ← hlast]
    exact hreaches.reaches
  · intro hreached
    refine ⟨hlevel ▸ hreached.level_ne_zero, ?_⟩
    rw [hlast, hlevelLast, hlevel, hone]
    exact hreached.reached

/-- **Sampling a row, told by its cells**: a draw picks the first column that it may pick. -/
theorem Samples.pick?_eq_some_iff (h : t.Samples cells) {row column : Nat} {u : Draw} :
    t.pick? row u = some column
      ↔ Reached cells row u column ∧ ∀ j < column, ¬ Reached cells row u j := by
  have hlt : ∀ cell ∈ cells, cell.1 = row → cell.2 < t.columns.toNat := fun cell hcell _ =>
    Int.lt_toNat.mpr (h.lt_columns cell hcell)
  have hordered := Distribution.ordered_ofCounts (rowCounts t.columns.toNat cells row)
  have hsize : (Distribution.ofCounts (rowCounts t.columns.toNat cells row)).size
      = t.columns.toNat := by
    simp [rowCounts]
  have hlive_iff : (Distribution.ofCounts (rowCounts t.columns.toNat cells row)).isDead = false
      ↔ 0 < visits cells row := by
    rw [Nat.pos_iff_ne_zero, ← not_iff_not, Bool.not_eq_false, isDead_rowCounts hlt, not_not]
  rw [pick?, h.distribution?_eq row]
  constructor
  · intro hpick
    obtain ⟨d, hd, rfl⟩ := Option.map_eq_some_iff.mp hpick
    obtain ⟨hd, hlive⟩ := Option.filter_eq_some_iff.mp hd
    obtain rfl := Option.some.inj hd
    have hlive : (Distribution.ofCounts (rowCounts t.columns.toNat cells row)).isDead = false := by
      simpa using hlive
    obtain ⟨hle, hreaches, hfirst⟩ := Distribution.pick_spec hordered hlive u
    have hpicked := Nat.lt_of_le_of_lt hle (Distribution.last_lt_size hlive)
    rw [hsize] at hpicked
    have hvisits := hlive_iff.mp hlive
    refine ⟨(reaches_rowCounts_iff hlt hvisits hpicked).mp hreaches, fun j hj hreached => ?_⟩
    exact hfirst j hj ((reaches_rowCounts_iff hlt hvisits (hj.trans hpicked)).mpr hreached)
  · rintro ⟨hreached, hfirst⟩
    have hvisits := hreached.visits_pos
    have hlive := hlive_iff.mpr hvisits
    have hcolumns := columns_pos_of_visits_pos hlt hvisits
    -- the last column may be picked by any draw, so that the first such column is one of the table
    have hcolumn : column < t.columns.toNat := by
      by_contra hge
      have hone : levelOf cells row (t.columns.toNat - 1) = Binary64.one :=
        levelOf_eq_one (by rwa [Nat.sub_add_cancel hcolumns]) hvisits
      refine hfirst (t.columns.toNat - 1) (by omega) ⟨?_, .inr hone⟩
      rw [hone]
      decide +kernel
    have hpick := Distribution.pick_eq_of_first hordered hlive
      ((reaches_rowCounts_iff hlt hvisits hcolumn).mpr hreached) fun j hj hreaches =>
        hfirst j hj ((reaches_rowCounts_iff hlt hvisits (hj.trans hcolumn)).mp hreaches)
    rw [Option.filter_some, hlive, ← hpick]
    rfl

/-- A column that a draw may pick has the level of a column that was seen, at or before it. -/
theorem Reached.exists_mem {row column : Nat} {u : Draw} (h : Reached cells row u column) :
    ∃ j ≤ column, (row, j) ∈ cells ∧ Reached cells row u j := by
  induction column with
  | zero =>
      refine ⟨0, le_rfl, ?_, h⟩
      by_contra hnot
      refine h.level_ne_zero ?_
      rw [levelOf, before_succ, before_zero, List.count_eq_zero_of_not_mem hnot, Binary64.ofRatio_zero]
  | succ column ih =>
      by_cases hmem : (row, column + 1) ∈ cells
      · exact ⟨column + 1, le_rfl, hmem, h⟩
      · -- a column that was not seen has the level of the one before
        have hlevel : levelOf cells row (column + 1) = levelOf cells row column := by
          rw [levelOf, before_succ, List.count_eq_zero_of_not_mem hmem, Nat.add_zero, levelOf]
        obtain ⟨j, hj, hseen⟩ := ih ((reached_congr hlevel).mp h)
        exact ⟨j, Nat.le_succ_of_le hj, hseen⟩

/-- **Columns that were not seen do not matter**: a draw picks the first column that was seen and that
it may pick. -/
theorem Samples.pick?_eq_some_iff_seen (h : t.Samples cells) {row column : Nat} {u : Draw} :
    t.pick? row u = some column
      ↔ (row, column) ∈ cells ∧ Reached cells row u column
        ∧ ∀ j < column, (row, j) ∈ cells → ¬ Reached cells row u j := by
  constructor
  · intro hpick
    obtain ⟨hreached, hfirst⟩ := h.pick?_eq_some_iff.mp hpick
    exact ⟨h.mem_of_pick? hpick, hreached, fun j hj _ => hfirst j hj⟩
  · rintro ⟨-, hreached, hfirst⟩
    refine h.pick?_eq_some_iff.mpr ⟨hreached, fun j hj hearlier => ?_⟩
    obtain ⟨seen, hseen, hmem, hreaches⟩ := hearlier.exists_mem
    exact hfirst seen (hseen.trans_lt hj) hmem hreaches

/-- **A row is dead exactly if it has no cell.** -/
theorem Samples.pick?_eq_none_iff_visits (h : t.Samples cells) {row : Nat} {u : Draw} :
    t.pick? row u = none ↔ visits cells row = 0 := by
  rw [h.pick?_eq_none_iff, visits, List.countP_eq_zero]
  constructor
  · intro hnone cell hcell hrow
    exact hnone cell.2 (of_decide_eq_true hrow ▸ hcell)
  · intro hnone column hcell
    exact hnone _ hcell (decide_eq_true rfl)

/-- A row is dead exactly if nothing is picked in it. -/
theorem isDeadRow_eq_isNone_pick? (t : Table) (row : Nat) (u : Draw) :
    t.isDeadRow row = (t.pick? row u).isNone := by
  rw [isDeadRow, pick?, Option.isNone_map]

/-! ## (4) What compiling writes -/

/-- The cells that a table tallies have columns of the table. -/
theorem Tallies.lt_columns (h : t.Tallies cells) (row : Nat) :
    ∀ cell ∈ cells, cell.1 = row → cell.2 < t.columns.toNat :=
  fun cell hcell _ => Int.lt_toNat.mpr (h.contains cell hcell).2

/-- **The total of a row** is how many cells it has. -/
theorem Tallies.total_eq (h : t.Tallies cells) (row : Nat) : t.total row = visits cells row := by
  have hrow := h.toList_rowOf row
  rw [rowOf] at hrow
  rw [total, ← total_rowCounts (h.lt_columns row), ← hrow]
  cases t.counts[row]? with
  | some counts => rfl
  | none =>
      symm
      rw [Distribution.total_eq_zero_iff, zeros, Array.toList_replicate]
      exact fun n hn => List.eq_of_mem_replicate hn

/-- The total of a row is not more than all observations. -/
theorem Tallies.total_le_observations (h : t.Tallies cells) (row : Nat) :
    t.total row ≤ t.observations := by
  rw [h.total_eq, h.observations_eq]
  exact List.countP_le_length

/-- The levels that the counts of a row give, one by one. -/
theorem toList_levels_rowCounts {columns row : Nat}
    (h : ∀ cell ∈ cells, cell.1 = row → cell.2 < columns) :
    (Distribution.ofCounts (rowCounts columns cells row)).levels.toList
      = (List.range columns).map (levelOf cells row) := by
  have hsize : (Distribution.ofCounts (rowCounts columns cells row)).levels.size = columns :=
    (Distribution.size_ofCounts _).trans (by simp [rowCounts])
  apply List.ext_getElem
  · rw [Array.length_toList, hsize, List.length_map, List.length_range]
  · intro column hcolumn _
    rw [Array.length_toList] at hcolumn
    have hlevel := level_rowCounts h (hsize ▸ hcolumn)
    rw [Distribution.level, Array.getD_eq_getD_getElem?, Array.getElem?_eq_getElem hcolumn] at hlevel
    simpa using hlevel

/-- **The levels of a row after compiling** are those that its cells tell. -/
theorem Tallies.toList_levelsOf_settle (h : t.Tallies cells) (row : Nat) :
    (t.settle.levelsOf row).toList = (List.range t.columns.toNat).map (levelOf cells row) := by
  have hrow := h.toList_rowOf row
  have htotal := h.total_eq row
  rw [rowOf] at hrow
  rw [total] at htotal
  rw [levelsOf, Table.settle, Std.TreeMap.getElem?_map]
  cases hcounts : t.counts[row]? with
  | some counts =>
      simp only [hcounts] at hrow
      rw [← toList_levels_rowCounts (h.lt_columns row), ← hrow]
      rfl
  | none =>
      -- nothing was counted in the row, so that all of its levels are zero
      simp only [hcounts] at htotal
      simp only [Option.map_none, Array.toList_replicate]
      refine (List.eq_replicate_iff.mpr ⟨by simp, fun level hlevel => ?_⟩).symm
      obtain ⟨column, -, rfl⟩ := List.mem_map.mp hlevel
      exact levelOf_eq_zero htotal.symm column

end Table
end Pseudoword
