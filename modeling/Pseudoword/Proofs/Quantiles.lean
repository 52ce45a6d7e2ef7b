import Mathlib
import Pseudoword.Proofs.Scanning

/-! # Quantiles

A row with as many counts as a number `n` says divides the draws up to one into `n` parts, and gives each
column as many of them as it has counts. Hence the quantiles, which are the quotients of the numbers from
one to `n` by `n`, pick the columns in order, each as often as it was counted. Rounding does not disturb this,
because as long as `n` is at most `2 ^ 53` it tells the quotients apart.

* **`Binary64.ofRatio_le_ofRatio_iff`** — rounded quotients are in the order of the exact ones.
* **`Table.Samples.pick?_ofRatio_iff`** — which column a quantile picks.
* **`Table.Samples.count_pick?_ofRatio`** — how many quantiles pick a column.
* **`Table.quantiles_run`** — sampling by quantiles after every run of operations. -/

namespace Pseudoword

/-- **Rounded quotients of small numbers are in the order of the exact ones.** -/
theorem Binary64.ofRatio_le_ofRatio_iff {n m d : Nat} (hd : 0 < d) (hn : n ≤ d)
    (hsmall : d ≤ 2 ^ 53) : ofRatio n d ≤ ofRatio m d ↔ n ≤ m := by
  constructor
  · intro hle
    by_contra hlt
    have hrounded : ofRatio m d < ofRatio n d := ofRatio_lt_ofRatio (not_le.mp hlt) hn hsmall
    exact Binary64.not_lt.mpr hle hrounded
  · intro hle
    exact ofRatio_le_ofRatio hle hd

/-- Of the numbers below a bound, those from one number on and before another. -/
theorem countP_range_between (low high bound : Nat) :
    (List.range bound).countP (fun k => low ≤ k ∧ k < high) = min bound high - min bound low := by
  induction bound with
  | zero => simp
  | succ bound ih =>
      rw [List.range_succ, List.countP_append, ih, List.countP_singleton]
      split
      · next hbetween =>
        have := of_decide_eq_true hbetween
        omega
      · next hoffside =>
        have : ¬ (low ≤ bound ∧ bound < high) := by simpa using hoffside
        omega

namespace Table

variable {t : Table} {cells settled : List Cell} {row column : Nat}

/-! ## (1) The column that a quantile picks -/

/-- **A quantile may pick the columns up to which there are as many counts as it says.** -/
theorem reached_ofRatio_iff (hsmall : visits cells row ≤ 2 ^ 53) {k : Nat} (hk : 0 < k)
    (hle : k ≤ visits cells row) :
    Reached cells row (.level (Binary64.ofRatio k (visits cells row))) column
      ↔ k ≤ before cells row (column + 1) := by
  have hvisits : 0 < visits cells row := hk.trans_le hle
  have hpos := Binary64.ofRatio_pos hk hle hsmall
  have hone := Binary64.ofRatio_le_one hle hvisits
  rw [reached_iff_stopsAt, Draw.stopsAt, if_pos hone, decide_eq_true_iff, levelOf,
    Binary64.ofRatio_le_ofRatio_iff hvisits hle hsmall]
  -- a level that reaches the quantile is not zero
  refine and_iff_right_of_imp fun hbefore => ?_
  exact Nat.lt_of_lt_of_le hpos (Binary64.ofRatio_le_ofRatio hbefore hvisits)

/-- **The column that a quantile picks** is the one whose counts take it in, when counts are gone through
column by column. -/
theorem Samples.pick?_ofRatio_iff (h : t.Samples cells) (hsmall : visits cells row ≤ 2 ^ 53) {k : Nat}
    (hk : 0 < k) (hle : k ≤ visits cells row) :
    t.pick? row (.level (Binary64.ofRatio k (visits cells row))) = some column
      ↔ before cells row column < k ∧ k ≤ before cells row (column + 1) := by
  rw [h.pick?_eq_some_iff]
  simp only [reached_ofRatio_iff hsmall hk hle, not_le]
  constructor
  · rintro ⟨hreached, hearlier⟩
    refine ⟨?_, hreached⟩
    cases column with
    | zero => rwa [before_zero]
    | succ column => exact hearlier column (Nat.lt_succ_self column)
  · rintro ⟨hbelow, hreached⟩
    exact ⟨hreached, fun j hj => (before_mono cells row hj).trans_lt hbelow⟩

/-- A quantile picks a column. -/
theorem Samples.exists_pick?_ofRatio (h : t.Samples cells) {k : Nat} (hk : 0 < k)
    (hle : k ≤ visits cells row) :
    ∃ column, t.pick? row (.level (Binary64.ofRatio k (visits cells row))) = some column := by
  refine Option.ne_none_iff_exists'.mp fun hnone => ?_
  rw [h.pick?_eq_none_iff_visits] at hnone
  omega

/-- **A column is picked by as many quantiles as it has counts.** -/
theorem Samples.count_pick?_ofRatio (h : t.Samples cells) (hsmall : visits cells row ≤ 2 ^ 53)
    (column : Nat) :
    ((List.range (visits cells row)).countP fun k =>
        t.pick? row (.level (Binary64.ofRatio (k + 1) (visits cells row))) = some column)
      = cells.count (row, column) := by
  have hpicks : ∀ k ∈ List.range (visits cells row),
      decide (t.pick? row (.level (Binary64.ofRatio (k + 1) (visits cells row))) = some column) = true
        ↔ decide (before cells row column ≤ k ∧ k < before cells row (column + 1)) = true := by
    intro k hk
    rw [decide_eq_true_iff, decide_eq_true_iff,
      h.pick?_ofRatio_iff hsmall (Nat.succ_pos k) (List.mem_range.mp hk), Nat.lt_succ_iff,
      Nat.succ_le_iff]
  rw [List.countP_congr hpicks, countP_range_between]
  have hlow := before_le_visits cells row column
  have hhigh := before_le_visits cells row (column + 1)
  rw [Nat.min_eq_right hlow, Nat.min_eq_right hhigh, before_succ, Nat.add_sub_cancel_left]

/-! ## (2) The counts of a row -/

/-- The sum of the counts before a column, which may lie beyond all of them. -/
theorem sum_take_rowCounts {columns : Nat} (h : ∀ cell ∈ cells, cell.1 = row → cell.2 < columns)
    (column : Nat) : ((rowCounts columns cells row).take column).sum = before cells row column := by
  rcases Nat.le_total column columns with hle | hge
  · exact total_take_rowCounts cells row hle
  · have hall : (rowCounts columns cells row).take column = rowCounts columns cells row :=
      List.take_of_length_le (by simpa [rowCounts] using hge)
    rw [hall, before_eq_visits fun cell hcell hrow => (h cell hcell hrow).trans_le hge]
    exact total_rowCounts h

/-- **A row whose counts can be looked up** is one of the table, and its counts are those of the cells of
the last compilation. -/
theorem Ran.exists_row_of_countsOf {operations : List Operation}
    (h : t.Ran operations cells settled) (hfresh : t.Tallies []) {place : Int} {counts : List Nat}
    (hcounts : (t.run (upToCompile operations)).countsOf place = .ok counts) :
    ∃ row : Nat, place = row ∧ t.Contains (row, 0)
      ∧ counts = rowCounts t.columns.toNat settled row := by
  cases hcell : t.cell place 0 with
  | error fault =>
      rw [countsOf, h.cell_settled_eq, hcell] at hcounts
      cases hcounts
  | ok cell =>
      obtain ⟨row, column⟩ := cell
      obtain ⟨hplace, hcontains⟩ := cell_eq_ok hcell
      obtain ⟨rfl, hzero⟩ := Prod.mk.inj hplace
      obtain rfl : column = 0 := Int.natCast_eq_zero.mp hzero.symm
      rw [h.countsOf_settled hfresh hcontains] at hcounts
      exact ⟨row, rfl, hcontains, (Except.ok.inj hcounts).symm⟩

/-! ## (3) Every run of operations -/

/-- **Sampling by quantiles after every run of operations** reproduces the counts of a row at the last
compilation, as long as there were no more than `2 ^ 53` of them. A quantile finds the only column such
that there are fewer counts before it than the quantile says, and no fewer with its own; and of all
quantiles, as many find a column as it has counts. -/
theorem quantiles_run (rows : Int) {columns : Int} (hcolumns : 1 ≤ columns)
    (operations : List Operation) {row : Int} {counts : List Nat}
    (hcounts : ((empty rows columns).run (upToCompile operations)).countsOf row = .ok counts)
    (hsmall : counts.sum ≤ 2 ^ 53) {quantile : Nat → Binary64}
    (hquantile : ∀ k, 1 ≤ k → k ≤ counts.sum → Binary64.IsRounding k counts.sum (quantile k)) :
    let t := (empty rows columns).run operations
    (∀ k, 1 ≤ k → k ≤ counts.sum → ∃ column, t.sample row (.level (quantile k)) = .ok column
        ∧ (counts.take column).sum < k ∧ k ≤ (counts.take (column + 1)).sum
        ∧ ∀ other, (counts.take other).sum < k → k ≤ (counts.take (other + 1)).sum →
          other = column)
      ∧ ∀ column, ((List.range counts.sum).map fun k =>
        t.sample row (.level (quantile (k + 1)))).count (.ok column) = counts.getD column 0 := by
  intro t
  have hfresh : (empty rows columns).Tallies [] := .empty rows columns
  obtain ⟨cells, settled, h⟩ := exists_ran rows (show columns ≠ 0 by omega) operations
  obtain ⟨row, rfl, hrow, rfl⟩ := h.exists_row_of_countsOf hfresh hcounts
  have hlt := h.lt_columns row
  have hsamples := h.samples hfresh
  have hcontains := h.contains_run hrow
  simp only [h.sum_rowCounts row, sum_take_rowCounts hlt, getD_rowCounts hlt] at hsmall hquantile ⊢
  have hrounded : ∀ k, 1 ≤ k → k ≤ visits settled row →
      quantile k = Binary64.ofRatio k (visits settled row) := fun k hk hle =>
    (hquantile k hk hle).eq_ofRatio (Nat.lt_of_lt_of_le hk hle)
  refine ⟨fun k hk hle => ?_, fun column => ?_⟩
  · rw [hrounded k hk hle]
    obtain ⟨column, hpick⟩ := hsamples.exists_pick?_ofRatio hk hle
    obtain ⟨hbelow, hreached⟩ := (hsamples.pick?_ofRatio_iff hsmall hk hle).mp hpick
    refine ⟨column, (sample_eq_ok_iff hcontains).mpr hpick, hbelow, hreached,
      fun other hbelow' hreached' => ?_⟩
    have hother := (hsamples.pick?_ofRatio_iff hsmall hk hle).mpr ⟨hbelow', hreached'⟩
    exact Option.some.inj (hother.symm.trans hpick)
  · rw [← hsamples.count_pick?_ofRatio hsmall column, List.count, List.countP_map]
    refine List.countP_congr fun k hk => ?_
    rw [Function.comp_apply, beq_iff_eq, decide_eq_true_iff,
      hrounded (k + 1) (Nat.succ_pos k) (List.mem_range.mp hk)]
    exact sample_eq_ok_iff hcontains

/-- In a row with the counts 0, 2, 1 and 0, two thirds and one are exactly the levels of two columns: of the
three quantiles, two find the second column and one the third. -/
theorem quantiles_fourColumns :
    let t := (empty 1 4).run [.record [(0, 1), (0, 2), (0, 1)], .compile]
    let samples := (List.range 3).map fun k => t.sample 0 (.level (Binary64.ofRatio (k + 1) 3))
    samples.count (.ok 1) = 2 ∧ samples.count (.ok 2) = 1 := by
  intro t samples
  have hcounts : ((empty 1 4).run (upToCompile [.record [(0, 1), (0, 2), (0, 1)], .compile])).countsOf 0
      = .ok [0, 2, 1, 0] := by decide +kernel
  obtain ⟨-, hcount⟩ := quantiles_run 1 (show (1 : Int) ≤ 4 by decide) _ hcounts (by decide)
    (fun k _ _ => Binary64.isRounding_ofRatio k (by decide))
  exact ⟨hcount 1, hcount 2⟩

end Table
end Pseudoword
