import Mathlib.Tactic.ByContra
import Pseudoword.Distribution

/-! # What a draw picks

Whatever the draw is, the column that it picks from a distribution adds something to the level before
it. This needs no order among the levels: the search ends where the draw exceeds the level before but
not the level itself, a run of equal levels is left at its first column, and levels of zero are
skipped. For levels that come from counts the picked column was therefore counted.

* **`Distribution.Adds d column`** — the level of the column is not zero, and not that of the one before.
* **`Distribution.pick_adds`** — every draw picks such a column, if there is any.
* **`Distribution.count_pick_pos`** — levels that come from counts pick counted columns only. -/

namespace Pseudoword

/-! ## (1) Quotients of multiples -/

namespace Binary64

/-- A rounded quotient does not change when both numbers are multiplied. -/
theorem roundDiv_mul_left {k : Nat} (hk : 0 < k) (n d : Nat) :
    roundDiv (k * n) (k * d) = roundDiv n d := by
  have hbelow : 2 * (k * (n % d)) < k * d ↔ 2 * (n % d) < d := by
    rw [Nat.mul_left_comm]
    exact Nat.mul_lt_mul_left hk
  have habove : k * d < 2 * (k * (n % d)) ↔ d < 2 * (n % d) := by
    rw [Nat.mul_left_comm]
    exact Nat.mul_lt_mul_left hk
  simp only [roundDiv, Nat.mul_div_mul_left _ _ hk, Nat.mul_mod_mul_left, hbelow, habove]

/-- **A quotient depends on its value only**, not on the two numbers. -/
theorem ofRatio_mul_left {k : Nat} (hk : 0 < k) (n d : Nat) :
    ofRatio (k * n) (k * d) = ofRatio n d := by
  have hscaled : k * n * resolution = k * (n * resolution) := Nat.mul_assoc _ _ _
  rw [ofRatio, ofRatio, hscaled, Nat.mul_div_mul_left _ _ hk, Nat.mul_assoc k d,
    roundDiv_mul_left hk]

/-- **A number over itself is one.** -/
theorem ofRatio_self {n : Nat} (h : 0 < n) : ofRatio n n = one := by
  have hone : ofRatio 1 1 = one := by decide +kernel
  rw [← hone, ← ofRatio_mul_left h 1 1, Nat.mul_one]

end Binary64

namespace Distribution

/-! ## (2) Levels that come from counts -/

@[simp] theorem total_nil : total [] = 0 := rfl

@[simp] theorem total_cons (n : Nat) (ns : List Nat) : total (n :: ns) = n + total ns := rfl

theorem total_append (ns ms : List Nat) : total (ns ++ ms) = total ns + total ms := by
  induction ns with
  | nil => simp
  | cons n ns ih => rw [List.cons_append, total_cons, total_cons, ih, Nat.add_assoc]

/-- A total is zero exactly if everything in it is. -/
theorem total_eq_zero_iff {ns : List Nat} : total ns = 0 ↔ ∀ n ∈ ns, n = 0 := by
  induction ns with
  | nil => simp
  | cons n ns ih => rw [total_cons, Nat.add_eq_zero_iff, ih, List.forall_mem_cons]

/-- The sum of a beginning, with one more number, is larger by that number. -/
theorem total_take_succ (ns : List Nat) (j : Nat) :
    total (ns.take (j + 1)) = total (ns.take j) + ns.getD j 0 := by
  rw [List.take_add_one, total_append, List.getD_eq_getElem?_getD]
  congr 1
  cases ns[j]? with
  | none => rfl
  | some n => exact Nat.add_zero n

/-- A prefix sum is the first number and the total of a beginning. -/
theorem getElem?_prefixSums {ns : List Nat} {j : Nat} (sum : Nat) (h : j < ns.length) :
    (prefixSums sum ns)[j]? = some (sum + total (ns.take (j + 1))) := by
  induction ns generalizing sum j with
  | nil => cases h
  | cons n ns ih =>
      cases j with
      | zero => simp [prefixSums]
      | succ j =>
          rw [prefixSums, List.getElem?_cons_succ, ih (sum + n) (Nat.lt_of_succ_lt_succ h),
            List.take_succ_cons, total_cons, Nat.add_assoc]

/-- **The level of a column** is the sum of the counts up to it over the sum of all. -/
theorem level_ofCounts {counts : List Nat} {j : Nat} (h : j < counts.length) :
    (ofCounts counts).level j = Binary64.ofRatio (total (counts.take (j + 1))) (total counts) := by
  rw [level, ofCounts, Array.getD_eq_getD_getElem?, List.getElem?_toArray, List.getElem?_map,
    getElem?_prefixSums 0 h, Nat.zero_add]
  rfl

/-- **A row is dead exactly if nothing was counted.** -/
theorem isDead_ofCounts (counts : List Nat) :
    (ofCounts counts).isDead = true ↔ total counts = 0 := by
  rcases Nat.eq_zero_or_pos counts.length with hnil | hpos
  · rw [List.length_eq_zero_iff] at hnil
    subst hnil
    simp [isDead, ofCounts, level, prefixSums]
  · have hlast : (ofCounts counts).last < counts.length := by
      rw [last, size_ofCounts]
      exact Nat.sub_lt hpos Nat.one_pos
    have hall : counts.take ((ofCounts counts).last + 1) = counts := by
      rw [last, size_ofCounts, Nat.sub_add_cancel hpos, List.take_length]
    rw [isDead, level_ofCounts hlast, hall, beq_iff_eq]
    constructor
    · intro hzero
      by_contra hne
      rw [Binary64.ofRatio_self (Nat.pos_of_ne_zero hne)] at hzero
      cases hzero
    · intro hzero
      rw [hzero, Binary64.ofRatio_zero]

/-! ## (3) Columns that add something -/

/-- **A column that adds something**: its level is neither zero nor that of the column before. -/
structure Adds (d : Distribution) (column : Nat) : Prop where
  /-- The column is one of the row. -/
  lt_size : column < d.size
  /-- The level is not zero. -/
  level_ne_zero : d.level column ≠ Binary64.zero
  /-- The level is not that of the column before. -/
  level_ne : ∀ earlier, column = earlier + 1 → d.level column ≠ d.level earlier

/-- **A column that adds something was counted.** -/
theorem Adds.count_pos {counts : List Nat} {column : Nat} (h : (ofCounts counts).Adds column) :
    0 < counts.getD column 0 := by
  have hlt : column < counts.length := by simpa using h.lt_size
  by_contra hzero
  have hzero : counts.getD column 0 = 0 := Nat.eq_zero_of_not_pos hzero
  cases column with
  | zero =>
      refine h.level_ne_zero ?_
      rw [level_ofCounts hlt, total_take_succ, hzero, List.take_zero, total_nil,
        Binary64.ofRatio_zero]
  | succ earlier =>
      refine h.level_ne earlier rfl ?_
      rw [level_ofCounts hlt, level_ofCounts (Nat.lt_of_succ_lt hlt),
        total_take_succ counts (earlier + 1), hzero, Nat.add_zero]

variable {d : Distribution}

/-- A live row has a last column. -/
theorem last_lt_size (hlive : d.isDead = false) : d.last < d.size := by
  rcases Nat.eq_zero_or_pos d.size with hzero | hpos
  · have hlevels : d.levels = #[] := Array.eq_empty_of_size_eq_zero hzero
    simp [isDead, level, hlevels] at hlive
  · exact Nat.sub_lt hpos Nat.one_pos

theorem level_last_ne_zero (hlive : d.isDead = false) : d.level d.last ≠ Binary64.zero := by
  intro hzero
  simp [isDead, hzero] at hlive

/-! ## (4) Where the search ends -/

/-- **The search ends between levels that the draw exceeds and levels that it does not.** Only the two
neighbours of the result are told of, so that levels need not be in order. -/
theorem search_spec (u : Draw) (low high : Nat) (hle : low ≤ high)
    (hlow : ∀ earlier, low = earlier + 1 → u.exceeds (d.level earlier) = true)
    (hhigh : high < d.size → u.exceeds (d.level high) = false) :
    d.search u low high ≤ high
      ∧ (∀ earlier, d.search u low high = earlier + 1 → u.exceeds (d.level earlier) = true)
      ∧ (d.search u low high < d.size → u.exceeds (d.level (d.search u low high)) = false) := by
  fun_induction d.search u low high with
  | case1 low high hlt middle hexceeds ih =>
      refine ih (by omega) ?_ hhigh
      intro earlier heq
      obtain rfl : middle = earlier := Nat.succ.inj heq
      exact hexceeds
  | case2 low high hlt middle hexceeds ih =>
      obtain ⟨hmiddle, hearlier, hresult⟩ :=
        ih (by omega) hlow fun _ => Bool.eq_false_iff.mpr hexceeds
      exact ⟨by omega, hearlier, hresult⟩
  | case3 low high hge =>
      obtain rfl : low = high := by omega
      exact ⟨hle, hlow, hhigh⟩

/-- **The first column of a run** has the level of the run, and the column before it has not. -/
theorem runStart_spec (column : Nat) :
    d.runStart column ≤ column ∧ d.level (d.runStart column) = d.level column
      ∧ ∀ earlier, d.runStart column = earlier + 1
        → d.level (d.runStart column) ≠ d.level earlier := by
  induction column with
  | zero => exact ⟨Nat.le_refl _, rfl, fun _ h => nomatch h⟩
  | succ column ih =>
      rw [runStart]
      split
      · next heq =>
        obtain ⟨hle, hlevel, hearlier⟩ := ih
        exact ⟨Nat.le_succ_of_le hle, hlevel.trans heq.symm, hearlier⟩
      · next hne =>
        refine ⟨Nat.le_refl _, rfl, fun earlier heq => ?_⟩
        obtain rfl : column = earlier := Nat.succ.inj heq
        exact hne

/-- **Skipping zeros** from a column whose level is zero or new ends at a column that adds something. -/
theorem skipZeros_adds (hlive : d.isDead = false) (column : Nat) (hle : column ≤ d.last)
    (hnew : d.level column ≠ Binary64.zero →
      ∀ earlier, column = earlier + 1 → d.level column ≠ d.level earlier) :
    d.Adds (d.skipZeros column) := by
  fun_induction d.skipZeros column with
  | case1 column h ih =>
      refine ih h.1 fun hne earlier heq => ?_
      obtain rfl : column = earlier := Nat.succ.inj heq
      rw [h.2]
      exact hne
  | case2 column h =>
      have hne : d.level column ≠ Binary64.zero := by
        intro hzero
        rcases Nat.lt_or_eq_of_le hle with hlt | heq
        · exact h ⟨hlt, hzero⟩
        · exact level_last_ne_zero hlive (heq ▸ hzero)
      exact ⟨Nat.lt_of_le_of_lt hle (last_lt_size hlive), hne, hnew hne⟩

/-- **Every draw picks a column that adds something**, if there is one. -/
theorem pick_adds (hlive : d.isDead = false) (u : Draw) : d.Adds (d.pick u) := by
  have hlast := last_lt_size hlive
  obtain ⟨hle, hearlier, hresult⟩ :=
    search_spec (d := d) u 0 d.size (Nat.zero_le _) (fun _ h => nomatch h)
      (fun h => absurd h (Nat.lt_irrefl _))
  rw [pick]
  split
  · -- the draw is above every level
    obtain ⟨hrun, -, hnew⟩ := runStart_spec (d := d) d.last
    exact skipZeros_adds hlive _ hrun fun _ => hnew
  · -- the draw lies between the level found and the one before, so that these differ
    next hnot =>
    have hcolumn : d.search u 0 d.size ≤ d.last := Nat.le_of_not_lt hnot
    refine skipZeros_adds hlive _ hcolumn fun _ earlier heq hsame => ?_
    have hbelow := hresult (Nat.lt_of_le_of_lt hcolumn hlast)
    rw [hsame, hearlier earlier heq] at hbelow
    cases hbelow

/-- **Levels that come from counts pick counted columns only.** -/
theorem count_pick_pos {counts : List Nat} (h : (ofCounts counts).isDead = false) (u : Draw) :
    0 < counts.getD ((ofCounts counts).pick u) 0 :=
  (pick_adds h u).count_pos

end Distribution
end Pseudoword
