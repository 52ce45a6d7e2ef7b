import Mathlib
import Pseudoword.Proofs.Histories
import Pseudoword.Proofs.Levels

/-! # What comes in goes out

Spelling a word is a path from the empty context to the end: it comes to each row as often as it leaves
it. So do all words together, however they were learned: a row was seen as often as a letter led to it,
and the empty context, to which no letter leads, as often as a word was learned. Each word has one end.

* **`ContextSpace.target cell`** — the row to which a letter leads.
* **`ContextSpace.arrivals cells row`** — how many letters lead to a row.
* **`Window.visits_spell`** — the balance of one word, by induction on its letters.
* **`Generator.visits_cellsOf`** — the balance of several words.
* **`Generator.balance_run`** — the balance of the counts after every run. -/

namespace Pseudoword

/-! ## (1) Arrivals -/

namespace ContextSpace

variable (s : ContextSpace)

/-- **The row to which a letter leads**, when it is moved into the window of a row. -/
def target (cell : Cell) : Nat :=
  (cell.1 * s.base + cell.2) % s.rows

/-- **How many letters lead to a row.** -/
def arrivals (cells : List Cell) (row : Nat) : Nat :=
  cells.countP fun cell => cell.2 < s.letters ∧ s.target cell = row

/-- **How many words end.** -/
def endings (cells : List Cell) : Nat :=
  cells.countP fun cell => cell.2 = s.endColumn

variable {s}

theorem arrivals_append (cells later : List Cell) (row : Nat) :
    s.arrivals (cells ++ later) row = s.arrivals cells row + s.arrivals later row :=
  List.countP_append

/-- **No letter leads to the empty context**: the newest slot, which is the last digit, has the letter. -/
theorem target_ne_startRow {cell : Cell} (h : cell.2 < s.letters) : s.target cell ≠ s.startRow := by
  intro heq
  have hdvd : s.base ∣ s.rows := dvd_pow_self s.base s.order_pos.ne'
  have hletter : s.target cell % s.base = cell.2 := by
    rw [target, Nat.mod_mod_of_dvd _ hdvd, Nat.mul_add_mod_self_right,
      Nat.mod_eq_of_lt (s.lt_base_of_lt h)]
  have hstart : (s.startRow + 1) % s.base = 0 := by
    rw [startRow, Nat.sub_add_cancel s.rows_pos]
    exact Nat.mod_eq_zero_of_dvd hdvd
  have hnext : cell.2 + 1 < s.base := Nat.succ_lt_succ h
  rw [← heq, ← Nat.mod_add_mod, hletter, Nat.mod_eq_of_lt hnext] at hstart
  cases hstart

/-- Hence no letter arrives there. -/
theorem arrivals_startRow (cells : List Cell) : s.arrivals cells s.startRow = 0 := by
  rw [arrivals, List.countP_eq_zero]
  intro cell _ harrives
  obtain ⟨hletter, htarget⟩ := of_decide_eq_true harrives
  exact target_ne_startRow hletter htarget

end ContextSpace

/-! ## (2) One word -/

namespace Window

variable {s : ContextSpace} {codes : List Nat}

/-- **The balance of a word**: it comes to a row by each letter that leads there, and starts in the row of
its window. -/
theorem visits_spell (w : Window s) (h : ∀ code ∈ codes, code < s.letters) (row : Nat) :
    Table.visits (w.spell codes) row
      = (if w.row = row then 1 else 0) + s.arrivals (w.spell codes) row := by
  induction codes generalizing w with
  | nil =>
      simp [spell, Table.visits, ContextSpace.arrivals, List.countP_cons, ContextSpace.endColumn]
  | cons code codes ih =>
      have hcode := h code List.mem_cons_self
      have hrest := ih (w.shift code) fun d hd => h d (List.mem_cons_of_mem _ hd)
      -- the letter leads to the row in which the rest begins
      have hstep : (w.shift code).row = s.target (w.row, code) := rfl
      simp only [Table.visits, ContextSpace.arrivals] at hrest ⊢
      rw [spell, List.countP_cons, List.countP_cons, hrest, hstep]
      simp only [hcode, true_and, decide_eq_true_eq]
      omega

/-- **A word has one end.** -/
theorem endings_spell (w : Window s) (h : ∀ code ∈ codes, code < s.letters) :
    s.endings (w.spell codes) = 1 := by
  induction codes generalizing w with
  | nil => simp [spell, ContextSpace.endings]
  | cons code codes ih =>
      have hcode : code ≠ s.endColumn := Nat.ne_of_lt (h code List.mem_cons_self)
      have hrest := ih (w.shift code) fun d hd => h d (List.mem_cons_of_mem _ hd)
      rw [ContextSpace.endings] at hrest ⊢
      rw [spell, List.countP_cons, hrest]
      simp [hcode]

end Window

/-! ## (3) Sums of counts -/

namespace Table

variable {t : Table} {cells : List Cell}

/-- **The counts of several places** together are how many cells are in one of them. -/
theorem sum_count (cells : List Cell) (places : Finset Cell) :
    ∑ place ∈ places, cells.count place = cells.countP (· ∈ places) := by
  induction cells with
  | nil => simp
  | cons cell cells ih =>
      simp only [List.count_cons, List.countP_cons, Finset.sum_add_distrib, ih, beq_iff_eq]
      congr 1
      simp [Finset.sum_ite_eq]

/-- **The total of a row** is the sum of its counts. -/
theorem Tallies.total_eq_sum (h : t.Tallies cells) (row : Nat) :
    t.total row = ∑ column ∈ Finset.range t.columns.toNat, t.count row column := by
  have hsum := sum_count cells ({row} ×ˢ Finset.range t.columns.toNat)
  rw [Finset.sum_product, Finset.sum_singleton] at hsum
  simp only [h.count_eq]
  rw [h.total_eq, hsum, visits]
  apply List.countP_congr
  intro cell hcell
  simp only [decide_eq_true_eq, Finset.mem_product, Finset.mem_singleton, Finset.mem_range]
  exact ⟨fun hrow => ⟨hrow, h.lt_columns row cell hcell hrow⟩, fun hplace => hplace.1⟩

end Table

/-! ## (4) Several words -/

namespace Generator

variable {g : Generator} {learned settled words : List String}

/-- **The balance of several words**: a letter leads to a row as often as the row was seen, apart from the
starts of the words. -/
theorem visits_cellsOf (h : ∀ word ∈ words, g.alphabet.Spells word) (row : Nat) :
    Table.visits (g.cellsOf words) row
      = (if g.space.startRow = row then words.length else 0)
        + g.space.arrivals (g.cellsOf words) row := by
  induction words with
  | nil => simp [cellsOf, Table.visits, ContextSpace.arrivals]
  | cons word words ih =>
      have hcodes := g.alphabet.codesOf_lt (h word List.mem_cons_self).2
      have hword := (Window.start g.space).visits_spell hcodes row
      have hrest := ih fun w hw => h w (List.mem_cons_of_mem _ hw)
      rw [Window.row_start] at hword
      rw [cellsOf, List.flatMap_cons, Table.visits_append, ContextSpace.arrivals_append, spell, hword,
        ← cellsOf, hrest, List.length_cons]
      split_ifs <;> omega

/-- **As many ends as words.** -/
theorem endings_cellsOf (h : ∀ word ∈ words, g.alphabet.Spells word) :
    g.space.endings (g.cellsOf words) = words.length := by
  induction words with
  | nil => rfl
  | cons word words ih =>
      have hcodes := g.alphabet.codesOf_lt (h word List.mem_cons_self).2
      have hword := (Window.start g.space).endings_spell hcodes
      have hrest := ih fun w hw => h w (List.mem_cons_of_mem _ hw)
      simp only [ContextSpace.endings, cellsOf] at hword hrest ⊢
      rw [List.flatMap_cons, List.countP_append, spell, hword, hrest, List.length_cons, Nat.add_comm]

/-- The counts of the end, over all rows, are the ends of the words. -/
theorem Embodies.sum_count_end (h : g.Embodies learned settled) :
    ∑ row ∈ Finset.range g.space.rows, g.table.count row g.space.endColumn
      = g.space.endings (g.cellsOf learned) := by
  have hsum := Table.sum_count (g.cellsOf learned)
    (Finset.range g.space.rows ×ˢ {g.space.endColumn})
  simp only [Finset.sum_product, Finset.sum_singleton] at hsum
  simp only [h.tallies.count_eq]
  rw [hsum, ContextSpace.endings]
  apply List.countP_congr
  intro cell hcell
  simp only [decide_eq_true_eq, Finset.mem_product, Finset.mem_singleton, Finset.mem_range]
  exact ⟨fun hplace => hplace.2, fun hend => ⟨(lt_of_mem_cellsOf h.spells hcell).1, hend⟩⟩

/-- The counts of the letters that lead to a row, over all rows, are its arrivals. -/
theorem Embodies.sum_count_target (h : g.Embodies learned settled) (row : Nat) :
    ∑ cell ∈ Finset.range g.space.rows ×ˢ Finset.range g.space.letters
        with (cell.1 * g.space.base + cell.2) % g.space.rows = row, g.table.count cell.1 cell.2
      = g.space.arrivals (g.cellsOf learned) row := by
  simp only [h.tallies.count_eq]
  rw [Table.sum_count, ContextSpace.arrivals]
  apply List.countP_congr
  intro cell hcell
  simp only [decide_eq_true_eq, Finset.mem_filter, Finset.mem_product, Finset.mem_range]
  exact ⟨fun hplace => ⟨hplace.1.2, hplace.2⟩, fun hplace => ⟨⟨(lt_of_mem_cellsOf h.spells hcell).1, hplace.1⟩, hplace.2⟩⟩

/-- **What comes in goes out, after every run.** The counts of a row are as many as those of the letters
that lead to it; but the first row, to which none leads, was seen as often as words were learned, and so
often an end was seen. -/
theorem balance_run (alphabet : Alphabet) (order : Nat) (order_pos : 0 < order)
    (patience : Setting) (operations : List Operation) :
    let space := contexts alphabet order order_pos
    let blank := untrained alphabet order order_pos patience
    let table := (blank.run operations).table
    (∀ row, table.total row = ∑ column ∈ Finset.range space.columns, table.count row column)
      ∧ table.total space.startRow = ∑ row ∈ Finset.range space.rows, table.count row space.endColumn
      ∧ table.total space.startRow = (blank.learnedIn operations).length
      ∧ ∀ row < space.rows, row ≠ space.startRow → table.total row
        = ∑ cell ∈ Finset.range space.rows ×ˢ Finset.range space.letters
            with (cell.1 * space.base + cell.2) % space.rows = row, table.count cell.1 cell.2 := by
  intro space blank table
  have h := embodies_run alphabet order order_pos patience operations
  have hmake : blank.SameMake (blank.run operations) := sameMake_run blank operations
  have hspace : (blank.run operations).space = space := hmake.space_eq
  have hstart : table.total space.startRow = (blank.learnedIn operations).length := by
    rw [h.tallies.total_eq, visits_cellsOf h.spells, ← hspace, if_pos rfl,
      ContextSpace.arrivals_startRow, Nat.add_zero]
  have hcolumns : table.columns.toNat = space.columns := by
    rw [h.columns_eq, hspace, Int.toNat_natCast]
  refine ⟨fun row => ?_, ?_, hstart, fun row _ hrow => ?_⟩
  · rw [h.tallies.total_eq_sum, hcolumns]
  · rw [hstart, ← hspace, h.sum_count_end, endings_cellsOf h.spells]
  · rw [← hspace] at hrow ⊢
    rw [h.tallies.total_eq, visits_cellsOf h.spells, if_neg hrow.symm, Nat.zero_add,
      ← h.sum_count_target]

/-- In a run in which some calls fail, five words are learned; and the letter `A` comes as often as a
letter follows it, or an end. -/
theorem balance_mixedRun :
    let space := contexts .ofAB 1 Nat.one_pos
    let table := ((untrained .ofAB 1 Nat.one_pos (.integer 1000)).run mixedRun).table
    table.total space.startRow = 5
      ∧ ∑ row ∈ Finset.range space.rows, table.count row space.endColumn = 5
      ∧ 0 < space.rows ∧ 0 ≠ space.startRow
      ∧ table.total 0 = ∑ cell ∈ Finset.range space.rows ×ˢ Finset.range space.letters
          with (cell.1 * space.base + cell.2) % space.rows = 0, table.count cell.1 cell.2 := by
  intro space table
  have hlearned : ((untrained .ofAB 1 Nat.one_pos (.integer 1000)).learnedIn mixedRun).length = 5 := by
    decide +kernel
  have hrow : 0 < space.rows := by decide
  have hne : 0 ≠ space.startRow := by decide
  obtain ⟨-, hends, hstarts, hbalance⟩ := balance_run .ofAB 1 Nat.one_pos (.integer 1000) mixedRun
  rw [hlearned] at hstarts
  rw [hstarts] at hends
  exact ⟨hstarts, hends.symm, hrow, hne, hbalance 0 hrow hne⟩

end Generator
end Pseudoword
