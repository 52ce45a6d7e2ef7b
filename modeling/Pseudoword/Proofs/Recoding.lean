import Mathlib
import Pseudoword.Proofs.Levels
import Pseudoword.Proofs.Walks

/-! # Codes in a wider space

With more letters, contexts have other rows and the end of a word has another column. But as long as the
codes of the letters keep their order, and the end stays behind them, what was counted keeps its levels:
columns between them were never seen, and add nothing. So the same draws pick the same letters.

* **`Recoding s s' code`** — codes of one space in another one, in the same order.
* **`Recoding.row`**, **`Recoding.cell`** — the rows and cells that go with them.
* **`Recoding.Shows code w w'`** — windows that show the same letters.
* **`Recoding.pick?_map`** — a draw picks the same letter in both tables.
* **`Generator.Goes.map`** — the same draws lead to the same walk, by induction on its steps. -/

namespace Pseudoword

/-! ## (1) Codes, rows and cells -/

/-- **Codes of one space in another one**: windows have as many slots there, the codes keep their order,
and the end of a word stays the end. -/
structure Recoding (s s' : ContextSpace) (code : Nat → Nat) : Prop where
  /-- Windows have as many slots. -/
  order_eq : s'.order = s.order
  /-- The end stays the end. -/
  end_eq : code s.endColumn = s'.endColumn
  /-- The codes keep their order, which the end is part of. -/
  strictMonoOn : StrictMonoOn code (Set.Iio s.base)

namespace Recoding

variable {s s' : ContextSpace} {code : Nat → Nat}

/-- The row that shows the same context. -/
def row (_ : Recoding s s' code) (row : Nat) : Nat :=
  s'.value ((s.digits row).map code)

/-- The cell with the same context and the same column. -/
def cell (h : Recoding s s' code) (cell : Cell) : Cell :=
  (h.row cell.1, code cell.2)

variable (h : Recoding s s' code)

include h

theorem lt_base {c : Nat} (hc : c < s.base) : code c < s'.base := by
  have hle : code c ≤ code s.endColumn :=
    (h.strictMonoOn.le_iff_le hc s.startDigit_lt_base).mpr (Nat.le_of_lt_succ hc)
  rw [h.end_eq] at hle
  exact Nat.lt_succ_of_le hle

/-- Letters are letters there, too. -/
theorem lt_letters {c : Nat} (hc : c < s.letters) : code c < s'.letters := by
  have hlt := h.strictMonoOn (s.lt_base_of_lt hc) s.startDigit_lt_base hc
  rwa [← ContextSpace.endColumn, ← h.end_eq]

/-- **The row of recoded digits** goes with the row of the digits. -/
theorem row_value {digits : List Nat} (hlen : digits.length = s.order)
    (hdigits : ∀ d ∈ digits, d < s.base) : h.row (s.value digits) = s'.value (digits.map code) := by
  rw [row, s.digits_value hlen hdigits]

/-- **Different rows of the table stay different.** -/
theorem row_inj {r r' : Nat} (hr : r < s.rows) (hr' : r' < s.rows) (heq : h.row r = h.row r') :
    r = r' := by
  have hmap : (s.digits r).map code = (s.digits r').map code := by
    refine s'.value_injective (by simp) ?_ ?_ heq
    · exact List.forall_mem_map.mpr fun d hd => h.lt_base (s.digits_lt r d hd)
    · exact List.forall_mem_map.mpr fun d hd => h.lt_base (s.digits_lt r' d hd)
  -- in order, codes are injective, and so are they on lists of digits
  have hsame : s.digits r = s.digits r' := by
    refine List.ext_getElem (by simp) fun i hi hi' => ?_
    have hget := congrArg (·[i]?) hmap
    simp only [List.getElem?_map, List.getElem?_eq_getElem hi, List.getElem?_eq_getElem hi',
      Option.map_some, Option.some.injEq] at hget
    exact h.strictMonoOn.injOn (s.digits_lt r _ (List.getElem_mem hi))
      (s.digits_lt r' _ (List.getElem_mem hi')) hget
  rw [← s.value_digits hr, ← s.value_digits hr', hsame]

/-! ## (2) Windows and spellings -/

omit h in
/-- **Windows that show the same letters**, both of which a walk may leave. -/
structure Shows (code : Nat → Nat) (w : Window s) (w' : Window s') : Prop where
  /-- The first window is in order, and open. -/
  running : w.Running
  /-- So is the second one. -/
  running' : w'.Running
  /-- The slots are the recoded ones. -/
  slots_eq : w'.slots = w.slots.map code

/-- Before the first letter, windows show the same. -/
theorem shows_start : Shows code (Window.start s) (Window.start s') where
  running := .start
  running' := .start
  slots_eq := by
    rw [Window.slots_start, Window.slots_start, List.map_replicate, h.order_eq]
    exact congrArg _ h.end_eq.symm

/-- **A letter keeps windows showing the same.** -/
theorem shows_shift {w : Window s} {w' : Window s'} (hw : Shows code w w') {c : Nat}
    (hc : c < s.letters) : Shows code (w.shift c) (w'.shift (code c)) where
  running := hw.running.shift hc
  running' := hw.running'.shift (h.lt_letters hc)
  slots_eq := by
    rw [Window.slots_shift, Window.slots_shift, hw.slots_eq, List.map_append, List.map_tail,
      List.map_singleton]

/-- The rows of windows that show the same go together. -/
theorem row_eq {w : Window s} {w' : Window s'} (hw : Shows code w w') : w'.row = h.row w.row := by
  rw [hw.running'.row_eq, hw.running.row_eq, hw.slots_eq,
    h.row_value hw.running.length_slots hw.running.slots_lt]

/-- **A word is spelled through cells that go together.** -/
theorem spell_map {w : Window s} {w' : Window s'} (hw : Shows code w w') {codes : List Nat}
    (hcodes : ∀ c ∈ codes, c < s.letters) :
    w'.spell (codes.map code) = (w.spell codes).map h.cell := by
  induction codes generalizing w w' with
  | nil => rw [List.map_nil, Window.spell, Window.spell, List.map_singleton, cell, h.row_eq hw, h.end_eq]
  | cons c codes ih =>
      have hc := hcodes c List.mem_cons_self
      have hrest := ih (h.shows_shift hw hc) fun d hd => hcodes d (List.mem_cons_of_mem _ hd)
      rw [List.map_cons, Window.spell, Window.spell, hrest, List.map_cons, h.row_eq hw]
      rfl

/-! ## (3) Levels and picks -/

section Cells

variable {cells : List Cell} (hcells : ∀ cell ∈ cells, cell.1 < s.rows ∧ cell.2 < s.columns)

include hcells

/-- A row has as many cells. -/
theorem visits_map {row : Nat} (hrow : row < s.rows) :
    Table.visits (cells.map h.cell) (h.row row) = Table.visits cells row := by
  rw [Table.visits, Table.visits, List.countP_map]
  apply List.countP_congr
  intro cell hcell
  have hiff : h.row cell.1 = h.row row ↔ cell.1 = row :=
    ⟨fun heq => h.row_inj (hcells cell hcell).1 hrow heq, fun heq => heq ▸ rfl⟩
  simp only [Function.comp_apply, Recoding.cell, decide_eq_true_eq, hiff]

/-- It has as many up to a column. -/
theorem before_map {row column : Nat} (hrow : row < s.rows) (hcolumn : column < s.columns) :
    Table.before (cells.map h.cell) (h.row row) (code column + 1)
      = Table.before cells row (column + 1) := by
  rw [Table.before, Table.before, List.countP_map]
  apply List.countP_congr
  intro cell hcell
  obtain ⟨hcellRow, hcellColumn⟩ := hcells cell hcell
  have hle : code cell.2 < code column + 1 ↔ cell.2 < column + 1 := by
    rw [Nat.lt_succ_iff, Nat.lt_succ_iff]
    exact h.strictMonoOn.le_iff_le hcellColumn hcolumn
  simp only [Function.comp_apply, Recoding.cell, decide_eq_true_eq, hle]
  exact and_congr_left' ⟨fun heq => h.row_inj hcellRow hrow heq, fun heq => heq ▸ rfl⟩

/-- **Hence columns keep their levels.** -/
theorem levelOf_map {row column : Nat} (hrow : row < s.rows) (hcolumn : column < s.columns) :
    Table.levelOf (cells.map h.cell) (h.row row) (code column) = Table.levelOf cells row column := by
  rw [Table.levelOf, Table.levelOf, h.before_map hcells hrow hcolumn, h.visits_map hcells hrow]

/-- A draw may pick the same columns. -/
theorem reached_map_iff {row column : Nat} (hrow : row < s.rows) (hcolumn : column < s.columns)
    {u : Draw} : Table.Reached (cells.map h.cell) (h.row row) u (code column)
      ↔ Table.Reached cells row u column :=
  Table.reached_congr (h.levelOf_map hcells hrow hcolumn)

/-- **A draw picks the same letter in both tables**, or nothing in either. -/
theorem pick?_map {t t' : Table} (ht : t.Samples cells) (ht' : t'.Samples (cells.map h.cell))
    {row : Nat} (hrow : row < s.rows) (u : Draw) :
    t'.pick? (h.row row) u = (t.pick? row u).map code := by
  cases hpick : t.pick? row u with
  | none =>
      rw [ht.pick?_eq_none_iff_visits] at hpick
      rw [Option.map_none, ht'.pick?_eq_none_iff_visits, h.visits_map hcells hrow, hpick]
  | some column =>
      obtain ⟨hmem, hreached, hfirst⟩ := ht.pick?_eq_some_iff_seen.mp hpick
      have hcolumn := (hcells _ hmem).2
      refine ht'.pick?_eq_some_iff_seen.mpr ⟨List.mem_map_of_mem hmem,
        (h.reached_map_iff hcells hrow hcolumn).mpr hreached, fun j hj hseen hearlier => ?_⟩
      -- what was seen in the row there was seen in the row here, at a column before the one picked
      obtain ⟨⟨r, c⟩, hcell, heq⟩ := List.mem_map.mp hseen
      obtain ⟨hr, hc⟩ := hcells _ hcell
      obtain ⟨hrows, rfl⟩ := Prod.ext_iff.mp heq
      obtain rfl := h.row_inj hr hrow hrows
      exact hfirst c ((h.strictMonoOn.lt_iff_lt hc hcolumn).mp hj) hcell
        ((h.reached_map_iff hcells hrow hc).mp hearlier)

end Cells

/-! ## (4) Walks -/

/-- The walk through the cells that go together. -/
def walk (walk : Walk) : Walk where
  cells := walk.cells.map h.cell
  ending := match walk.ending with
    | .dead row => .dead (h.row row)
    | ending => ending
  rest := walk.rest

/-- It spells the letters with the recoded codes. -/
theorem codes_walk (walk : Walk) : (h.walk walk).codes = walk.codes.map code := by
  rw [Walk.codes, Walk.codes, List.map_dropLast, List.map_map, Recoding.walk, List.map_map]
  rfl

end Recoding

namespace Generator

variable {g g' : Generator} {code : Nat → Nat} {cells : List Cell}

/-- **The same draws lead to the same walk**, whichever space its letters have their codes in. -/
theorem Goes.map (h : Recoding g.space g'.space code)
    (hcells : ∀ cell ∈ cells, cell.1 < g.space.rows ∧ cell.2 < g.space.columns)
    (ht : g.table.Samples cells) (ht' : g'.table.Samples (cells.map h.cell)) {w : Window g.space}
    {w' : Window g'.space} {draws : List Draw} {walk : Walk} (hgoes : g.Goes w draws walk)
    (hw : Recoding.Shows code w w') : g'.Goes w' draws (h.walk walk) := by
  -- step by step: the draw picks the recoded column, and windows go on showing the same
  induction hgoes generalizing w' with
  | outOfDraws => exact .outOfDraws
  | @dead w u us hpick =>
      have hpick' := h.pick?_map hcells ht ht' hw.running.row_lt u
      rw [hpick, ← h.row_eq hw] at hpick'
      rw [Recoding.walk]
      simp only [← h.row_eq hw]
      exact .dead hpick'
  | @complete w u us hpick =>
      have hpick' := h.pick?_map hcells ht ht' hw.running.row_lt u
      rw [hpick, ← h.row_eq hw, Option.map_some, h.end_eq] at hpick'
      simp only [Recoding.walk, List.map_cons, List.map_nil, Recoding.cell, ← h.row_eq hw, h.end_eq]
      exact .complete hpick'
  | @letter w u us c walk hpick hc hrest ih =>
      have hpick' := h.pick?_map hcells ht ht' hw.running.row_lt u
      rw [hpick, ← h.row_eq hw, Option.map_some] at hpick'
      have hcell : h.cell (w.row, c) = (w'.row, code c) := by rw [Recoding.cell, h.row_eq hw]
      have hwalk : h.walk (walk.after (w.row, c)) = (h.walk walk).after (w'.row, code c) := by
        rw [← hcell]
        rfl
      rw [hwalk]
      exact .letter hpick' (h.lt_letters hc) (ih (h.shows_shift hw hc))

end Generator
end Pseudoword
