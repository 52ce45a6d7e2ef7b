import Mathlib
import Pseudoword.Proofs.Histories

/-! # Walks stay within what was learned

A walk through a generator is made of transitions that were observed in words settled, and as long as
there is such a word it never comes to a row out of which none leads. This file first says what a step
of a walk may be, given that no check can fail, and then follows walks of any length by these steps.

* **`Window.Running w`** — a window in order out of which a walk may go on.
* **`Generator.Goes g w draws walk`** — how a walk goes, step by step; and `Generator.Embodies.goes`.
* **`Generator.Goes.mem_cellsOf`** — every cell of a walk was seen.
* **`Generator.Goes.cells_eq_spell`** — a complete walk goes through the cells of its word.
* **`Generator.Goes.ending_ne_dead`** — no walk from a live row ends in a dead one. -/

namespace Pseudoword

/-! ## (1) Windows and spellings -/

namespace Window

variable {s : ContextSpace}

/-- **A window out of which a walk may go on**: it is in order, and the word has not ended. -/
structure Running (w : Window s) : Prop extends w.Sound where
  /-- The word has not ended. -/
  open_ : w.ended = false

theorem Running.start : (Window.start s).Running := ⟨Sound.start, rfl⟩

theorem Running.shift {w : Window s} (hw : w.Running) {code : Nat} (h : code < s.letters) :
    (w.shift code).Running :=
  ⟨hw.toSound.shift (s.lt_base_of_lt h), hw.open_⟩

/-- A spelling begins in the row of its window. -/
theorem exists_mem_spell (w : Window s) (codes : List Nat) :
    ∃ column, (w.row, column) ∈ w.spell codes := by
  cases codes with
  | nil => exact ⟨s.endColumn, by simp [spell]⟩
  | cons code codes => exact ⟨code, by simp [spell]⟩

/-- **A letter of a spelling is followed**: the row to which it leads is one of the spelling, too. -/
theorem exists_mem_spell_shift {w : Window s} {codes : List Nat} {row code : Nat}
    (h : (row, code) ∈ w.spell codes) (hcode : code ≠ s.endColumn) :
    ∃ column, ((row * s.base + code) % s.rows, column) ∈ w.spell codes := by
  induction codes generalizing w with
  | nil =>
      obtain ⟨-, rfl⟩ := Prod.ext_iff.mp (List.mem_singleton.mp h)
      exact absurd rfl hcode
  | cons first codes ih =>
      rw [spell] at h ⊢
      rcases List.mem_cons.mp h with heq | h
      · cases heq
        obtain ⟨column, hcolumn⟩ := (w.shift code).exists_mem_spell codes
        exact ⟨column, List.mem_cons_of_mem _ hcolumn⟩
      · obtain ⟨column, hcolumn⟩ := ih h
        exact ⟨column, List.mem_cons_of_mem _ hcolumn⟩

end Window

/-- A cell before others is the first one that a walk selects. -/
theorem Walk.codes_after {walk : Walk} (h : walk.cells ≠ []) (cell : Cell) :
    (walk.after cell).codes = cell.2 :: walk.codes := by
  rw [codes, after, List.map_cons, List.dropLast_cons_of_ne_nil (by simpa using h), codes]

namespace Generator

/-! ## (2) The steps of a walk -/

/-- **How a walk goes**, step by step: each draw picks a column in the row of the window, and a letter
moves into the window. -/
inductive Goes (g : Generator) : Window g.space → List Draw → Walk → Prop where
  /-- Without a draw the walk does not go on. -/
  | outOfDraws {w : Window g.space} : Goes g w [] ⟨[], .outOfDraws, []⟩
  /-- Nothing can be picked in the row. -/
  | dead {w : Window g.space} {u : Draw} {us : List Draw} (hpick : g.table.pick? w.row u = none) :
    Goes g w (u :: us) ⟨[], .dead w.row, us⟩
  /-- The end of the word is picked. -/
  | complete {w : Window g.space} {u : Draw} {us : List Draw}
      (hpick : g.table.pick? w.row u = some g.space.endColumn) :
    Goes g w (u :: us) ⟨[(w.row, g.space.endColumn)], .complete, us⟩
  /-- A letter is picked. -/
  | letter {w : Window g.space} {u : Draw} {us : List Draw} {code : Nat} {walk : Walk}
      (hpick : g.table.pick? w.row u = some code) (hcode : code < g.space.letters)
      (hrest : Goes g (w.shift code) us walk) :
    Goes g w (u :: us) (walk.after (w.row, code))

variable {g : Generator} {learned settled : List String} {w : Window g.space} {draws : List Draw}
  {walk walk' : Walk}

/-- A column that is sampled and is not the end is that of a letter. -/
theorem Embodies.lt_letters_of_pick? (h : g.Embodies learned settled) {row column : Nat} {u : Draw}
    (hpick : g.table.pick? row u = some column) (hend : column ≠ g.space.endColumn) :
    column < g.space.letters := by
  have hlt := h.samples.lt_of_pick? hpick
  rw [h.columns_eq] at hlt
  have hlt : column < g.space.letters + 1 := by exact_mod_cast hlt
  exact Nat.lt_of_le_of_ne (Nat.le_of_lt_succ hlt) hend

/-- **Walks go by these steps**: out of a running window no check fails, so that the draws alone
decide. -/
theorem Embodies.goes (h : g.Embodies learned settled) (hw : w.Running) (draws : List Draw) :
    g.Goes w draws (w.walk g.table draws) := by
  induction draws generalizing w with
  | nil => exact .outOfDraws
  | cons u us ih =>
      -- the row of the window is one of the table, so that sampling fails in dead rows only
      have hcontains : g.table.Contains (w.row, 0) := by
        rw [Table.Contains, h.rows_eq, h.columns_eq]
        exact ⟨by exact_mod_cast hw.row_lt, by exact_mod_cast g.space.base_pos⟩
      rw [Window.walk, Table.sample_of_contains hcontains]
      cases hpick : g.table.pick? w.row u with
      | none => exact .dead hpick
      | some column =>
          by_cases hend : column = g.space.endColumn
          · subst hend
            simp only [Window.finish, hw.open_, Bool.false_eq_true, if_false, if_true]
            exact .complete hpick
          · have hcode := h.lt_letters_of_pick? hpick hend
            simp only [if_neg hend, w.push_of_lt hcode hw.open_]
            exact .letter hpick hcode (ih (hw.shift hcode))

/-- **The draws determine the walk.** -/
theorem Goes.unique (hgoes : g.Goes w draws walk) (hgoes' : g.Goes w draws walk') :
    walk = walk' := by
  -- the draw picks one column, so that both walks take the same step
  induction hgoes generalizing walk' with
  | outOfDraws =>
      cases hgoes'
      rfl
  | dead hpick =>
      cases hgoes' with
      | dead => rfl
      | complete hpick' => cases hpick.symm.trans hpick'
      | letter hpick' => cases hpick.symm.trans hpick'
  | complete hpick =>
      cases hgoes' with
      | dead hpick' => cases hpick.symm.trans hpick'
      | complete => rfl
      | letter hpick' hcode =>
          obtain rfl := Option.some.inj (hpick.symm.trans hpick')
          exact absurd hcode (Nat.lt_irrefl _)
  | letter hpick hcode _ ih =>
      cases hgoes' with
      | dead hpick' => cases hpick.symm.trans hpick'
      | complete hpick' =>
          obtain rfl := Option.some.inj (hpick.symm.trans hpick')
          exact absurd hcode (Nat.lt_irrefl _)
      | letter hpick' _ hrest' =>
          obtain rfl := Option.some.inj (hpick.symm.trans hpick')
          rw [ih hrest']

/-! ## (3) Walks of any length -/

/-- **Every cell of a walk was seen** in a word settled. -/
theorem Goes.mem_cellsOf (hgoes : g.Goes w draws walk) (h : g.Embodies learned settled) :
    ∀ cell ∈ walk.cells, cell ∈ g.cellsOf settled := by
  induction hgoes with
  | outOfDraws => exact fun cell hcell => nomatch hcell
  | dead => exact fun cell hcell => nomatch hcell
  | complete hpick =>
      intro cell hcell
      exact List.mem_singleton.mp hcell ▸ h.samples.mem_of_pick? hpick
  | letter hpick _ _ ih =>
      intro cell hcell
      rcases List.mem_cons.mp hcell with rfl | hcell
      · exact h.samples.mem_of_pick? hpick
      · exact ih cell hcell

/-- **No check fails on a walk.** -/
theorem Goes.ending_ne_broken (hgoes : g.Goes w draws walk) (fault : InternalFault) :
    walk.ending ≠ .broken fault := by
  induction hgoes with
  | outOfDraws => exact nofun
  | dead => exact nofun
  | complete => exact nofun
  | letter _ _ _ ih => exact ih

/-- A complete walk has a cell, since the end was picked in some row. -/
theorem Goes.cells_ne_nil (hgoes : g.Goes w draws walk) (hcomplete : walk.ending = .complete) :
    walk.cells ≠ [] := by
  cases hgoes with
  | outOfDraws => cases hcomplete
  | dead => cases hcomplete
  | complete => exact List.cons_ne_nil _ _
  | letter => exact List.cons_ne_nil _ _

/-- **A complete walk goes through the cells of the word that it spells**, and spells letters only. -/
theorem Goes.cells_eq_spell (hgoes : g.Goes w draws walk) (hcomplete : walk.ending = .complete) :
    walk.cells = w.spell walk.codes ∧ ∀ code ∈ walk.codes, code < g.space.letters := by
  induction hgoes with
  | outOfDraws => cases hcomplete
  | dead => cases hcomplete
  | complete => exact ⟨rfl, fun code hcode => nomatch hcode⟩
  | @letter w u us code walk _ hlt hrest ih =>
      obtain ⟨hcells, hcodes⟩ := ih hcomplete
      -- the rest has a cell, so that the letter is not the last one
      rw [Walk.codes_after (hrest.cells_ne_nil hcomplete), Window.spell, ← hcells]
      refine ⟨rfl, fun code' hcode' => ?_⟩
      rcases List.mem_cons.mp hcode' with rfl | hcode'
      · exact hlt
      · exact hcodes code' hcode'

/-- **Rows that were seen stay seen**: the row to which a letter leads, out of a row in which it was
seen, is a row in which something was seen. -/
theorem exists_mem_cellsOf_shift {words : List String} {row code : Nat}
    (h : (row, code) ∈ g.cellsOf words) (hcode : code ≠ g.space.endColumn) :
    ∃ column, ((row * g.space.base + code) % g.space.rows, column) ∈ g.cellsOf words := by
  obtain ⟨word, hword, hmem⟩ := List.mem_flatMap.mp h
  obtain ⟨column, hcolumn⟩ := Window.exists_mem_spell_shift hmem hcode
  exact ⟨column, List.mem_flatMap.mpr ⟨word, hword, hcolumn⟩⟩

/-- **No walk ends in a dead row**, if something was seen in the row that it starts from. -/
theorem Goes.ending_ne_dead (hgoes : g.Goes w draws walk) (h : g.Embodies learned settled)
    (hlive : ∃ column, (w.row, column) ∈ g.cellsOf settled) (row : Nat) :
    walk.ending ≠ .dead row := by
  induction hgoes with
  | outOfDraws => exact nofun
  | dead hpick =>
      obtain ⟨column, hcolumn⟩ := hlive
      exact absurd hcolumn (h.samples.pick?_eq_none_iff.mp hpick column)
  | complete => exact nofun
  | letter hpick hcode _ ih =>
      -- the letter was seen in the row, hence something was seen in the next one
      exact ih (exists_mem_cellsOf_shift (h.samples.mem_of_pick? hpick) (Nat.ne_of_lt hcode))

/-! ## (4) Walks from the start of a word -/

/-- The word that a walk from the start spells, if it is complete. -/
def candidate (g : Generator) (draws : List Draw) : String :=
  g.alphabet.decode (g.walk draws).codes

/-- Walks from the start go by the steps. -/
theorem Embodies.goes_start (h : g.Embodies learned settled) (draws : List Draw) :
    g.Goes (Window.start g.space) draws (g.walk draws) :=
  h.goes .start draws

/-- The codes of a complete walk are those of letters. -/
theorem Embodies.codes_walk_lt (h : g.Embodies learned settled)
    (hcomplete : (g.walk draws).ending = .complete) :
    ∀ code ∈ (g.walk draws).codes, code < g.alphabet.size :=
  ((h.goes_start draws).cells_eq_spell hcomplete).2

/-- **The word of a complete walk** can be told without a fault. -/
theorem Embodies.wordOf_walk (h : g.Embodies learned settled)
    (hcomplete : (g.walk draws).ending = .complete) :
    g.wordOf (g.walk draws) = .ok (g.candidate draws) :=
  g.alphabet.decodeCodes_of_lt (h.codes_walk_lt hcomplete)

/-- **A complete walk goes through the cells in which its word would be observed.** -/
theorem Embodies.cells_walk_eq_spell (h : g.Embodies learned settled)
    (hcomplete : (g.walk draws).ending = .complete) :
    (g.walk draws).cells = g.spell (g.alphabet.codesOf (g.candidate draws)) := by
  rw [candidate, g.alphabet.codesOf_decode (h.codes_walk_lt hcomplete)]
  exact ((h.goes_start draws).cells_eq_spell hcomplete).1

/-- **The start is live as soon as a word is settled**, since every word begins there. -/
theorem exists_mem_cellsOf_start {words : List String} (h : words ≠ []) :
    ∃ column, (g.space.startRow, column) ∈ g.cellsOf words := by
  obtain ⟨word, hword⟩ := List.exists_mem_of_ne_nil words h
  obtain ⟨column, hcolumn⟩ :=
    (Window.start g.space).exists_mem_spell (g.alphabet.codesOf word)
  exact ⟨column, List.mem_flatMap.mpr ⟨word, hword, hcolumn⟩⟩

/-- No walk from the start ends in a dead row, if a word is settled. -/
theorem Embodies.ending_walk_start_ne_dead (h : g.Embodies learned settled) (hne : settled ≠ [])
    (draws : List Draw) (row : Nat) : (g.walk draws).ending ≠ .dead row :=
  (h.goes_start draws).ending_ne_dead h (exists_mem_cellsOf_start hne) row

/-- **Without a word settled, the first draw of a walk finds the start dead.** -/
theorem Embodies.walk_of_not_settled (h : g.Embodies learned []) (u : Draw) (us : List Draw) :
    g.walk (u :: us) = ⟨[], .dead g.space.startRow, us⟩ := by
  have hpick : g.table.pick? (Window.start g.space).row u = none :=
    h.samples.pick?_eq_none_iff.mpr fun column hcolumn => nomatch hcolumn
  exact (h.goes_start (u :: us)).unique (.dead hpick)

end Generator
end Pseudoword
