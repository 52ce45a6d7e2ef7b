import Mathlib
import Pseudoword.Proofs.Candidates
import Pseudoword.Proofs.Levels

/-! # Words within reach

Sampling leaves nothing out: a word that goes from place to place as words settled do can be sampled.
The draws that do so are the levels of its cells. A level picks its own column, because rounding keeps
the levels of columns that were counted apart, as long as a row has no more than `2 ^ 53` counts.

* **`Draw.InUnit u`** — a draw above zero, and at most one.
* **`Table.Samples.pick?_levelOf`** — the level of a column picks that column.
* **`Table.drawsThrough cells path`** — the levels of the cells of a path, as draws.
* **`Generator.Embodies.goes_drawsThrough`** — these draws lead through a word, by induction on its letters.
* **`Generator.selects_run`** — which words can be sampled after every run. -/

namespace Pseudoword

/-! ## (1) Draws that pick a column -/

/-- **A draw above zero, and at most one.** -/
def Draw.InUnit : Draw → Prop
  | .level size => Binary64.zero < size ∧ size ≤ Binary64.one
  | _ => False

namespace Table

variable {t : Table} {cells : List Cell} {row column : Nat}

/-- A cell adds to what is before the next column. -/
theorem before_lt_before_succ (hcell : (row, column) ∈ cells) :
    before cells row column < before cells row (column + 1) := by
  rw [before_succ]
  exact Nat.lt_add_of_pos_right (List.count_pos_iff.mpr hcell)

/-- **The level of a cell is a draw above zero, and at most one.** -/
theorem inUnit_levelOf (hcell : (row, column) ∈ cells) (hsmall : visits cells row ≤ 2 ^ 53) :
    (Draw.level (levelOf cells row column)).InUnit := by
  have hpos : 0 < before cells row (column + 1) := Nat.zero_lt_of_lt (before_lt_before_succ hcell)
  have hle := before_le_visits cells row (column + 1)
  exact ⟨Binary64.ofRatio_pos hpos hle hsmall, Binary64.ofRatio_le_one hle (hpos.trans_le hle)⟩

/-- The levels before that of a cell are less. -/
theorem levelOf_lt_levelOf (hcell : (row, column) ∈ cells) (hsmall : visits cells row ≤ 2 ^ 53)
    {j : Nat} (hj : j < column) : levelOf cells row j < levelOf cells row column := by
  have hlt : before cells row (j + 1) < before cells row (column + 1) :=
    (before_mono cells row hj).trans_lt (before_lt_before_succ hcell)
  exact Binary64.ofRatio_lt_ofRatio hlt (before_le_visits cells row _) hsmall

/-- **The level of a column picks that column**, if it was seen in its row. -/
theorem Samples.pick?_levelOf (h : t.Samples cells) (hcell : (row, column) ∈ cells)
    (hsmall : visits cells row ≤ 2 ^ 53) :
    t.pick? row (.level (levelOf cells row column)) = some column := by
  obtain ⟨hpos, hone⟩ := inUnit_levelOf hcell hsmall
  refine h.pick?_eq_some_iff.mpr ⟨⟨fun hzero => ?_, .inl ?_⟩, fun j hj hreached => ?_⟩
  · rw [hzero] at hpos
    exact Nat.lt_irrefl _ hpos
  · exact decide_eq_false (Nat.lt_irrefl _)
  · -- the draw exceeds each level before, and none of these is one
    have hlt := levelOf_lt_levelOf hcell hsmall hj
    rcases hreached.reached with hnot | hsame
    · rw [Draw.level_exceeds.mpr hlt] at hnot
      cases hnot
    · rw [hsame] at hlt
      exact Nat.lt_irrefl _ (Nat.lt_of_lt_of_le hlt hone)

/-- **The draws that lead through a path**: the level of each of its cells. -/
def drawsThrough (cells path : List Cell) : List Draw :=
  path.map fun cell => .level (levelOf cells cell.1 cell.2)

end Table

/-! ## (2) Draws that lead through a word -/

/-- The columns of a spelling are its letters, and then the end. -/
theorem Window.map_snd_spell {s : ContextSpace} (w : Window s) (codes : List Nat) :
    (w.spell codes).map Prod.snd = codes ++ [s.endColumn] := by
  induction codes generalizing w with
  | nil => rfl
  | cons code codes ih => rw [spell, List.map_cons, ih, List.cons_append]

namespace Generator

variable {g : Generator} {learned settled : List String} {word : String}

/-- **The levels of the cells of a word lead through the word**, if all of them were seen. -/
theorem Embodies.goes_drawsThrough (h : g.Embodies learned settled)
    (hsmall : ∀ row, Table.visits (g.cellsOf settled) row ≤ 2 ^ 53) {w : Window g.space}
    {codes : List Nat} (hcodes : ∀ code ∈ codes, code < g.space.letters)
    (hseen : ∀ cell ∈ w.spell codes, cell ∈ g.cellsOf settled) (later : List Draw) :
    g.Goes w (Table.drawsThrough (g.cellsOf settled) (w.spell codes) ++ later)
      ⟨w.spell codes, .complete, later⟩ := by
  -- on the letters: each draw picks its own letter, and the end is picked by the last one
  induction codes generalizing w with
  | nil => exact .complete (h.samples.pick?_levelOf (hseen _ List.mem_cons_self) (hsmall _))
  | cons code codes ih =>
      have hpick := h.samples.pick?_levelOf (hseen _ List.mem_cons_self) (hsmall w.row)
      have hrest := ih (w := w.shift code) (fun d hd => hcodes d (List.mem_cons_of_mem _ hd))
        fun cell hcell => hseen cell (List.mem_cons_of_mem _ hcell)
      exact .letter hpick (hcodes code List.mem_cons_self) hrest

/-- **Draws that make up a word**, if all of its cells were seen. -/
theorem Embodies.selects_drawsThrough (h : g.Embodies learned settled)
    (hsmall : ∀ row, Table.visits (g.cellsOf settled) row ≤ 2 ^ 53)
    (hspells : g.alphabet.Spells word)
    (hseen : ∀ cell ∈ g.spell (g.alphabet.codesOf word), cell ∈ g.cellsOf settled) :
    g.Selects word
      (Table.drawsThrough (g.cellsOf settled) (g.spell (g.alphabet.codesOf word))) := by
  have hwalk : ∀ later, g.walk (Table.drawsThrough (g.cellsOf settled)
      (g.spell (g.alphabet.codesOf word)) ++ later)
        = ⟨g.spell (g.alphabet.codesOf word), .complete, later⟩ := fun later =>
    (h.goes_start _).unique
      (h.goes_drawsThrough hsmall (g.alphabet.codesOf_lt hspells.2) hseen later)
  refine ⟨?_, fun later => ?_, fun later => ?_, fun later => ?_⟩
  · rw [Table.drawsThrough, List.length_map, spell, ContextSpace.length_spell,
      g.alphabet.length_codesOf]
  · rw [hwalk later]
  · rw [candidate, hwalk later, Walk.codes, spell, Window.map_snd_spell, List.dropLast_concat,
      g.alphabet.decode_codesOf hspells.2]
  · rw [hwalk later]

/-- The draws that lead through cells that were seen are above zero, and at most one. -/
theorem inUnit_of_mem_drawsThrough {cells path : List Cell}
    (hsmall : ∀ row, Table.visits cells row ≤ 2 ^ 53) (hseen : ∀ cell ∈ path, cell ∈ cells) :
    ∀ u ∈ Table.drawsThrough cells path, u.InUnit := by
  intro u hu
  obtain ⟨cell, hcell, rfl⟩ := List.mem_map.mp hu
  exact Table.inUnit_levelOf (hseen cell hcell) (hsmall cell.1)

/-! ## (3) Words that go like those settled -/

/-- **A word that goes like others**: at each of its places, the context and what follows it are those
of a place of one of the others. -/
def GoesLike (a : Alphabet) (s : ContextSpace) (words : List String) (word : String) : Prop :=
  ∀ place ≤ word.length, ∃ seen ∈ words, ∃ place' ≤ seen.length,
    s.contextAt (a.codesOf seen) place' = s.contextAt (a.codesOf word) place
      ∧ s.columnAt (a.codesOf seen) place' = s.columnAt (a.codesOf word) place

/-- One of the words goes like them. -/
theorem goesLike_of_mem {a : Alphabet} {s : ContextSpace} {words : List String}
    (h : word ∈ words) : GoesLike a s words word :=
  fun place hplace => ⟨word, h, place, hplace, rfl, rfl⟩

/-- **The cells of a word that goes like those settled were seen.** -/
theorem Embodies.mem_cellsOf_of_goesLike (h : g.Embodies learned settled)
    (hspells : g.alphabet.Spells word) (hlike : GoesLike g.alphabet g.space settled word) :
    ∀ cell ∈ g.spell (g.alphabet.codesOf word), cell ∈ g.cellsOf settled := by
  intro cell hcell
  obtain ⟨place, hplace, hrow, hcolumn⟩ := ContextSpace.mem_spell_iff.mp hcell
  rw [g.alphabet.length_codesOf] at hplace
  obtain ⟨seen, hseen, place', hplace', hcontexts, hcolumns⟩ := hlike place hplace
  have hcodes := g.alphabet.codesOf_lt (h.spells_settled seen hseen).2
  -- equal contexts stand in one row, so that the cell is that of the other place
  have hrows := ContextSpace.row_eq_of_contextAt_eq hcodes (g.alphabet.codesOf_lt hspells.2) hcontexts
  refine List.mem_flatMap.mpr ⟨seen, hseen, ContextSpace.mem_spell_iff.mpr ⟨place', ?_, ?_, ?_⟩⟩
  · rw [g.alphabet.length_codesOf]
    exact hplace'
  · exact hrows.trans hrow
  · exact hcolumns.trans hcolumn

/-! ## (4) Every run -/

/-- **What a row had counted at the last compilation** are its cells of the words settled. -/
theorem total_settled (alphabet : Alphabet) (order : Nat) (order_pos : 0 < order)
    (patience : Setting) (operations : List Operation) (row : Nat) :
    let blank := untrained alphabet order order_pos patience
    (blank.run (operations.rdropWhile fun operation => !operation.isCompile)).table.total row
      = Table.visits ((blank.run operations).cellsOf (blank.settledIn operations)) row := by
  intro blank
  have hthen := embodies_run alphabet order order_pos patience
    (operations.rdropWhile fun operation => !operation.isCompile)
  rw [hthen.tallies.total_eq, (sameMake_run blank operations).cellsOf_eq,
    (sameMake_run blank _).cellsOf_eq, settledIn]

/-- **Which words can be sampled after every run**, if no row had more than `2 ^ 53` counts when the
generator was compiled last: each that goes like those learned by then, and in particular each of
these. The draws, as many as its letters and one more, are above zero and at most one. If the word was
not learned, they make sampling find it with the first attempt. -/
theorem selects_run (alphabet : Alphabet) (order : Nat) (order_pos : 0 < order)
    (patience : Setting) (operations : List Operation)
    (hsmall : ∀ row, ((untrained alphabet order order_pos patience).run
      (operations.rdropWhile fun operation => !operation.isCompile)).table.total row ≤ 2 ^ 53) :
    let space := contexts alphabet order order_pos
    let blank := untrained alphabet order order_pos patience
    let g := blank.run operations
    (∀ word, alphabet.Spells word → GoesLike alphabet space (blank.settledIn operations) word →
      ∃ draws : List Draw, draws.length = word.length + 1 ∧ (∀ u ∈ draws, u.InUnit)
        ∧ ∀ later, (g.walk (draws ++ later)).ending = .complete
          ∧ (g.walk (draws ++ later)).rest = later
          ∧ g.wordOf (g.walk (draws ++ later)) = .ok word
          ∧ (g.knows word = false → ∀ p : String → Bool, p word → ∀ budget : Option Int,
            (∀ most ∈ budget, 1 ≤ most) →
              g.generate (judgeOf p) budget (draws ++ later) = ⟨g.found word 1, later⟩))
      ∧ (∀ word ∈ blank.settledIn operations,
        alphabet.Spells word ∧ GoesLike alphabet space (blank.settledIn operations) word)
      ∧ ∀ word slow, Configuration.isSlow? 1 patience = some slow →
        g.found word 1 = .ok ⟨word, 1, slow⟩ := by
  intro space blank g
  have h : g.Embodies (blank.learnedIn operations) (blank.settledIn operations) :=
    embodies_run alphabet order order_pos patience operations
  have hmake : blank.SameMake g := sameMake_run blank operations
  have hspace : g.space = space := hmake.space_eq
  have halphabet : g.alphabet = alphabet := hmake.alphabet_eq
  -- what had been counted at the last compilation are the cells of the words settled
  have hsmall' : ∀ row, Table.visits (g.cellsOf (blank.settledIn operations)) row ≤ 2 ^ 53 := by
    intro row
    have hthen := embodies_run alphabet order order_pos patience
      (operations.rdropWhile fun operation => !operation.isCompile)
    rw [hmake.cellsOf_eq, settledIn, ← (sameMake_run blank _).cellsOf_eq, ← hthen.tallies.total_eq]
    exact hsmall row
  refine ⟨fun word hspells hlike => ?_, fun word hword => ⟨?_, goesLike_of_mem hword⟩,
    fun word slow hslow => ?_⟩
  · rw [← halphabet] at hspells hlike
    rw [← hspace] at hlike
    have hseen := h.mem_cellsOf_of_goesLike hspells hlike
    have hselects := h.selects_drawsThrough hsmall' hspells hseen
    refine ⟨_, hselects.length_eq, inUnit_of_mem_drawsThrough hsmall' hseen, fun later =>
      ⟨hselects.complete later, hselects.rest_eq later, ?_, fun hnew p hp budget hbudget => ?_⟩⟩
    · rw [h.wordOf_walk (hselects.complete later), hselects.candidate_eq]
    · have hqualifies : g.qualifies p word := by rw [qualifies, hnew, hp]; rfl
      have hfirst : ∀ most ∈ budget, ((0 : Nat) : Int) < most := hbudget
      rw [generate_of_one_le hbudget,
        hselects.attempt_of_qualifies h hqualifies (not_any_le_iff.mpr hfirst)]
  · rw [← halphabet]
    exact h.spells_settled word hword
  · rw [Generator.found, hmake.patience_eq]
    simp only [hslow, blank, untrained]

/-- Of the words `AB`, `AB` and `BAA`, the word `B` starts like one and ends like another; so there are
two draws on which sampling finds it. -/
theorem selects_mixedRun :
    let g := (untrained .ofAB 1 Nat.one_pos (.integer 1000)).run mixedRun
    ∃ draws : List Draw, draws.length = 2 ∧ (∀ u ∈ draws, u.InUnit)
      ∧ ∀ later, g.generate (judgeOf fun _ => true) (some 1) (draws ++ later)
        = ⟨.ok ⟨"B", 1, false⟩, later⟩ := by
  intro g
  have hsettled : (untrained .ofAB 1 Nat.one_pos (.integer 1000)).settledIn mixedRun
      = ["AB", "AB", "BAA"] := by decide +kernel
  have hobservations : ((untrained .ofAB 1 Nat.one_pos (.integer 1000)).run
      (mixedRun.rdropWhile fun operation => !operation.isCompile)).table.observations ≤ 2 ^ 53 := by
    decide +kernel
  have hsmall : ∀ row, ((untrained .ofAB 1 Nat.one_pos (.integer 1000)).run
      (mixedRun.rdropWhile fun operation => !operation.isCompile)).table.total row ≤ 2 ^ 53 :=
    fun row => ((embodies_run .ofAB 1 Nat.one_pos (.integer 1000) _).tallies.total_le_observations
      row).trans hobservations
  obtain ⟨hword, -, hfound⟩ := selects_run .ofAB 1 Nat.one_pos (.integer 1000) mixedRun hsmall
  have hlike : GoesLike .ofAB (contexts .ofAB 1 Nat.one_pos) ["AB", "AB", "BAA"] "B" := by
    intro place hplace
    rcases Nat.le_one_iff_eq_zero_or_eq_one.mp hplace with rfl | rfl
    · exact ⟨"BAA", by simp, 0, by decide, by decide +kernel, by decide +kernel⟩
    · exact ⟨"AB", by simp, 2, by decide, by decide +kernel, by decide +kernel⟩
  have hnew : g.knows "B" = false := by decide +kernel
  obtain ⟨draws, hlength, hunit, hwalk⟩ := hword "B" (by decide) (hsettled.symm ▸ hlike)
  refine ⟨draws, hlength, hunit, fun later => ?_⟩
  rw [(hwalk later).2.2.2 hnew _ rfl (some 1) (by decide), hfound "B" false rfl]

end Generator
end Pseudoword
