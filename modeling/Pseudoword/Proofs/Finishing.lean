import Mathlib
import Pseudoword.Proofs.Reaching

/-! # Walks can always be finished

However far a walk has come, and whatever draws took it there, it can still reach the end of a word.
The context that it has got into is one of a word settled, and what is left of that word after the
context leads to the end; so it takes no more draws than the longest of these words has letters, and one
for the end.

* **`Window.spell_drop`** — the cells of the letters left at a place are the last ones of the word.
* **`Generator.Goes.append`** — a walk that ran out of draws goes on with further ones.
* **`Generator.Embodies.exists_spell_settled`** — what is left of a word settled, for every live window.
* **`Generator.exists_finish_run`** — no walk is trapped, after any run. -/

namespace Pseudoword

namespace Window

variable {s : ContextSpace}

/-! ## (1) What is left of a word -/

/-- **The row of a window decides its spellings**: neither slots nor the end of the word matter. -/
theorem spell_eq_of_row_eq {w w' : Window s} (h : w.row = w'.row) (codes : List Nat) :
    w.spell codes = w'.spell codes := by
  induction codes generalizing w w' with
  | nil => rw [spell, spell, h]
  | cons code codes ih =>
      have hshift : (w.shift code).row = (w'.shift code).row := by rw [row_shift, row_shift, h]
      rw [spell, spell, h, ih hshift]

/-- **The cells of the letters left at a place** are the cells of the word from that place on. -/
theorem spell_drop (w : Window s) (codes : List Nat) {place : Nat} (h : place ≤ codes.length) :
    (w.spell codes).drop place = (w.after (codes.take place)).spell (codes.drop place) := by
  induction codes generalizing w place with
  | nil =>
      obtain rfl : place = 0 := Nat.le_zero.mp h
      rfl
  | cons code codes ih =>
      cases place with
      | zero => rfl
      | succ place =>
          rw [spell, List.drop_succ_cons, ih (w.shift code) (Nat.le_of_succ_le_succ h),
            List.take_succ_cons, List.drop_succ_cons, after_cons]

/-- **A row of a spelling leads to its end**: out of every window with that row, the letters left there
go through cells of the spelling. -/
theorem exists_spell_subset {w w' : Window s} {codes : List Nat} {column : Nat}
    (h : (w'.row, column) ∈ w.spell codes) :
    ∃ left, left <:+ codes ∧ w'.spell left ⊆ w.spell codes := by
  obtain ⟨place, hplace, hrow, -⟩ := ContextSpace.mem_spell_iff.mp h
  refine ⟨codes.drop place, List.drop_suffix place codes, ?_⟩
  rw [← spell_eq_of_row_eq hrow, ← w.spell_drop codes hplace]
  exact List.drop_subset place _

end Window

namespace Generator

variable {g : Generator} {learned settled : List String} {w : Window g.space}
  {draws later : List Draw} {walk walk' : Walk}

/-! ## (2) Walks that go on -/

/-- The window to which a walk has come: after the letters of its cells, as long as none is the end. -/
def windowAfter (w : Window g.space) (walk : Walk) : Window g.space :=
  w.after (walk.cells.map Prod.snd)

/-- **A walk that ran out of draws goes on** with further ones, from the window to which it came. -/
theorem Goes.append (hgoes : g.Goes w draws walk) (hopen : walk.ending = .outOfDraws)
    (hlater : g.Goes (windowAfter w walk) later walk') :
    g.Goes w (draws ++ later) { walk' with cells := walk.cells ++ walk'.cells } := by
  induction hgoes with
  | outOfDraws => exact hlater
  | dead => cases hopen
  | complete => cases hopen
  | letter hpick hcode _ ih => exact .letter hpick hcode (ih hopen hlater)

/-- **A walk that ran out of draws is in a live row**, if it started from one. -/
theorem Goes.live_windowAfter (hgoes : g.Goes w draws walk) (h : g.Embodies learned settled)
    (hopen : walk.ending = .outOfDraws) (hlive : ∃ column, (w.row, column) ∈ g.cellsOf settled) :
    ∃ column, ((windowAfter w walk).row, column) ∈ g.cellsOf settled := by
  induction hgoes with
  | outOfDraws => exact hlive
  | dead => cases hopen
  | complete => cases hopen
  | letter hpick hcode _ ih =>
      exact ih hopen (exists_mem_cellsOf_shift (h.samples.mem_of_pick? hpick) (Nat.ne_of_lt hcode))

/-- **A walk that has not come to the end has run out of draws**, if it started from a live row. -/
theorem Goes.ending_eq_outOfDraws (hgoes : g.Goes w draws walk) (h : g.Embodies learned settled)
    (hlive : ∃ column, (w.row, column) ∈ g.cellsOf settled) (hopen : walk.ending ≠ .complete) :
    walk.ending = .outOfDraws := by
  cases hending : walk.ending with
  | complete => exact absurd hending hopen
  | dead row => exact absurd hending (hgoes.ending_ne_dead h hlive row)
  | outOfDraws => rfl
  | broken fault => exact absurd hending (hgoes.ending_ne_broken fault)

/-! ## (3) What is left of a word settled -/

/-- How many letters the longest of some words has. -/
def longest (words : List String) : Nat :=
  words.toFinset.sup String.length

theorem length_le_longest {words : List String} {word : String} (h : word ∈ words) :
    word.length ≤ longest words :=
  Finset.le_sup (f := String.length) (List.mem_toFinset.mpr h)

/-- **Out of every live window, what is left of a word settled leads to the end**: it has no more letters
than the longest of these words, and all of its cells were seen. -/
theorem Embodies.exists_spell_settled (h : g.Embodies learned settled)
    (hlive : ∃ column, (w.row, column) ∈ g.cellsOf settled) :
    ∃ left : List Nat, left.length ≤ longest settled ∧ (∀ code ∈ left, code < g.space.letters)
      ∧ ∀ cell ∈ w.spell left, cell ∈ g.cellsOf settled := by
  obtain ⟨column, hcolumn⟩ := hlive
  obtain ⟨word, hword, hcell⟩ := List.mem_flatMap.mp hcolumn
  obtain ⟨left, hleft, hcells⟩ := Window.exists_spell_subset hcell
  have hcodes := g.alphabet.codesOf_lt (h.spells_settled word hword).2
  refine ⟨left, ?_, fun code hcode => hcodes code (hleft.subset hcode), fun cell hmem => ?_⟩
  · have hlength := hleft.length_le
    rw [g.alphabet.length_codesOf] at hlength
    exact hlength.trans (length_le_longest hword)
  · exact List.mem_flatMap.mpr ⟨word, hword, hcells hmem⟩

/-- **Out of every live window a walk can be finished** by a few draws that are above zero, and at most
one. -/
theorem Embodies.exists_goes_complete (h : g.Embodies learned settled)
    (hsmall : ∀ row, Table.visits (g.cellsOf settled) row ≤ 2 ^ 53)
    (hlive : ∃ column, (w.row, column) ∈ g.cellsOf settled) :
    ∃ more : List Draw, more.length ≤ longest settled + 1 ∧ (∀ u ∈ more, u.InUnit)
      ∧ ∀ later, ∃ cells, g.Goes w (more ++ later) ⟨cells, .complete, later⟩ := by
  obtain ⟨left, hlength, hcodes, hseen⟩ := h.exists_spell_settled hlive
  refine ⟨Table.drawsThrough (g.cellsOf settled) (w.spell left), ?_,
    inUnit_of_mem_drawsThrough hsmall hseen, fun later =>
      ⟨w.spell left, h.goes_drawsThrough hsmall hcodes hseen later⟩⟩
  rw [Table.drawsThrough, List.length_map, ContextSpace.length_spell]
  exact Nat.succ_le_succ hlength

/-! ## (4) Every run -/

/-- **No walk is trapped, after any run** in which a word was learned before the last compilation and no
row had more than `2 ^ 53` counts then. Whatever draws were taken, as long as the end is not among what
they selected there are further ones that lead to it, above zero and at most one: no more than the
longest of the words learned by then has letters, and one. -/
theorem exists_finish_run (alphabet : Alphabet) (order : Nat) (order_pos : 0 < order)
    (patience : Setting) (operations : List Operation)
    (hsettled : (untrained alphabet order order_pos patience).settledIn operations ≠ [])
    (hsmall : ∀ row, ((untrained alphabet order order_pos patience).run
      (operations.rdropWhile fun operation => !operation.isCompile)).table.total row ≤ 2 ^ 53)
    (draws : List Draw)
    (hopen : (((untrained alphabet order order_pos patience).run operations).walk draws).ending
      ≠ .complete) :
    let blank := untrained alphabet order order_pos patience
    let g := blank.run operations
    (g.walk draws).ending = .outOfDraws
      ∧ ∃ more : List Draw, more.length ≤ longest (blank.settledIn operations) + 1
        ∧ (∀ u ∈ more, u.InUnit)
        ∧ ∀ later, (g.walk (draws ++ (more ++ later))).ending = .complete
          ∧ (g.walk (draws ++ (more ++ later))).rest = later := by
  intro blank g
  have h : g.Embodies (blank.learnedIn operations) (blank.settledIn operations) :=
    embodies_run alphabet order order_pos patience operations
  have hsmall' : ∀ row, Table.visits (g.cellsOf (blank.settledIn operations)) row ≤ 2 ^ 53 := by
    intro row
    rw [← total_settled]
    exact hsmall row
  have hstart := exists_mem_cellsOf_start (g := g) hsettled
  have hgoes := h.goes_start draws
  have hending := hgoes.ending_eq_outOfDraws h hstart hopen
  obtain ⟨more, hlength, hunit, hmore⟩ :=
    h.exists_goes_complete hsmall' (hgoes.live_windowAfter h hending hstart)
  refine ⟨hending, more, hlength, hunit, fun later => ?_⟩
  obtain ⟨cells, hlater⟩ := hmore later
  -- the draws determine the walk, so that it is the one that goes on and is finished
  have hwalk := (h.goes_start (draws ++ (more ++ later))).unique (hgoes.append hending hlater)
  rw [hwalk]
  exact ⟨rfl, rfl⟩

/-- Of the words `AB`, `AB` and `BAA`, draws below zero spell one `A` after the other, with no end; yet
after five of them there are four draws that finish the walk, or fewer. -/
theorem exists_finish_mixedRun :
    let g := (untrained .ofAB 1 Nat.one_pos (.integer 1000)).run mixedRun
    let draws : List Draw := List.replicate 5 .negative
    (g.walk draws).cells.map Prod.snd = [0, 0, 0, 0, 0] ∧ (g.walk draws).ending ≠ .complete
      ∧ ∃ more : List Draw, more.length ≤ 4 ∧ (∀ u ∈ more, u.InUnit)
        ∧ ∀ later, (g.walk (draws ++ (more ++ later))).ending = .complete
          ∧ (g.walk (draws ++ (more ++ later))).rest = later := by
  intro g draws
  have hsettled : (untrained .ofAB 1 Nat.one_pos (.integer 1000)).settledIn mixedRun
      = ["AB", "AB", "BAA"] := by decide +kernel
  have hlongest : longest ["AB", "AB", "BAA"] = 3 := by decide +kernel
  have hobservations : ((untrained .ofAB 1 Nat.one_pos (.integer 1000)).run
      (mixedRun.rdropWhile fun operation => !operation.isCompile)).table.observations ≤ 2 ^ 53 := by
    decide +kernel
  have hopen : (g.walk draws).ending ≠ .complete := by decide +kernel
  obtain ⟨-, more, hlength, hunit, hfinish⟩ := exists_finish_run .ofAB 1 Nat.one_pos (.integer 1000)
    mixedRun (by rw [hsettled]; exact List.cons_ne_nil _ _)
    (fun row => ((embodies_run .ofAB 1 Nat.one_pos (.integer 1000) _).tallies.total_le_observations
      row).trans hobservations) draws hopen
  rw [hsettled, hlongest] at hlength
  exact ⟨by decide +kernel, hopen, more, hlength, hunit, hfinish⟩

end Generator
end Pseudoword
