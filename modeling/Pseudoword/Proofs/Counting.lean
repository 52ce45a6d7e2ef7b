import Mathlib
import Pseudoword.Proofs.Histories

/-! # What is counted

After any run, the count of a column in the row of a context is the number of places, over all words
learned, at which that column follows that context. Rows, windows and the order of operations do not
show in it any more; nor do calls that failed, whatever the state they failed in.

* **`Generator.Embodies.count_eq_sum_occurrences`** — a count as a sum over words.
* **`Generator.Embodies.size_vocabulary`** — how many words are known.
* **`Generator.countAt_run`** — the counts, the vocabulary and the observations after every run. -/

namespace Pseudoword.Generator

variable {g : Generator} {learned settled : List String}

/-! ## (1) Sums over words -/

/-- **A count is a sum over the words learned**: how often the column follows the context in each. -/
theorem Embodies.count_eq_sum_occurrences (h : g.Embodies learned settled)
    {context : List (Option Int)} (hcontext : g.space.IsContext context) (column : Nat) :
    g.table.count (g.space.value (context.map g.space.digitOf)) column
      = (learned.map fun word =>
          g.space.occurrences context column (g.alphabet.codesOf word)).sum := by
  rw [h.tallies.count_eq, cellsOf, List.count_flatMap]
  congr 1
  apply List.map_congr_left
  intro word hword
  exact ContextSpace.count_spell (g.alphabet.codesOf_lt (h.spells word hword).2) hcontext column

/-- **Each word learned was observed once more often than it has letters.** -/
theorem Embodies.observations_eq_sum (h : g.Embodies learned settled) :
    g.table.observations = (learned.map fun word => word.length + 1).sum := by
  rw [h.tallies.observations_eq, cellsOf, List.length_flatMap]
  congr 1
  apply List.map_congr_left
  intro word _
  rw [spell, ContextSpace.length_spell, g.alphabet.length_codesOf]

/-- **As many words are known as were learned**, repetitions apart. -/
theorem Embodies.size_vocabulary (h : g.Embodies learned settled) :
    g.vocabulary.size = learned.dedup.length := by
  have hnodup : g.vocabulary.toList.Nodup := by
    refine g.vocabulary.distinct_toList.imp fun hne heq => hne ?_
    exact compare_eq_iff_eq.mpr heq
  have hmem : ∀ word, word ∈ g.vocabulary.toList ↔ word ∈ learned.dedup := by
    intro word
    rw [Std.TreeSet.mem_toList, List.mem_dedup, ← h.knows_iff]
    rfl
  rw [← Std.TreeSet.length_toList]
  exact ((List.perm_ext_iff_of_nodup hnodup learned.nodup_dedup).mpr hmem).length_eq

/-- The row of a context, with a column, is a cell of the table. -/
theorem Embodies.contains_value (h : g.Embodies learned settled) {context : List (Option Int)}
    (hcontext : g.space.IsContext context) {column : Nat} (hcolumn : column ≤ g.space.endColumn) :
    g.table.Contains (g.space.value (context.map g.space.digitOf), column) := by
  have hrow := g.space.value_lt_rows (by rw [List.length_map, hcontext.length_eq])
    hcontext.digits_lt
  rw [Table.Contains, h.rows_eq, h.columns_eq]
  exact ⟨by exact_mod_cast hrow, by exact_mod_cast Nat.lt_succ_of_le hcolumn⟩

/-! ## (2) Every run -/

/-- **What is counted after every run.** In the row of each context, each column was counted as often
as it follows the context at a place of a word learned; the words known are exactly those learned; and
the observations are all counts together, one for each place of a word. -/
theorem countAt_run (alphabet : Alphabet) (order : Nat) (order_pos : 0 < order)
    (patience : Setting) (operations : List Operation) :
    let space := contexts alphabet order order_pos
    let blank := untrained alphabet order order_pos patience
    let g := blank.run operations
    let learned := blank.learnedIn operations
    (∀ context column, space.IsContext context → column ≤ space.endColumn →
      ∃ row : Nat, space.rowFor context = .ok row
        ∧ g.table.countAt row column = .ok (learned.map fun word =>
            space.occurrences context column (alphabet.codesOf word)).sum)
      ∧ (∀ word, g.knows word = true ↔ word ∈ learned)
      ∧ g.vocabulary.size = learned.dedup.length
      ∧ g.table.observations = g.table.allCounts.sum
      ∧ g.table.observations = (learned.map fun word => word.length + 1).sum := by
  intro space blank g learned
  have h : g.Embodies learned (blank.settledIn operations) :=
    embodies_run alphabet order order_pos patience operations
  -- operations do not change the make, so that the contexts of the statement are those of the table
  have hmake : blank.SameMake g := sameMake_run blank operations
  have hspace : g.space = space := hmake.space_eq
  have halphabet : g.alphabet = alphabet := hmake.alphabet_eq
  have hcolumns : 0 ≤ g.table.columns := h.columns_eq ▸ Int.natCast_nonneg _
  refine ⟨?_, h.knows_iff, h.size_vocabulary, (h.tallies.sum_allCounts hcolumns).symm,
    h.observations_eq_sum⟩
  intro context column hcontext hcolumn
  rw [← hspace] at hcontext hcolumn ⊢
  refine ⟨_, g.space.rowFor_eq hcontext, ?_⟩
  rw [Table.countAt_of_contains (h.contains_value hcontext hcolumn),
    h.count_eq_sum_occurrences hcontext, halphabet]

/-- In a run in which some calls fail, `B` follows an `A` at the start of a word three times. -/
theorem countAt_mixedRun :
    let space := contexts .ofAB 2 Nat.two_pos
    let g := (untrained .ofAB 2 Nat.two_pos (.integer 1000)).run mixedRun
    space.IsContext [none, some 0] ∧ 1 ≤ space.endColumn
      ∧ ∃ row : Nat, space.rowFor [none, some 0] = .ok row
        ∧ g.table.countAt row 1 = .ok 3 := by
  intro space g
  have hcontext : space.IsContext [none, some 0] := by
    refine ⟨rfl, fun code hcode => ?_⟩
    obtain rfl : code = 0 := by simpa using hcode
    decide
  have hcolumn : 1 ≤ space.endColumn := by decide
  have hsum : (((untrained .ofAB 2 Nat.two_pos (.integer 1000)).learnedIn mixedRun).map fun word =>
      (contexts .ofAB 2 Nat.two_pos).occurrences [none, some 0] 1
        (Alphabet.ofAB.codesOf word)).sum = 3 := by decide +kernel
  have h := (countAt_run .ofAB 2 Nat.two_pos (.integer 1000) mixedRun).1 [none, some 0] 1
    hcontext hcolumn
  rw [hsum] at h
  exact ⟨hcontext, hcolumn, h⟩

end Pseudoword.Generator
