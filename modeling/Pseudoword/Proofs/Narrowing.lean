import Mathlib
import Pseudoword.Proofs.Reaching

/-! # More slots reach fewer words

The last slots of a longer context are a context of fewer slots. So what was seen to follow the longer
one was seen to follow the shorter one, too; and since sampling leaves nothing out that was seen, fewer
slots reach every word that more slots reach.

* **`ContextSpace.rtake_contextAt`** — the context with fewer slots, as the last slots of one with more.
* **`Generator.GoesLike.narrow`** — a word that goes like others with more slots does so with fewer.
* **`Generator.Embodies.exists_selects_candidate`** — from a walk with more slots to draws for fewer.
* **`Generator.found_of_generate`** — a word that is generated is told with the number of its attempts.
* **`Generator.narrows_run`** — two generators of different orders after the same run. -/

namespace Pseudoword

/-- Whether attempts can be compared with a patience does not depend on how many they are. -/
theorem Configuration.isSome_isSlow?_eq (attempts attempts' : Nat) (patience : Setting) :
    (isSlow? attempts patience).isSome = (isSlow? attempts' patience).isSome := by
  cases patience <;> simp only [isSlow?, Option.isSome_some, Option.isSome_none]

namespace ContextSpace

variable {s deep : ContextSpace}

/-! ## (1) Contexts with fewer slots -/

/-- The last entries are those of the last part, if it has as many. -/
theorem rtake_eq_of_suffix {α : Type*} {last entries : List α} {count : Nat} (h : last <:+ entries)
    (hcount : count ≤ last.length) : last.rtake count = entries.rtake count := by
  obtain ⟨earlier, rfl⟩ := h
  rw [List.rtake, List.rtake, List.length_append, Nat.add_sub_assoc hcount,
    List.drop_length_add_append]

/-- **The last slots of a context** are the context of fewer slots at that place. -/
theorem rtake_contextAt (h : s.order ≤ deep.order) (codes : List Nat) (place : Nat) :
    (deep.contextAt codes place).rtake s.order = s.contextAt codes place := by
  -- both contexts are last parts of the letters before the place, behind the empty slots of the longer one
  set letters := (codes.take place).map fun code : Nat => some (code : Int)
  have hdeep : deep.contextAt codes place <:+ List.replicate deep.order none ++ letters :=
    List.drop_suffix _ _
  have hlength : s.order ≤ (deep.contextAt codes place).length := by
    rw [contextAt, List.rtake, List.length_drop, List.length_append, List.length_replicate]
    omega
  have hpadded : List.replicate s.order none ++ letters
      <:+ List.replicate deep.order none ++ letters := by
    refine ⟨List.replicate (deep.order - s.order) none, ?_⟩
    rw [← List.append_assoc, ← List.replicate_add, Nat.sub_add_cancel h]
  have hslots : s.order ≤ (List.replicate s.order none ++ letters).length := by
    rw [List.length_append, List.length_replicate]
    exact Nat.le_add_right _ _
  rw [rtake_eq_of_suffix hdeep hlength, ← rtake_eq_of_suffix hpadded hslots, contextAt]

/-- The number of slots does not matter for what follows. -/
theorem columnAt_eq (h : s.letters = deep.letters) (codes : List Nat) (place : Nat) :
    s.columnAt codes place = deep.columnAt codes place := by
  rw [columnAt, columnAt, endColumn, endColumn, h]

end ContextSpace

namespace Generator

variable {g deeper : Generator} {learned settled learned' : List String} {word : String}
  {accepts : Judge} {draws used : List Draw}

/-! ## (2) Words within reach of more slots -/

/-- **A word that goes like others does so with fewer slots, too.** -/
theorem GoesLike.narrow {a : Alphabet} {s deep : ContextSpace} {words : List String}
    (hlike : GoesLike a deep words word) (hletters : s.letters = deep.letters)
    (horder : s.order ≤ deep.order) : GoesLike a s words word := by
  intro place hplace
  obtain ⟨seen, hseen, place', hplace', hcontext, hcolumn⟩ := hlike place hplace
  refine ⟨seen, hseen, place', hplace', ?_, ?_⟩
  · rw [← ContextSpace.rtake_contextAt horder, hcontext, ContextSpace.rtake_contextAt horder]
  · rw [ContextSpace.columnAt_eq hletters, hcolumn, ContextSpace.columnAt_eq hletters]

/-- The word of a complete walk goes like those settled. -/
theorem Embodies.goesLike_candidate (h : g.Embodies learned settled)
    (hcomplete : (g.walk draws).ending = .complete) :
    GoesLike g.alphabet g.space settled (g.candidate draws) :=
  fun _ hplace => h.exists_place_of_candidate hcomplete hplace

/-- **A walk with more slots gives draws for fewer**: if both generators have the same words settled, there
are draws that make up the word of the walk with fewer slots. -/
theorem Embodies.exists_selects_candidate (h : g.Embodies learned settled)
    (hdeep : deeper.Embodies learned' settled) (halphabet : deeper.alphabet = g.alphabet)
    (horder : g.order ≤ deeper.order)
    (hsmall : ∀ row, Table.visits (g.cellsOf settled) row ≤ 2 ^ 53)
    (hcomplete : (deeper.walk draws).ending = .complete) :
    ∃ used, g.Selects (deeper.candidate draws) used ∧ ∀ u ∈ used, u.InUnit := by
  have hspells := hdeep.spells_candidate hcomplete
  have hlike := hdeep.goesLike_candidate hcomplete
  rw [halphabet] at hspells hlike
  have hletters : g.space.letters = deeper.space.letters :=
    congrArg Alphabet.size halphabet.symm
  have hseen := h.mem_cellsOf_of_goesLike hspells (hlike.narrow hletters horder)
  exact ⟨_, h.selects_drawsThrough hsmall hspells hseen, inUnit_of_mem_drawsThrough hsmall hseen⟩

/-! ## (3) Words that are generated -/

/-- **Draws that make up a new word that is accepted** make sampling find it with the first attempt. -/
theorem Selects.generate_of_accepted (hs : g.Selects word used) (h : g.Embodies learned settled)
    (hnew : g.knows word = false) (haccepted : accepts word = .ok true) {budget : Option Int}
    (hbudget : ∀ most ∈ budget, 1 ≤ most) (later : List Draw) :
    g.generate accepts budget (used ++ later) = ⟨g.found word 1, later⟩ := by
  have hfirst : ∀ most ∈ budget, ((0 : Nat) : Int) < most := hbudget
  rw [generate_of_one_le hbudget,
    h.attempt_of_complete accepts (not_any_le_iff.mpr hfirst) (hs.complete later), hs.candidate_eq,
    hs.rest_eq, hnew, haccepted]
  rfl

/-- What is found by trying walks is told with the number of attempts that it took. -/
theorem found_of_attempt (accepts : Judge) (budget : Option Nat) (attempts : Nat)
    (draws : List Draw) {found : Found}
    (hfound : (g.attempt accepts budget attempts draws).result = .ok found) :
    g.found found.word found.attempts = .ok found := by
  fun_induction attempt g accepts budget attempts draws with
  | case1 => cases hfound
  | case2 => cases hfound
  | case3 => cases hfound
  | case4 => cases hfound
  | case5 => cases hfound
  | case6 _ _ _ _ _ _ _ _ _ ih => exact ih hfound
  | case7 => cases hfound
  | case8 attempts draws _ walk _ _ word =>
      rcases g.found_cases word (attempts + 1) with hnone | ⟨slow, hsome⟩
      · cases hnone.symm.trans hfound
      · obtain rfl := Except.ok.inj (hsome.symm.trans hfound)
        exact hsome
  | case9 _ _ _ _ _ _ _ _ _ _ ih => exact ih hfound

/-- **A word that is generated** is told with the number of attempts that it took. -/
theorem found_of_generate {budget : Option Int} {found : Found}
    (hfound : (g.generate accepts budget draws).result = .ok found) :
    g.found found.word found.attempts = .ok found := by
  rw [generate] at hfound
  split at hfound
  · cases hfound
  · exact found_of_attempt accepts _ 0 draws hfound

/-- **Where a word is found after some attempts**, every word is found after every number of them. -/
theorem exists_found {attempts : Nat} {found : Found} (hfound : g.found word attempts = .ok found)
    (word' : String) (attempts' : Nat) :
    ∃ slow, g.found word' attempts' = .ok ⟨word', attempts', slow⟩ := by
  have hcomparable : (Configuration.isSlow? attempts g.patience).isSome := by
    rw [Generator.found] at hfound
    split at hfound
    · cases hfound
    · next slow hslow =>
      rw [hslow]
      rfl
  rw [Configuration.isSome_isSlow?_eq attempts attempts'] at hcomparable
  obtain ⟨slow, hslow⟩ := Option.isSome_iff_exists.mp hcomparable
  exact ⟨slow, by rw [Generator.found, hslow]⟩

/-! ## (4) Every run -/

/-- **Which words are settled in a run** does not depend on the order. -/
theorem settledIn_untrained (alphabet : Alphabet) (order order' : Nat) (order_pos : 0 < order)
    (order_pos' : 0 < order') (patience : Setting) (operations : List Operation) :
    (untrained alphabet order order_pos patience).settledIn operations
      = (untrained alphabet order' order_pos' patience).settledIn operations := by
  rw [settledIn, settledIn, learnedIn_untrained, learnedIn_untrained]

/-- **More slots reach fewer words**, for two generators of the same alphabet, one with as many slots as the
other or more, after the same run, if no row of the one with fewer slots had more than `2 ^ 53` counts when it
was compiled last. Whatever draws the one with more slots walks on, if the walk is complete, there are draws
above zero and at most one on which the other walks through the same word. And a word that the one with more
slots generates is generated by the other, with the first attempt on such draws. -/
theorem narrows_run (alphabet : Alphabet) {order deep : Nat} (order_pos : 0 < order)
    (hle : order ≤ deep) (patience : Setting) (operations : List Operation)
    (hsmall : ∀ row, ((untrained alphabet order order_pos patience).run
      (operations.rdropWhile fun operation => !operation.isCompile)).table.total row ≤ 2 ^ 53) :
    let g := (untrained alphabet order order_pos patience).run operations
    let deeper := (untrained alphabet deep (order_pos.trans_le hle) patience).run operations
    (∀ draws, (deeper.walk draws).ending = .complete →
        ∃ word, ∃ used : List Draw, deeper.wordOf (deeper.walk draws) = .ok word
          ∧ used.length = word.length + 1 ∧ (∀ u ∈ used, u.InUnit)
          ∧ ∀ later, (g.walk (used ++ later)).ending = .complete
            ∧ (g.walk (used ++ later)).rest = later
            ∧ g.wordOf (g.walk (used ++ later)) = .ok word)
      ∧ ∀ accepts budget draws found, (deeper.generate accepts budget draws).result = .ok found →
        ∃ used : List Draw, ∃ slow, used.length = found.word.length + 1 ∧ (∀ u ∈ used, u.InUnit)
          ∧ ∀ budget' : Option Int, (∀ most ∈ budget', 1 ≤ most) → ∀ later,
            g.generate accepts budget' (used ++ later) = ⟨.ok ⟨found.word, 1, slow⟩, later⟩ := by
  intro g deeper
  have deep_pos : 0 < deep := order_pos.trans_le hle
  have h := embodies_run alphabet order order_pos patience operations
  have hdeep := embodies_run alphabet deep deep_pos patience operations
  have hmake : (untrained alphabet order order_pos patience).SameMake g := sameMake_run _ operations
  have hmake' : (untrained alphabet deep deep_pos patience).SameMake deeper :=
    sameMake_run _ operations
  -- both have learned and settled the same words
  rw [settledIn_untrained alphabet deep order deep_pos order_pos, learnedIn_untrained] at hdeep
  rw [learnedIn_untrained] at h
  have hvisits : ∀ row, Table.visits (g.cellsOf ((untrained alphabet order order_pos
      patience).settledIn operations)) row ≤ 2 ^ 53 := fun row =>
    total_settled alphabet order order_pos patience operations row ▸ hsmall row
  have horder : g.order ≤ deeper.order := by
    rw [hmake.order_eq, hmake'.order_eq]
    exact hle
  have hpatience : deeper.patience = g.patience := hmake'.patience_eq.trans hmake.patience_eq.symm
  have hreach : ∀ draws, (deeper.walk draws).ending = .complete →
      ∃ used, g.Selects (deeper.candidate draws) used ∧ ∀ u ∈ used, u.InUnit := fun draws =>
    h.exists_selects_candidate hdeep (hmake'.alphabet_eq.trans hmake.alphabet_eq.symm) horder hvisits
  refine ⟨fun draws hcomplete => ?_, fun accepts budget draws found hfound => ?_⟩
  · obtain ⟨used, hs, hunit⟩ := hreach draws hcomplete
    refine ⟨_, used, hdeep.wordOf_walk hcomplete, hs.length_eq, hunit, fun later =>
      ⟨hs.complete later, hs.rest_eq later, ?_⟩⟩
    rw [h.wordOf_walk (hs.complete later), hs.candidate_eq]
  · rcases hdeep.generate_cases accepts budget draws with hnone | hstops
    · cases hnone.symm.trans hfound
    · rw [hfound] at hstops
      cases hstops with
      | found walked _ hcomplete hword hnew haccepted =>
          obtain ⟨used, hs, hunit⟩ := hreach walked hcomplete
          rw [← hword] at hs
          -- the word is new to both, since they have learned the same
          have hnew' : g.knows found.word = false := by
            rw [Bool.eq_false_iff, ne_eq, h.knows_iff, ← hdeep.knows_iff, hnew]
            exact Bool.false_ne_true
          obtain ⟨slow, hslow⟩ := exists_found (found_of_generate hfound) found.word 1
          rw [Generator.found, hpatience, ← Generator.found] at hslow
          refine ⟨used, slow, hs.length_eq, hunit, fun budget' hbudget later => ?_⟩
          rw [hs.generate_of_accepted h hnew' haccepted hbudget, hslow]

/-- Of the words `ABA` and `BAB`, two slots make the word `AB`; so there are three draws on which one slot
makes it, too. -/
theorem narrows_twoWords :
    let operations : List Operation := [.trainAll ["ABA", "BAB"], .compile]
    let g := (untrained .ofAB 1 Nat.one_pos (.integer 1000)).run operations
    let deeper := (untrained .ofAB 2 Nat.two_pos (.integer 1000)).run operations
    (deeper.generate (judgeOf fun _ => true) (some 1)
        [.negative, .negative, .level Binary64.one]).result = .ok ⟨"AB", 1, false⟩
      ∧ ∃ used : List Draw, ∃ slow, used.length = 3 ∧ (∀ u ∈ used, u.InUnit)
        ∧ ∀ later, g.generate (judgeOf fun _ => true) (some 1) (used ++ later)
          = ⟨.ok ⟨"AB", 1, slow⟩, later⟩ := by
  intro operations g deeper
  have hobservations : ((untrained .ofAB 1 Nat.one_pos (.integer 1000)).run
      (operations.rdropWhile fun operation => !operation.isCompile)).table.observations ≤ 2 ^ 53 := by
    decide +kernel
  have hsmall : ∀ row, ((untrained .ofAB 1 Nat.one_pos (.integer 1000)).run
      (operations.rdropWhile fun operation => !operation.isCompile)).table.total row ≤ 2 ^ 53 :=
    fun row => ((embodies_run .ofAB 1 Nat.one_pos (.integer 1000) _).tallies.total_le_observations
      row).trans hobservations
  have hfound : (deeper.generate (judgeOf fun _ => true) (some 1)
      [.negative, .negative, .level Binary64.one]).result = .ok ⟨"AB", 1, false⟩ :=
    Sample.result_eq_ok (by decide +kernel)
  obtain ⟨used, slow, hlength, hunit, hgenerate⟩ := (narrows_run .ofAB Nat.one_pos one_le_two
    (.integer 1000) operations hsmall).2 _ _ _ _ hfound
  exact ⟨hfound, used, slow, hlength, hunit, hgenerate (some 1) (by decide)⟩

end Generator
end Pseudoword
