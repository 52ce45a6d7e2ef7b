import Mathlib
import Pseudoword.Proofs.Recoding
import Pseudoword.Proofs.Trials

/-! # Letters that are not used

An alphabet may have letters that no word has. They take up codes, so that contexts are in other rows and
the end of a word is in another column, but they do not change what is sampled: generators that learned
the same words, over alphabets of which one has all letters of the other in the same order, come to the
same outcomes from the same draws. Only the number of a dead row may differ.

* **`Alphabet.recode a wider`** — the codes of letters in a wider alphabet, with `Alphabet.recoding`.
* **`Generator.Widens g g'`** — generators that differ in their alphabets only.
* **`Generator.Twins g g'`** — those that have learned the same words.
* **`Generator.Twins.triesLike`**, **`Generator.Twins.perform`** — they try alike, and stay twins.
* **`Generator.outcomes_widened`** — the outcomes of a whole run, on one source of draws. -/

namespace Pseudoword

/-! ## (1) Alphabets -/

namespace Alphabet

variable {a wider : Alphabet}

/-- **The code of a letter in another alphabet**; the end goes to the end. -/
def recode (a wider : Alphabet) (code : Nat) : Nat :=
  match a.letters[code]? with
  | some c => wider.letters.idxOf c
  | none => wider.size

/-- The end goes to the end. -/
theorem recode_size (a wider : Alphabet) : a.recode wider a.size = wider.size := by
  have hget : a.letters[a.size]? = none := List.getElem?_eq_none_iff.mpr le_rfl
  rw [recode, hget]

/-- **Codes keep their order** if the letters do. -/
theorem strictMonoOn_recode (h : a.letters.Sublist wider.letters) :
    StrictMonoOn (a.recode wider) (Set.Iio (a.size + 1)) := by
  -- where the letters are in the wider alphabet, told by an order embedding
  obtain ⟨place, hplace⟩ := List.sublist_iff_exists_orderEmbedding_getElem?_eq.mp h
  have hrecode : ∀ code < a.size, a.recode wider code = place code ∧ place code < wider.size := by
    intro code hcode
    have hget := hplace code
    rw [List.getElem?_eq_getElem hcode] at hget
    obtain ⟨hlt, hletter⟩ := List.getElem?_eq_some_iff.mp hget.symm
    refine ⟨?_, hlt⟩
    rw [recode, List.getElem?_eq_getElem hcode, ← hletter]
    exact wider.letters_nodup.idxOf_getElem _ hlt
  intro c _ d hd hlt
  have hcode := hrecode c (Nat.lt_of_lt_of_le hlt (Nat.le_of_lt_succ hd))
  rcases Nat.lt_or_eq_of_le (Nat.le_of_lt_succ hd) with hletter | rfl
  · rw [hcode.1, (hrecode d hletter).1]
    exact place.strictMono hlt
  · rw [hcode.1, recode_size]
    exact hcode.2

/-- The codes of a word of letters are recoded. -/
theorem codesOf_eq_map_recode {word : String} (h : ∀ c ∈ word.toList, c ∈ a.letters) :
    wider.codesOf word = (a.codesOf word).map (a.recode wider) := by
  rw [codesOf, codesOf, List.map_map]
  apply List.map_congr_left
  intro c hc
  have hlt := List.idxOf_lt_length_of_mem (h c hc)
  rw [Function.comp_apply, recode, List.getElem?_eq_getElem hlt, List.getElem_idxOf hlt]

/-- **Recoded codes spell the same word.** -/
theorem decode_map_recode (h : a.letters ⊆ wider.letters) (codes : List Nat) :
    wider.decode (codes.map (a.recode wider)) = a.decode codes := by
  rw [decode, decode, List.filterMap_map]
  congr 1
  apply List.filterMap_congr
  intro code _
  rw [Function.comp_apply, recode]
  cases hget : a.letters[code]? with
  | none => exact List.getElem?_eq_none_iff.mpr le_rfl
  | some c =>
      have hlt := List.idxOf_lt_length_of_mem (h (List.mem_of_getElem? hget))
      simp only [List.getElem?_eq_getElem hlt, List.getElem_idxOf hlt]

/-- A word of letters can be spelled in both alphabets or in neither. -/
theorem spells_iff_of_subset (h : a.letters ⊆ wider.letters) {word : String}
    (hword : ∀ c ∈ word.toList, c ∈ a.letters) : wider.Spells word ↔ a.Spells word :=
  and_congr_right' ⟨fun _ => hword, fun _ c hc => h (hword c hc)⟩

/-- The alphabet of the letters `A` and `B`, with other letters around them. -/
def ofCADBE : Alphabet where
  letters := ['C', 'A', 'D', 'B', 'E']
  letters_ne_nil := by decide
  letters_nodup := by decide
  letters_unreserved := by
    intro c hc
    simp only [List.mem_cons, List.not_mem_nil, or_false] at hc
    rcases hc with rfl | rfl | rfl | rfl | rfl <;> decide

end Alphabet

/-- **An operation within an alphabet**: it presents words of letters only. -/
def Operation.Within (operation : Operation) (a : Alphabet) : Prop :=
  ∀ word ∈ operation.words, ∀ c ∈ word.toList, c ∈ a.letters

instance (operation : Operation) (a : Alphabet) : Decidable (operation.Within a) :=
  decidable_of_iff (operation.words.all fun word => word.toList.all (· ∈ a.letters))
    (by simp [Operation.Within])

namespace Generator

/-! ## (2) Outcomes -/

/-- A fault, whatever row it names. -/
def SampleFault.anyRow : SampleFault → SampleFault
  | .deadState _ => .deadState 0
  | fault => fault

/-- **The outcomes of sampling in a run**, in order. All calls draw from one source: what one of them
leaves over comes before the draws that the next one brings. -/
def outcomes (g : Generator) (left : List Draw) : List Operation → List Sample
  | [] => []
  | .generate accepts budget draws :: operations =>
    let sample := g.generate accepts budget (left ++ draws)
    sample :: g.outcomes sample.rest operations
  | operation :: operations => (g.perform operation).outcomes left operations

/-! ## (3) Generators over two alphabets -/

/-- **Generators that differ in their alphabets only**, of which one has all letters of the other, in the
same order. -/
structure Widens (g g' : Generator) : Prop where
  /-- The letters are among those of the second one, in the same order. -/
  letters_sublist : g.alphabet.letters.Sublist g'.alphabet.letters
  /-- The orders agree. -/
  order_eq : g'.order = g.order
  /-- The patience is the same. -/
  patience_eq : g'.patience = g.patience

variable {g g' next next' : Generator} {learned settled : List String}

/-- What does not change the make of two generators leaves them so. -/
theorem Widens.of_sameMake (h : Widens g g') (hmake : g.SameMake next) (hmake' : g'.SameMake next') :
    Widens next next' where
  letters_sublist := by
    rw [hmake.alphabet_eq, hmake'.alphabet_eq]
    exact h.letters_sublist
  order_eq := by rw [hmake.order_eq, hmake'.order_eq, h.order_eq]
  patience_eq := by rw [hmake.patience_eq, hmake'.patience_eq, h.patience_eq]

/-- The codes of the one are recoded in the other. -/
theorem Widens.recoding (h : Widens g g') :
    Recoding g.space g'.space (g.alphabet.recode g'.alphabet) where
  order_eq := h.order_eq
  end_eq := Alphabet.recode_size _ _
  strictMonoOn := Alphabet.strictMonoOn_recode h.letters_sublist

/-- Words are observed in cells that go together. -/
theorem Widens.cellsOf_eq (h : Widens g g') {words : List String}
    (hwords : ∀ word ∈ words, g.alphabet.Spells word) :
    g'.cellsOf words = (g.cellsOf words).map h.recoding.cell := by
  rw [cellsOf, cellsOf, List.map_flatMap]
  apply List.flatMap_congr
  intro word hword
  have hletters := (hwords word hword).2
  rw [Alphabet.codesOf_eq_map_recode hletters]
  exact h.recoding.spell_map h.recoding.shows_start (g.alphabet.codesOf_lt hletters)

/-- **Twins**: generators that differ in their alphabets only, and have learned the same words. -/
structure Twins (g g' : Generator) (learned settled : List String) : Prop where
  /-- They differ in their alphabets only. -/
  widens : Widens g g'
  /-- The first one embodies the words. -/
  embodies : g.Embodies learned settled
  /-- So does the second one. -/
  embodies' : g'.Embodies learned settled

/-- Twins that have learned nothing. -/
theorem Twins.untrained {a wider : Alphabet} (h : a.letters.Sublist wider.letters) (order : Nat)
    (order_pos : 0 < order) (patience : Setting) :
    Twins (untrained a order order_pos patience) (untrained wider order order_pos patience) [] [] :=
  ⟨⟨h, rfl, rfl⟩, .untrained _ _ _ _, .untrained _ _ _ _⟩

/-- **Twins walk alike**: the same draws lead through cells that go together. -/
theorem Twins.walk_eq (h : Twins g g' learned settled) (draws : List Draw) :
    g'.walk draws = h.widens.recoding.walk (g.walk draws) := by
  have hcells : ∀ cell ∈ g.cellsOf settled, cell.1 < g.space.rows ∧ cell.2 < g.space.columns :=
    fun cell hcell => lt_of_mem_cellsOf h.embodies.spells_settled hcell
  have hsamples := h.embodies'.samples
  rw [h.widens.cellsOf_eq h.embodies.spells_settled] at hsamples
  -- the walk of the one, recoded, is a walk of the other, and draws determine the walk
  have hgoes := (h.embodies.goes_start draws).map h.widens.recoding hcells h.embodies.samples hsamples
    h.widens.recoding.shows_start
  exact (h.embodies'.goes_start draws).unique hgoes

/-- **Twins come to the same candidates.** -/
theorem Twins.candidate_eq (h : Twins g g' learned settled) (draws : List Draw) :
    g'.candidate draws = g.candidate draws := by
  rw [candidate, candidate, h.walk_eq, Recoding.codes_walk,
    Alphabet.decode_map_recode h.widens.letters_sublist.subset]

/-- **Twins try alike**, apart from the number of a dead row. -/
theorem Twins.triesLike (h : Twins g g' learned settled) :
    TriesLike SampleFault.anyRow g g' where
  word_eq := fun draws => by
    have hwalk := h.walk_eq draws
    cases hending : (g.walk draws).ending with
    | outOfDraws => simp only [trial, hwalk, Recoding.walk, hending]
    | dead row =>
        simp only [trial, hwalk, Recoding.walk, hending]
        rfl
    | broken fault => simp only [trial, hwalk, Recoding.walk, hending]
    | complete =>
        have hending' : (g'.walk draws).ending = .complete := by
          simp only [hwalk, Recoding.walk, hending]
        simp only [trial, hending, hending', h.embodies.wordOf_walk hending,
          h.embodies'.wordOf_walk hending', h.candidate_eq]
  rest_eq := fun draws => by
    rw [rest_trial, rest_trial, h.walk_eq]
    rfl
  knows_eq := fun word => by
    rw [Bool.eq_iff_iff, h.embodies.knows_iff, h.embodies'.knows_iff]
  patience_eq := h.widens.patience_eq

/-! ## (4) Every run -/

/-- Of words of letters, the same ones come before the first one that cannot be spelled. -/
theorem takeWhile_spells_eq {a wider : Alphabet} (h : a.letters ⊆ wider.letters)
    {words : List String} (hwords : ∀ word ∈ words, ∀ c ∈ word.toList, c ∈ a.letters) :
    (words.takeWhile fun word => wider.Spells word) = words.takeWhile fun word => a.Spells word := by
  induction words with
  | nil => rfl
  | cons word words ih =>
      have hspells := Alphabet.spells_iff_of_subset h (hwords word List.mem_cons_self)
      have hrest := ih fun w hw => hwords w (List.mem_cons_of_mem _ hw)
      simp only [List.takeWhile_cons, hspells, hrest]

/-- **Twins learn the same words** from an operation within the alphabet of the first one. -/
theorem Twins.learnedBy_eq (h : Twins g g' learned settled) {operation : Operation}
    (hwithin : operation.Within g.alphabet) : g'.learnedBy operation = g.learnedBy operation := by
  rw [h.embodies.learnedBy_eq, h.embodies'.learnedBy_eq,
    takeWhile_spells_eq h.widens.letters_sublist.subset hwithin]

/-- **Twins stay twins** through such an operation. -/
theorem Twins.perform (h : Twins g g' learned settled) {operation : Operation}
    (hwithin : operation.Within g.alphabet) :
    Twins (g.perform operation) (g'.perform operation) (learned ++ g.learnedBy operation)
      (if operation.isCompile then learned else settled) where
  widens := h.widens.of_sameMake (sameMake_run g [operation]) (sameMake_run g' [operation])
  embodies := h.embodies.perform operation
  embodies' := h.learnedBy_eq hwithin ▸ h.embodies'.perform operation

/-- An operation does not change which ones are within the alphabet. -/
theorem within_perform {operation other : Operation} (hwithin : other.Within g.alphabet) :
    other.Within (g.perform operation).alphabet := by
  have halphabet : (g.perform operation).alphabet = g.alphabet :=
    (sameMake_run g [operation]).alphabet_eq
  rwa [halphabet]

/-- **Twins stay twins** through any run of such operations. -/
theorem Twins.run (h : Twins g g' learned settled) {operations : List Operation}
    (hwithin : ∀ operation ∈ operations, operation.Within g.alphabet) :
    ∃ learned settled, Twins (g.run operations) (g'.run operations) learned settled := by
  -- on the operations, with the words learned so far as what the two have in common
  induction operations generalizing g g' learned settled with
  | nil => exact ⟨learned, settled, h⟩
  | cons operation operations ih =>
      exact ih (h.perform (hwithin operation List.mem_cons_self)) fun other hother =>
        within_perform (hwithin other (List.mem_cons_of_mem _ hother))

/-- **Twins come to the same outcomes** in such a run, apart from the numbers of dead rows. -/
theorem Twins.outcomes (h : Twins g g' learned settled) {operations : List Operation}
    (hwithin : ∀ operation ∈ operations, operation.Within g.alphabet) (left : List Draw) :
    (g'.outcomes left operations).map (Sample.seenBy SampleFault.anyRow)
      = (g.outcomes left operations).map (Sample.seenBy SampleFault.anyRow) := by
  induction operations generalizing g g' learned settled left with
  | nil => rfl
  | cons operation operations ih =>
      have hnext := ih (h.perform (hwithin operation List.mem_cons_self)) fun other hother =>
        within_perform (hwithin other (List.mem_cons_of_mem _ hother))
      cases operation with
      | generate accepts budget draws =>
          -- the outcomes look alike, and leave over the same draws for what follows
          have hsample := h.triesLike.generate accepts budget (left ++ draws)
          have hrest := congrArg Sample.rest hsample
          rw [Sample.rest_seenBy, Sample.rest_seenBy] at hrest
          rw [Generator.outcomes, Generator.outcomes, List.map_cons, List.map_cons, hsample, hrest]
          exact congrArg (_ :: ·) (hnext _)
      | train word => exact hnext left
      | trainAll words => exact hnext left
      | trainLines uppercase lines => exact hnext left
      | compile => exact hnext left

/-- **Letters that are not used do not matter.** Of two generators, let one have all letters of the other
in the same order, and any others anywhere between them. After any run of operations that present words
of the common letters, each sampling has the same outcome and uses up the same draws, and so it is with
all samplings of the run on one source; only the number of a dead row may differ. -/
theorem outcomes_widened (alphabet wider : Alphabet)
    (hletters : alphabet.letters.Sublist wider.letters) (order : Nat) (order_pos : 0 < order)
    (patience : Setting) (operations : List Operation)
    (hwithin : ∀ operation ∈ operations, operation.Within alphabet) :
    let blank := untrained alphabet order order_pos patience
    let blank' := untrained wider order order_pos patience
    (∀ accepts budget draws,
        ((blank'.run operations).generate accepts budget draws).seenBy SampleFault.anyRow
          = ((blank.run operations).generate accepts budget draws).seenBy SampleFault.anyRow)
      ∧ ∀ draws, (blank'.outcomes draws operations).map (Sample.seenBy SampleFault.anyRow)
        = (blank.outcomes draws operations).map (Sample.seenBy SampleFault.anyRow) := by
  intro blank blank'
  have h : Twins blank blank' [] [] := .untrained hletters order order_pos patience
  obtain ⟨learned, settled, hrun⟩ := h.run hwithin
  exact ⟨hrun.triesLike.generate, h.outcomes hwithin⟩

/-- A run over the letters `A` and `B` in which sampling fails at first. -/
def lettersRun : List Operation :=
  [.generate (fun _ => .ok true) none [.negative], .train "AB", .trainAll ["BAA", "", "B"], .compile,
    .generate (fun _ => .ok true) (some 2) [.notANumber, .level .one]]

/-- It has the same outcomes over these letters and three more, before, between and after them. -/
theorem outcomes_lettersRun :
    Alphabet.ofAB.letters.Sublist Alphabet.ofCADBE.letters
      ∧ (∀ operation ∈ lettersRun, operation.Within .ofAB)
      ∧ ((untrained .ofCADBE 1 Nat.one_pos (.integer 1000)).outcomes [] lettersRun).map
          (Sample.seenBy SampleFault.anyRow)
        = ((untrained .ofAB 1 Nat.one_pos (.integer 1000)).outcomes [] lettersRun).map
          (Sample.seenBy SampleFault.anyRow) := by
  have hletters : Alphabet.ofAB.letters.Sublist Alphabet.ofCADBE.letters := by decide
  have hwithin : ∀ operation ∈ lettersRun, operation.Within .ofAB := by decide +kernel
  exact ⟨hletters, hwithin, (outcomes_widened .ofAB .ofCADBE hletters 1 Nat.one_pos (.integer 1000)
    lettersRun hwithin).2 []⟩

end Generator
end Pseudoword
