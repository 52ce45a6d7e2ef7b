import Mathlib
import Pseudoword.Proofs.Frequencies
import Pseudoword.Proofs.Generating

/-! # Training on what was generated

Training and sampling lead through a table on ways of their own: one encodes a word that is given, the
other picks letter after letter. Still they meet: the walk that sampling accepts goes through the very
cells in which its word is observed when it is learned. All of them had been observed before, so that
learning the word adds no cell to those observed, and the only thing that changes is that the word is
known.

* **`Generator.AcceptsWalk`** — the walk that sampling accepts, after those that it passes over.
* **`Generator.exists_acceptsWalk`** — a word that is generated is that of such a walk.
* **`Generator.Embodies.retraces`** — learning the word of a walk observes the cells of the walk.
* **`Generator.Embodies.exists_run`** — what a generator has learned it never forgets.
* **`Generator.Embodies.isDeadRow_compile_learn`**, **`Generator.Embodies.word_ne_of_generate`** — what learning
  such a word does not change, and what it does.
* **`Generator.retraces_run`** — learning a word that was generated, after any run. -/

namespace Pseudoword.Generator

variable {g : Generator} {learned settled : List String} {accepts : Judge} {word : String}
  {draws : List Draw} {attempts attempts' : Nat} {walk walk' : Walk} {found : Found}

/-! ## (1) The walk that is accepted -/

/-- **The walk that sampling accepts**, with the number of walks up to it: its word is new and accepted,
and the words of the walks before it are known, or not accepted. -/
inductive AcceptsWalk (g : Generator) (accepts : Judge) : List Draw → Nat → Walk → Prop where
  /-- The first walk is accepted. -/
  | here {draws : List Draw} {word : String} (hcomplete : (g.walk draws).ending = .complete)
      (hword : g.wordOf (g.walk draws) = .ok word) (hnew : g.knows word = false)
      (haccepted : accepts word = .ok true) : AcceptsWalk g accepts draws 1 (g.walk draws)
  /-- The first walk is passed over, and one on the draws left over is accepted. -/
  | later {draws : List Draw} {word : String} {attempts : Nat} {walk : Walk}
      (hcomplete : (g.walk draws).ending = .complete)
      (hword : g.wordOf (g.walk draws) = .ok word)
      (hpassed : g.knows word = true ∨ accepts word = .ok false)
      (hrest : AcceptsWalk g accepts (g.walk draws).rest attempts walk) :
    AcceptsWalk g accepts draws (attempts + 1) walk

/-- A walk whose word is new and accepted is not passed over. -/
theorem not_passed {word' : String} (hword : g.wordOf walk = .ok word)
    (hword' : g.wordOf walk = .ok word') (hnew : g.knows word = false)
    (haccepted : accepts word = .ok true) :
    ¬ (g.knows word' = true ∨ accepts word' = .ok false) := by
  obtain rfl := Except.ok.inj (hword.symm.trans hword')
  rintro (hknown | hrefused)
  · exact Bool.false_ne_true (hnew.symm.trans hknown)
  · cases haccepted.symm.trans hrefused

/-- **The draws determine the walk that is accepted.** -/
theorem AcceptsWalk.unique (h : g.AcceptsWalk accepts draws attempts walk)
    (h' : g.AcceptsWalk accepts draws attempts' walk') : attempts' = attempts ∧ walk' = walk := by
  induction h generalizing attempts' walk' with
  | here _ hword hnew haccepted =>
      cases h' with
      | here => exact ⟨rfl, rfl⟩
      | later _ hword' hpassed => exact absurd hpassed (not_passed hword hword' hnew haccepted)
  | later _ hword hpassed _ ih =>
      cases h' with
      | here _ hword' hnew haccepted =>
          exact absurd hpassed (not_passed hword' hword hnew haccepted)
      | later _ _ _ hrest' =>
          obtain ⟨rfl, rfl⟩ := ih hrest'
          exact ⟨rfl, rfl⟩

/-- A walk that is accepted is complete, and its word is new and accepted. -/
theorem AcceptsWalk.exists_word (h : g.AcceptsWalk accepts draws attempts walk) :
    ∃ draws', walk = g.walk draws' ∧ walk.ending = .complete
      ∧ ∃ word, g.wordOf walk = .ok word ∧ g.knows word = false ∧ accepts word = .ok true := by
  induction h with
  | @here draws word hcomplete hword hnew haccepted =>
      exact ⟨draws, rfl, hcomplete, word, hword, hnew, haccepted⟩
  | later _ _ _ _ ih => exact ih

/-- **What is found by trying walks** is the word of the walk that is accepted, which leaves over the
same draws. -/
theorem exists_acceptsWalk_attempt (accepts : Judge) (budget : Option Nat) (attempts : Nat)
    (draws : List Draw) (hfound : (g.attempt accepts budget attempts draws).result = .ok found) :
    ∃ more walk, found.attempts = attempts + more ∧ g.AcceptsWalk accepts draws more walk
      ∧ g.wordOf walk = .ok found.word
      ∧ walk.rest = (g.attempt accepts budget attempts draws).rest := by
  fun_induction attempt g accepts budget attempts draws with
  | case1 => cases hfound
  | case2 => cases hfound
  | case3 => cases hfound
  | case4 => cases hfound
  | case5 => cases hfound
  | case6 attempts draws _ walk hcomplete _ word hword hknown ih =>
      obtain ⟨more, accepted, hattempts, haccepts, hrest⟩ := ih hfound
      exact ⟨more + 1, accepted, by omega, .later hcomplete hword (.inl hknown) haccepts, hrest⟩
  | case7 => cases hfound
  | case8 attempts draws _ walk hcomplete _ word hword hnew haccepted =>
      have haccepts : g.AcceptsWalk accepts draws 1 walk :=
        .here hcomplete hword (Bool.eq_false_of_not_eq_true hnew) haccepted
      rcases g.found_cases word (attempts + 1) with hnone | ⟨slow, hsome⟩
      · cases hnone.symm.trans hfound
      · obtain rfl := Except.ok.inj (hsome.symm.trans hfound)
        exact ⟨1, walk, rfl, haccepts, hword, rfl⟩
  | case9 attempts draws _ walk hcomplete _ word hword _ hrefused ih =>
      obtain ⟨more, accepted, hattempts, haccepts, hrest⟩ := ih hfound
      exact ⟨more + 1, accepted, by omega, .later hcomplete hword (.inr hrefused) haccepts, hrest⟩

/-- **A word that is generated** is the word of the walk that is accepted, told with its number. -/
theorem exists_acceptsWalk (accepts : Judge) (budget : Option Int) (draws : List Draw)
    (hfound : (g.generate accepts budget draws).result = .ok found) :
    ∃ walk, g.AcceptsWalk accepts draws found.attempts walk ∧ g.wordOf walk = .ok found.word
      ∧ walk.rest = (g.generate accepts budget draws).rest := by
  rw [generate] at hfound ⊢
  split at hfound
  · cases hfound
  · next hbudget =>
    rw [if_neg hbudget]
    obtain ⟨more, walk, hattempts, h⟩ := exists_acceptsWalk_attempt accepts _ 0 draws hfound
    rw [Nat.zero_add] at hattempts
    exact ⟨walk, hattempts ▸ h⟩

/-! ## (2) Learning the word of a walk -/

/-- **Learning the word of a walk retraces the walk**: the word can be spelled, the places in which it is
observed are those of the walk's cells, and learning it records these and nothing else. -/
theorem Embodies.retraces (h : g.Embodies learned settled)
    (haccepts : g.AcceptsWalk accepts draws attempts walk) (hword : g.wordOf walk = .ok word) :
    g.alphabet.Spells word ∧ walk.cells = g.spell (g.alphabet.codesOf word)
      ∧ (∀ cell ∈ walk.cells, cell ∈ g.cellsOf settled)
      ∧ g.alphabet.encode word = .ok (g.alphabet.codesOf word)
      ∧ (Window.start g.space).observe (g.alphabet.codesOf word)
        = .ok (walk.cells.map Table.placeOf)
      ∧ g.table.record (walk.cells.map Table.placeOf) = .ok (g.table.tally walk.cells)
      ∧ g.train word = .ok (g.learn word walk.cells) := by
  obtain ⟨draws', rfl, hcomplete, -⟩ := haccepts.exists_word
  obtain rfl := Except.ok.inj ((h.wordOf_walk hcomplete).symm.trans hword)
  have hspells := h.spells_candidate hcomplete
  have hcells := h.cells_walk_eq_spell hcomplete
  have hobserve := observe_eq_spell (w := Window.start g.space) rfl
    (g.alphabet.codesOf_lt hspells.2)
  refine ⟨hspells, hcells, (h.goes_start draws').mem_cellsOf h, g.alphabet.encode_of_mem hspells.2,
    ?_, ?_, ?_⟩
  · rw [hcells]
    exact hobserve
  · rw [hcells]
    exact Table.record_of_contains (h.contains hspells)
  · rw [hcells]
    exact h.train_of_spells hspells

/-- The cells of some words are among those of more words. -/
theorem cellsOf_subset {words words' : List String} (h : words ⊆ words') :
    g.cellsOf words ⊆ g.cellsOf words' := by
  intro cell hcell
  obtain ⟨word, hword, hmem⟩ := List.mem_flatMap.mp hcell
  exact List.mem_flatMap.mpr ⟨word, h hword, hmem⟩

/-- **A word whose cells were seen adds no cell.** -/
theorem mem_cellsOf_concat {words : List String}
    (hseen : ∀ cell ∈ g.spell (g.alphabet.codesOf word), cell ∈ g.cellsOf words) (cell : Cell) :
    cell ∈ g.cellsOf (words ++ [word]) ↔ cell ∈ g.cellsOf words := by
  rw [cellsOf_concat, List.mem_append]
  exact or_iff_left_of_imp (hseen cell)

/-- A cell was counted exactly if it is one of the words learned. -/
theorem Embodies.count_ne_zero_iff (h : g.Embodies learned settled) (row column : Nat) :
    g.table.count row column ≠ 0 ↔ (row, column) ∈ g.cellsOf learned := by
  rw [h.tallies.count_eq, ne_eq, List.count_eq_zero, not_not]

/-- A row is dead exactly if there is no cell of it among the words settled. -/
theorem Embodies.isDeadRow_iff (h : g.Embodies learned settled) (row : Nat) :
    g.table.isDeadRow row = true ↔ ∀ column, (row, column) ∉ g.cellsOf settled := by
  rw [Table.isDeadRow_eq_isNone_pick? _ row .negative, Option.isNone_iff_eq_none,
    h.samples.pick?_eq_none_iff]

/-! ## (3) What comes later -/

/-- **What was learned stays learned** through any operations. -/
theorem Embodies.exists_run (h : g.Embodies learned settled) (operations : List Operation) :
    ∃ settled', (g.run operations).Embodies (learned ++ g.learnedIn operations) settled' := by
  induction operations generalizing g learned settled with
  | nil => exact ⟨settled, by simpa [run, learnedIn] using h⟩
  | cons operation operations ih =>
      rw [learnedIn, ← List.append_assoc]
      exact ih (h.perform operation)

/-- **If nothing is learned after some compilation**, all words learned are settled. -/
theorem settledIn_eq_learnedIn (g : Generator) (earlier : List Operation) {later : List Operation}
    (hlater : (g.run (earlier ++ [.compile])).learnedIn later = []) :
    g.settledIn (earlier ++ .compile :: later) = g.learnedIn (earlier ++ .compile :: later) := by
  induction later using List.reverseRecOn with
  | nil =>
      rw [settledIn_concat, learnedIn_concat, learnedBy, List.append_nil]
      rfl
  | append_singleton later operation ih =>
      -- neither the operations before the last one nor this one itself learn anything
      rw [learnedIn_concat, List.append_eq_nil_iff] at hlater
      have hrun : (g.run (earlier ++ [.compile])).run later = g.run (earlier ++ .compile :: later) := by
        rw [run, run, run, ← List.foldl_append, List.append_assoc, List.singleton_append]
      rw [hrun] at hlater
      have hsplit : earlier ++ .compile :: (later ++ [operation])
          = (earlier ++ .compile :: later) ++ [operation] := by simp
      rw [hsplit, settledIn_concat, learnedIn_concat, hlater.2, List.append_nil, ih hlater.1, ite_self]

/-- **Learning a word whose cells were seen** leaves the same cells counted, once that is settled. -/
theorem Embodies.count_compile_learn_ne_zero_iff (h : g.Embodies learned settled)
    (hspells : g.alphabet.Spells word)
    (hseen : ∀ cell ∈ g.spell (g.alphabet.codesOf word), cell ∈ g.cellsOf learned) (row column : Nat) :
    (g.learn word (g.spell (g.alphabet.codesOf word))).compile.table.count row column ≠ 0
      ↔ g.table.count row column ≠ 0 := by
  rw [(h.learn hspells).compile.count_ne_zero_iff, h.count_ne_zero_iff]
  exact mem_cellsOf_concat hseen (row, column)

/-- **It leaves the same rows dead** if all words learned before were settled. -/
theorem Embodies.isDeadRow_compile_learn (h : g.Embodies learned learned)
    (hspells : g.alphabet.Spells word)
    (hseen : ∀ cell ∈ g.spell (g.alphabet.codesOf word), cell ∈ g.cellsOf learned) :
    (g.learn word (g.spell (g.alphabet.codesOf word))).compile.table.isDeadRow
      = g.table.isDeadRow := by
  funext row
  rw [Bool.eq_iff_iff, (h.learn hspells).compile.isDeadRow_iff, h.isDeadRow_iff]
  exact forall_congr' fun column => not_congr (mem_cellsOf_concat hseen (row, column))

/-- **A word that was learned is not generated**, after any operations. -/
theorem Embodies.word_ne_of_generate (h : g.Embodies learned settled) (hword : word ∈ learned)
    {later : List Operation}
    (hfound : ((g.run later).generate accepts budget draws).result = .ok found) :
    found.word ≠ word := by
  rintro rfl
  -- the word stays among those learned
  obtain ⟨settled', hrun⟩ := h.exists_run later
  rcases hrun.generate_cases accepts budget draws with hnone | hstops
  · cases hnone.symm.trans hfound
  · rw [hfound] at hstops
    cases hstops with
    | found walk _ _ _ hnew _ =>
        have hknown := (hrun.knows_iff found.word).mpr (List.mem_append_left _ hword)
        exact Bool.false_ne_true (hnew.symm.trans hknown)

/-! ## (4) Every run -/

/-- **Learning a word that was generated, after any run.** The cells that the accepted walk went through,
in order, are those of the places that learning its word records; each of them was counted before, and
learning the word does not fail. After that and a compilation the same cells are counted as before; and
if nothing had been learned since some compilation, the same rows are dead. The word is not generated
again, whatever is asked of the generator. -/
theorem retraces_run (alphabet : Alphabet) (order : Nat) (order_pos : 0 < order) (patience : Setting)
    (operations : List Operation) (accepts : Judge) (budget : Option Int) (draws : List Draw)
    (found : Found)
    (hfound : (((untrained alphabet order order_pos patience).run operations).generate accepts budget
      draws).result = .ok found) :
    let blank := untrained alphabet order order_pos patience
    let g := blank.run operations
    ∃ walk next codes, g.AcceptsWalk accepts draws found.attempts walk
      ∧ g.wordOf walk = .ok found.word
      ∧ walk.rest = (g.generate accepts budget draws).rest
      ∧ alphabet.encode found.word = .ok codes
      ∧ (Window.start (contexts alphabet order order_pos)).observe codes
        = .ok (walk.cells.map Table.placeOf)
      ∧ g.table.record (walk.cells.map Table.placeOf) = .ok next.table
      ∧ g.train found.word = .ok next
      ∧ (∀ cell ∈ walk.cells, 0 < g.table.count cell.1 cell.2)
      ∧ (∀ row column, next.compile.table.count row column ≠ 0 ↔ g.table.count row column ≠ 0)
      ∧ (∀ earlier later, operations = earlier ++ .compile :: later →
        (blank.run (earlier ++ [.compile])).learnedIn later = [] →
          (∀ row, next.compile.table.isDead row = g.table.isDead row)
            ∧ next.compile.table.deadRows = g.table.deadRows)
      ∧ ∀ later accepts' budget' draws' found',
        ((next.run later).generate accepts' budget' draws').result = .ok found' →
          found'.word ≠ found.word := by
  intro blank g
  have h : g.Embodies (blank.learnedIn operations) (blank.settledIn operations) :=
    embodies_run alphabet order order_pos patience operations
  have hmake : blank.SameMake g := sameMake_run blank operations
  have hspace : g.space = contexts alphabet order order_pos := hmake.space_eq
  have halphabet : g.alphabet = alphabet := hmake.alphabet_eq
  obtain ⟨walk, haccepts, hword, hrest⟩ := exists_acceptsWalk accepts budget draws hfound
  obtain ⟨hspells, hcells, hseen, hencode, hobserve, hrecord, htrain⟩ := h.retraces haccepts hword
  -- the cells of the word were settled, hence learned, before the word itself is learned
  have hlearned : ∀ cell ∈ walk.cells, cell ∈ g.cellsOf (blank.learnedIn operations) :=
    fun cell hcell => cellsOf_subset h.settled_subset (hseen cell hcell)
  have hspelled : ∀ cell ∈ g.spell (g.alphabet.codesOf found.word),
      cell ∈ g.cellsOf (blank.learnedIn operations) := hcells ▸ hlearned
  have hnext := h.learn hspells
  refine ⟨walk, g.learn found.word walk.cells, g.alphabet.codesOf found.word, haccepts, hword, hrest, ?_,
    ?_, hrecord, htrain, fun cell hcell => ?_, fun row column => ?_, fun earlier later hsplit hlater => ?_,
    fun later accepts' budget' draws' found' hfound' => ?_⟩
  · rw [← halphabet]
    exact hencode
  · rw [← hspace]
    exact hobserve
  · exact Nat.pos_of_ne_zero ((h.count_ne_zero_iff _ _).mpr (hlearned cell hcell))
  · rw [hcells]
    exact h.count_compile_learn_ne_zero_iff hspells hspelled row column
  · -- the words settled before are all words learned
    have hsettled : blank.settledIn operations = blank.learnedIn operations := by
      rw [hsplit]
      exact blank.settledIn_eq_learnedIn earlier hlater
    rw [hsettled] at h
    have hdead := h.isDeadRow_compile_learn hspells hspelled
    rw [← hcells] at hdead
    refine ⟨fun row => ?_, Table.deadRows_congr rfl rfl hdead⟩
    rw [Table.isDead, Table.isDead, hdead]
    rfl
  · rw [hcells] at hfound'
    exact hnext.word_ne_of_generate (List.mem_append_right _ (List.mem_singleton_self _)) hfound'

/-- Of the words `AB`, `BAA` and `A`, draws of one make the word `B`, in two cells that were counted.
Learning it does not fail and leaves no other rows dead than before, and it is not generated again. -/
theorem retraces_mixedRun :
    let g := (untrained .ofAB 1 Nat.one_pos (.integer 1000)).run (mixedRun ++ [.compile])
    let draws : List Draw := [.level Binary64.one, .level Binary64.one]
    (g.generate (fun _ => .ok true) none draws).result = .ok ⟨"B", 1, false⟩
      ∧ ∃ walk next, g.AcceptsWalk (fun _ => .ok true) draws 1 walk ∧ walk.cells = [(2, 1), (1, 2)]
        ∧ g.train "B" = .ok next ∧ next.compile.table.deadRows = .ok 0
        ∧ ∀ later accepts budget draws found,
          ((next.run later).generate accepts budget draws).result = .ok found → found.word ≠ "B" := by
  intro g draws
  have hfound : (g.generate (fun _ => .ok true) none draws).result = .ok ⟨"B", 1, false⟩ :=
    Sample.result_eq_ok (by decide +kernel)
  obtain ⟨walk, next, codes, haccepts, -, -, -, -, -, htrain, -, -, hdead, hlater⟩ :=
    retraces_run .ofAB 1 Nat.one_pos (.integer 1000) (mixedRun ++ [.compile]) (fun _ => .ok true) none
      draws _ hfound
  -- the first walk is the one that is accepted
  have hword : g.wordOf (g.walk draws) = .ok "B" := by decide +kernel
  have hfirst : g.AcceptsWalk (fun _ => .ok true) draws 1 (g.walk draws) :=
    .here (by decide +kernel) hword (by decide +kernel) rfl
  obtain ⟨-, rfl⟩ := hfirst.unique haccepts
  refine ⟨hfound, g.walk draws, next, haccepts, by decide +kernel, htrain, ?_, hlater⟩
  rw [(hdead mixedRun [] rfl rfl).2]
  decide +kernel

end Pseudoword.Generator
