import Mathlib
import Pseudoword.Generator.Sampling
import Pseudoword.Proofs.Observations
import Pseudoword.Proofs.Spelling
import Pseudoword.Proofs.Tallying
import Pseudoword.Vocabulary.Training

/-! # Histories of generators

A generator comes about by operations that train it, compile it or sample from it, any of which may
fail. Two lists of words say all about the outcome: the words that were learned, in order and with
repetitions, and those of them that had been learned when it was compiled last. This file defines both
lists by following the operations, and proves that the state of the generator is determined by them.

* **`Operation`**, **`Generator.run`** — what callers ask of a generator, and what becomes of it.
* **`Generator.learnedIn`**, **`Generator.settledIn`** — the words learned in a run, and those learned
  before its last compilation.
* **`Generator.Embodies g learned settled`** — the state of a generator is the one of these words.
* **`Generator.embodies_run`** — this holds after every run.
* **`Generator.learnedIn_untrained`** — which words are learned, told by the alphabet alone. -/

namespace Pseudoword

/-! ## (1) Runs -/

/-- **What a caller may ask of a generator.** -/
inductive Operation where
  /-- Learn a word. -/
  | train (word : String)
  /-- Learn words, up to the first one that is refused. -/
  | trainAll (words : List String)
  /-- Learn the words of lines, up to the first line that cannot be used. -/
  | trainLines (uppercase : Bool) (lines : List Line)
  /-- Make what was learned available. -/
  | compile
  /-- Sample a word that is accepted. -/
  | generate (accepts : Generator.Judge) (budget : Option Int) (draws : List Draw)

/-- Whether an operation makes what was learned available. -/
def Operation.isCompile : Operation → Bool
  | .compile => true
  | _ => false

/-- **The words that an operation presents**, in order: those of lines up to the first line that cannot
be used. -/
def Operation.words : Operation → List String
  | .train word => [word]
  | .trainAll words => words
  | .trainLines uppercase lines => (Vocabulary.entries uppercase lines).1.map (·.word)
  | .compile => []
  | .generate _ _ _ => []

namespace Generator

/-- The generator after an operation, whether that succeeds or fails. Sampling does not change it. -/
def perform (g : Generator) : Operation → Generator
  | .train word =>
    match g.train word with
    | .ok next => next
    | .error _ => g
  | .trainAll words => (g.trainAll words).1
  | .trainLines uppercase lines => (g.trainLines uppercase lines).1
  | .compile => g.compile
  | .generate _ _ _ => g

/-- **The generator after several operations.** -/
def run (g : Generator) (operations : List Operation) : Generator :=
  operations.foldl perform g

/-- The words of a list that are learned one by one, up to the first one that is refused. -/
def learnedFrom (g : Generator) : List String → List String
  | [] => []
  | word :: words =>
    match g.train word with
    | .ok next => word :: next.learnedFrom words
    | .error _ => []

/-- The words of lines that are learned one by one, up to the first line that cannot be used. -/
def learnedFromLines (g : Generator) (uppercase : Bool) (number : Nat) : List Line → List String
  | [] => []
  | line :: lines =>
    match Vocabulary.entry? uppercase number line with
    | .error _ => []
    | .ok none => g.learnedFromLines uppercase (number + 1) lines
    | .ok (some entry) =>
      match g.train entry.word with
      | .ok next => entry.word :: next.learnedFromLines uppercase (number + 1) lines
      | .error _ => []

/-- **The words that an operation makes a generator learn**: those whose training succeeded. -/
def learnedBy (g : Generator) : Operation → List String
  | .train word => g.learnedFrom [word]
  | .trainAll words => g.learnedFrom words
  | .trainLines uppercase lines => g.learnedFromLines uppercase 1 lines
  | .compile => []
  | .generate _ _ _ => []

/-- **The words learned in a run**, in order. -/
def learnedIn (g : Generator) : List Operation → List String
  | [] => []
  | operation :: operations =>
    g.learnedBy operation ++ (g.perform operation).learnedIn operations

/-- **The words learned before the last compilation of a run**; none if there was no compilation. -/
def settledIn (g : Generator) (operations : List Operation) : List String :=
  g.learnedIn (operations.rdropWhile fun operation => !operation.isCompile)

theorem run_concat (g : Generator) (operations : List Operation) (operation : Operation) :
    g.run (operations ++ [operation]) = (g.run operations).perform operation := by
  rw [run, run, List.foldl_append, List.foldl_cons, List.foldl_nil]

theorem learnedIn_concat (g : Generator) (operations : List Operation) (operation : Operation) :
    g.learnedIn (operations ++ [operation])
      = g.learnedIn operations ++ (g.run operations).learnedBy operation := by
  induction operations generalizing g with
  | nil => simp [learnedIn, run]
  | cons first operations ih =>
      rw [List.cons_append, learnedIn, ih, learnedIn, List.append_assoc]
      rfl

/-- Compiling settles what was learned so far, and any other operation leaves it as it was. -/
theorem settledIn_concat (g : Generator) (operations : List Operation) (operation : Operation) :
    g.settledIn (operations ++ [operation])
      = if operation.isCompile then g.learnedIn operations else g.settledIn operations := by
  rw [settledIn, List.rdropWhile_concat]
  cases operation with
  | compile => simp [Operation.isCompile, learnedIn_concat, learnedBy]
  | _ => rfl

/-! ## (2) The state that words determine -/

/-- The cells of words, one word after the other. -/
def cellsOf (g : Generator) (words : List String) : List Cell :=
  words.flatMap fun word => g.spell (g.alphabet.codesOf word)

/-- **A generator that embodies words**: it counts the cells of the words learned, samples from those
of the words settled, and knows the words learned. -/
structure Embodies (g : Generator) (learned settled : List String) : Prop where
  /-- The table has a row for each context. -/
  rows_eq : g.table.rows = g.space.rows
  /-- The table has a column for each continuation. -/
  columns_eq : g.table.columns = g.space.columns
  /-- The words can be spelled. -/
  spells : ∀ word ∈ learned, g.alphabet.Spells word
  /-- What is settled was learned. -/
  settled_subset : settled ⊆ learned
  /-- What is counted are the cells of the words learned. -/
  tallies : g.table.Tallies (g.cellsOf learned)
  /-- What is sampled are the cells of the words settled. -/
  samples : g.table.Samples (g.cellsOf settled)
  /-- What is known are the words learned. -/
  knows_iff : ∀ word, g.knows word = true ↔ word ∈ learned

/-- A generator that has learned nothing embodies no words. -/
theorem Embodies.untrained (alphabet : Alphabet) (order : Nat) (order_pos : 0 < order)
    (patience : Setting) : (Generator.untrained alphabet order order_pos patience).Embodies [] [] where
  rows_eq := rfl
  columns_eq := rfl
  spells := fun _ h => nomatch h
  settled_subset := List.nil_subset _
  tallies := Table.Tallies.empty _ _
  samples := Table.Samples.empty _ _
  knows_iff := fun word => by simp [Generator.untrained, knows]

variable {g : Generator} {learned settled : List String}

theorem cellsOf_concat (words : List String) (word : String) :
    g.cellsOf (words ++ [word]) = g.cellsOf words ++ g.spell (g.alphabet.codesOf word) := by
  rw [cellsOf, List.flatMap_append, List.flatMap_singleton]
  rfl

/-- The cells of words that can be spelled have rows and columns of the contexts. -/
theorem lt_of_mem_cellsOf {words : List String} (h : ∀ word ∈ words, g.alphabet.Spells word)
    {cell : Cell} (hcell : cell ∈ g.cellsOf words) :
    cell.1 < g.space.rows ∧ cell.2 < g.space.columns := by
  obtain ⟨word, hword, hmem⟩ := List.mem_flatMap.mp hcell
  exact ContextSpace.lt_of_mem_spell (g.alphabet.codesOf_lt (h word hword).2) hmem

/-- Words settled can be spelled. -/
theorem Embodies.spells_settled (h : g.Embodies learned settled) :
    ∀ word ∈ settled, g.alphabet.Spells word :=
  fun word hword => h.spells word (h.settled_subset hword)

/-- The cells of a word that can be spelled are in the table. -/
theorem Embodies.contains (h : g.Embodies learned settled) {word : String}
    (hword : g.alphabet.Spells word) :
    ∀ cell ∈ g.spell (g.alphabet.codesOf word), g.table.Contains cell := by
  intro cell hcell
  have hlt := ContextSpace.lt_of_mem_spell (g.alphabet.codesOf_lt hword.2) hcell
  rw [Table.Contains, h.rows_eq, h.columns_eq]
  exact ⟨by exact_mod_cast hlt.1, by exact_mod_cast hlt.2⟩

/-! ## (3) Training -/

/-- **Spelling letters passes every check**, and leads through their places. -/
theorem observe_eq_spell {s : ContextSpace} {w : Window s} (open_ : w.ended = false)
    {codes : List Nat} (h : ∀ code ∈ codes, code < s.letters) :
    w.observe codes = .ok ((w.spell codes).map Table.placeOf) := by
  induction codes generalizing w with
  | nil => rfl
  | cons code codes ih =>
      have hpush := w.push_of_lt (h code (by simp)) open_
      have hrest := ih (w := w.shift code) open_ fun d hd => h d (List.mem_cons_of_mem _ hd)
      simp only [Window.observe, hpush, hrest, Window.spell, List.map_cons]
      rfl

/-- **A word that can be spelled is learned**: none of the checks on the way fails. -/
theorem Embodies.train_of_spells (h : g.Embodies learned settled) {word : String}
    (hword : g.alphabet.Spells word) :
    g.train word = .ok (g.learn word (g.spell (g.alphabet.codesOf word))) := by
  have hnonempty : word.isEmpty = false := by simpa using hword.1
  have hencode := g.alphabet.encode_of_mem hword.2
  have hobserve := observe_eq_spell (w := Window.start g.space) rfl
    (g.alphabet.codesOf_lt hword.2)
  have hrecord := Table.record_of_contains (h.contains hword)
  rw [spell] at hrecord
  rw [train, hnonempty, if_neg Bool.false_ne_true, hencode]
  simp only [hobserve, hrecord]
  rfl

/-- **Any other word is refused.** -/
theorem train_of_not_spells (g : Generator) {word : String} (hword : ¬ g.alphabet.Spells word) :
    ∃ error, g.train word = .error (.refused error) := by
  rw [train]
  split
  · exact ⟨.emptyWord, rfl⟩
  · next hempty =>
    cases hencode : g.alphabet.encode word with
    | error foreign => exact ⟨_, rfl⟩
    | ok codes =>
        have hmem := (g.alphabet.encode_eq_ok_iff.mp hencode).1
        exact absurd ⟨by simpa using hempty, hmem⟩ hword

/-- **Learning a word** adds it to those that the generator embodies. -/
theorem Embodies.learn (h : g.Embodies learned settled) {word : String}
    (hword : g.alphabet.Spells word) :
    (g.learn word (g.spell (g.alphabet.codesOf word))).Embodies (learned ++ [word]) settled where
  rows_eq := h.rows_eq
  columns_eq := h.columns_eq
  spells := fun w hw => by
    rcases List.mem_append.mp hw with hw | hw
    · exact h.spells w hw
    · exact List.mem_singleton.mp hw ▸ hword
  settled_subset := List.subset_append_of_subset_left _ h.settled_subset
  tallies := by
    have := h.tallies.tally (h.contains hword)
    rwa [← cellsOf_concat] at this
  samples := h.samples.tally _
  knows_iff := fun w => by
    have hknows : (g.learn word (g.spell (g.alphabet.codesOf word))).knows w
        = (compare word w == .eq || g.knows w) := Std.TreeSet.contains_insert
    rw [hknows, Bool.or_eq_true, h.knows_iff, List.mem_append, List.mem_singleton, beq_iff_eq,
      compare_eq_iff_eq, or_comm, eq_comm]

/-- **A training call** adds the word if it succeeds, and nothing if it fails. -/
theorem Embodies.train_cases (h : g.Embodies learned settled) (word : String) :
    (∃ next, g.train word = .ok next ∧ next.Embodies (learned ++ [word]) settled)
      ∨ ∃ error, g.train word = .error (.refused error) := by
  by_cases hword : g.alphabet.Spells word
  · exact .inl ⟨_, h.train_of_spells hword, h.learn hword⟩
  · exact .inr (g.train_of_not_spells hword)

/-- Learning words in order adds those that were learned. -/
theorem Embodies.trainAllFrom (h : g.Embodies learned settled) (count : Nat)
    (words : List String) :
    (g.trainAllFrom count words).1.Embodies (learned ++ g.learnedFrom words) settled := by
  induction words generalizing g learned count with
  | nil => simpa [Generator.trainAllFrom, learnedFrom] using h
  | cons word words ih =>
      rcases h.train_cases word with ⟨next, htrain, hnext⟩ | ⟨error, htrain⟩
      · simp only [Generator.trainAllFrom, learnedFrom, htrain]
        rw [List.append_cons]
        exact ih hnext (count + 1)
      · simpa [Generator.trainAllFrom, learnedFrom, htrain] using h

/-- Learning the words of lines adds those that were learned. -/
theorem Embodies.trainLinesFrom (h : g.Embodies learned settled) (uppercase : Bool)
    (number count : Nat) (lines : List Line) :
    (g.trainLinesFrom uppercase number count lines).1.Embodies
      (learned ++ g.learnedFromLines uppercase number lines) settled := by
  induction lines generalizing g learned number count with
  | nil => simpa [Generator.trainLinesFrom, learnedFromLines] using h
  | cons line lines ih =>
      rw [Generator.trainLinesFrom, learnedFromLines]
      cases Vocabulary.entry? uppercase number line with
      | error e => simpa using h
      | ok entry =>
          cases entry with
          | none => exact ih h (number + 1) count
          | some entry =>
              rcases h.train_cases entry.word with ⟨next, htrain, hnext⟩ | ⟨error, htrain⟩
              · simp only [htrain]
                rw [List.append_cons]
                exact ih hnext (number + 1) (count + 1)
              · simpa [htrain] using h

/-! ## (4) Every run -/

/-- Compiling settles all words learned. -/
theorem Embodies.compile (h : g.Embodies learned settled) : g.compile.Embodies learned learned where
  rows_eq := h.rows_eq
  columns_eq := h.columns_eq
  spells := h.spells
  settled_subset := List.Subset.refl _
  tallies := h.tallies.settle
  samples := h.tallies.samples_settle
  knows_iff := h.knows_iff

/-- **One operation** takes a generator that embodies words to one that embodies those learned by it,
too. -/
theorem Embodies.perform (h : g.Embodies learned settled) (operation : Operation) :
    (g.perform operation).Embodies (learned ++ g.learnedBy operation)
      (if operation.isCompile then learned else settled) := by
  cases operation with
  | train word =>
      rcases h.train_cases word with ⟨next, htrain, hnext⟩ | ⟨error, htrain⟩
      · simpa [Generator.perform, learnedBy, learnedFrom, htrain, Operation.isCompile] using hnext
      · simpa [Generator.perform, learnedBy, learnedFrom, htrain, Operation.isCompile] using h
  -- the helpers learn word after word, and stop at the first that fails
  | trainAll words => exact h.trainAllFrom 0 words
  | trainLines uppercase lines => exact h.trainLinesFrom uppercase 1 0 lines
  | compile => simpa [Generator.perform, learnedBy, Operation.isCompile] using h.compile
  | generate accepts budget draws =>
      simpa [Generator.perform, learnedBy, Operation.isCompile] using h

/-- **Every run embodies its words**: a generator that had learned nothing is determined, after any
operations, by the words learned and by those learned before the last compilation. -/
theorem embodies_run (alphabet : Alphabet) (order : Nat) (order_pos : 0 < order)
    (patience : Setting) (operations : List Operation) :
    ((untrained alphabet order order_pos patience).run operations).Embodies
      ((untrained alphabet order order_pos patience).learnedIn operations)
      ((untrained alphabet order order_pos patience).settledIn operations) := by
  -- from the right, since what is settled depends on the last compilation
  induction operations using List.reverseRecOn with
  | nil => exact Embodies.untrained alphabet order order_pos patience
  | append_singleton operations operation ih =>
      rw [run_concat, learnedIn_concat, settledIn_concat]
      exact ih.perform operation

/-! ## (5) What no operation changes -/

/-- **Generators of one make**: alphabet, order and patience agree, so that they differ at most in what
they have learned. -/
structure SameMake (g g' : Generator) : Prop where
  /-- The alphabets agree. -/
  alphabet_eq : g'.alphabet = g.alphabet
  /-- The orders agree. -/
  order_eq : g'.order = g.order
  /-- The patience is the same. -/
  patience_eq : g'.patience = g.patience

theorem SameMake.refl (g : Generator) : g.SameMake g := ⟨rfl, rfl, rfl⟩

theorem SameMake.symm {g g' : Generator} (h : g.SameMake g') : g'.SameMake g :=
  ⟨h.alphabet_eq.symm, h.order_eq.symm, h.patience_eq.symm⟩

theorem SameMake.trans {g₁ g₂ g₃ : Generator} (h : g₁.SameMake g₂) (h' : g₂.SameMake g₃) :
    g₁.SameMake g₃ :=
  ⟨h'.alphabet_eq.trans h.alphabet_eq, h'.order_eq.trans h.order_eq,
    h'.patience_eq.trans h.patience_eq⟩

/-- Generators of one make have the same contexts. -/
theorem SameMake.space_eq {g g' : Generator} (h : g.SameMake g') : g'.space = g.space := by
  simp only [space, contexts, h.alphabet_eq, h.order_eq]

/-- Generators of one make observe a word in the same cells. -/
theorem SameMake.spell_eq {g g' : Generator} (h : g.SameMake g') (codes : List Nat) :
    g'.spell codes = g.spell codes := by
  rw [spell, spell, h.space_eq]

/-- Hence they observe all words in the same cells. -/
theorem SameMake.cellsOf_eq {g g' : Generator} (h : g.SameMake g') (words : List String) :
    g'.cellsOf words = g.cellsOf words := by
  simp only [cellsOf, h.spell_eq, h.alphabet_eq]

theorem sameMake_train {g next : Generator} {word : String} (h : g.train word = .ok next) :
    g.SameMake next := by
  rw [train] at h
  split at h
  · cases h
  · split at h
    · cases h
    · split at h
      · cases h
      · split at h
        · cases h
        · cases h
          exact ⟨rfl, rfl, rfl⟩

theorem sameMake_trainAllFrom (g : Generator) (count : Nat) (words : List String) :
    g.SameMake (g.trainAllFrom count words).1 := by
  induction words generalizing g count with
  | nil => exact .refl g
  | cons word words ih =>
      rw [Generator.trainAllFrom]
      split
      · exact .refl g
      · next next htrain => exact (sameMake_train htrain).trans (ih next (count + 1))

theorem sameMake_trainLinesFrom (g : Generator) (uppercase : Bool) (number count : Nat)
    (lines : List Line) : g.SameMake (g.trainLinesFrom uppercase number count lines).1 := by
  induction lines generalizing g number count with
  | nil => exact .refl g
  | cons line lines ih =>
      rw [Generator.trainLinesFrom]
      split
      · exact .refl g
      · exact ih g (number + 1) count
      · split
        · exact .refl g
        · exact .refl g
        · next next htrain =>
          exact (sameMake_train htrain).trans (ih next (number + 1) (count + 1))

/-- **No operation changes the make of a generator.** -/
theorem sameMake_run (g : Generator) (operations : List Operation) :
    g.SameMake (g.run operations) := by
  induction operations generalizing g with
  | nil => exact .refl g
  | cons operation operations ih =>
      refine SameMake.trans ?_ (ih (g.perform operation))
      cases operation with
      | train word =>
          rw [Generator.perform]
          split
          · next next htrain => exact sameMake_train htrain
          · exact .refl g
      | trainAll words => exact sameMake_trainAllFrom g 0 words
      | trainLines uppercase lines => exact sameMake_trainLinesFrom g uppercase 1 0 lines
      | compile => exact ⟨rfl, rfl, rfl⟩
      | generate accepts budget draws => exact .refl g

/-! ## (6) Which words are learned -/

/-- Of words in order, those before the first one that cannot be spelled are learned. -/
theorem Embodies.learnedFrom_eq (h : g.Embodies learned settled) (words : List String) :
    g.learnedFrom words = words.takeWhile fun word => g.alphabet.Spells word := by
  induction words generalizing g learned with
  | nil => rfl
  | cons word words ih =>
      rw [learnedFrom]
      by_cases hword : g.alphabet.Spells word
      · rw [h.train_of_spells hword, List.takeWhile_cons, if_pos (decide_eq_true hword)]
        exact congrArg (word :: ·) (ih (h.learn hword))
      · obtain ⟨error, htrain⟩ := g.train_of_not_spells hword
        rw [htrain, List.takeWhile_cons, if_neg (by simpa using hword)]

/-- So it is with the words of lines. -/
theorem Embodies.learnedFromLines_eq (h : g.Embodies learned settled) (uppercase : Bool)
    (number : Nat) (lines : List Line) :
    g.learnedFromLines uppercase number lines
      = ((Vocabulary.entriesFrom uppercase number lines).1.map (·.word)).takeWhile
          fun word => g.alphabet.Spells word := by
  induction lines generalizing g learned number with
  | nil => rfl
  | cons line lines ih =>
      rw [learnedFromLines, Vocabulary.entriesFrom]
      cases Vocabulary.entry? uppercase number line with
      | error e => rfl
      | ok entry =>
          cases entry with
          | none => exact ih h (number + 1)
          | some entry =>
              simp only [Option.toList_some, List.singleton_append, List.map_cons]
              by_cases hword : g.alphabet.Spells entry.word
              · rw [h.train_of_spells hword, List.takeWhile_cons, if_pos (decide_eq_true hword)]
                exact congrArg (entry.word :: ·) (ih (h.learn hword) (number + 1))
              · obtain ⟨error, htrain⟩ := g.train_of_not_spells hword
                rw [htrain, List.takeWhile_cons, if_neg (by simpa using hword)]

/-- **Of the words that an operation presents**, those before the first one that cannot be spelled are
learned. -/
theorem Embodies.learnedBy_eq (h : g.Embodies learned settled) (operation : Operation) :
    g.learnedBy operation = operation.words.takeWhile fun word => g.alphabet.Spells word := by
  cases operation with
  | train word => exact h.learnedFrom_eq [word]
  | trainAll words => exact h.learnedFrom_eq words
  | trainLines uppercase lines => exact h.learnedFromLines_eq uppercase 1 lines
  | compile => rfl
  | generate accepts budget draws => rfl

/-- **Which words are learned in a run** depends on the alphabet alone. -/
theorem learnedIn_untrained (alphabet : Alphabet) (order : Nat) (order_pos : 0 < order)
    (patience : Setting) (operations : List Operation) :
    (untrained alphabet order order_pos patience).learnedIn operations
      = operations.flatMap fun operation =>
          operation.words.takeWhile fun word => alphabet.Spells word := by
  induction operations using List.reverseRecOn with
  | nil => rfl
  | append_singleton operations operation ih =>
      have h := embodies_run alphabet order order_pos patience operations
      have halphabet := (sameMake_run (untrained alphabet order order_pos patience)
        operations).alphabet_eq
      rw [learnedIn_concat, ih, h.learnedBy_eq, halphabet, List.flatMap_append,
        List.flatMap_singleton]
      rfl

/-! ## (7) A small run -/

/-- A run over the letters `A` and `B` in which some calls fail, and words are learned after the last
compilation. -/
def mixedRun : List Operation :=
  [.train "AB", .train "A?", .trainAll ["AB", "BAA", "", "B"], .compile,
    .generate (fun _ => .ok true) none [.negative],
    .trainLines true [.text "ab first", .text " ", .bytes [0x41], .bytes [0xFF], .text "B"]]

end Generator
end Pseudoword
