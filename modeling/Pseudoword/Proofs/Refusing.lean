import Mathlib
import Pseudoword.Proofs.Lines
import Pseudoword.Proofs.Sheets

/-! # Words that are refused

A word is refused before anything is written down, so that a refusal leaves no trace; and a word that is not
refused is learned, because no check on the way can fail. This is shown of training as a function of the
generator, and once more of training as it is done in place: on a slate whose window is moved letter by
letter and whose counts are raised cell by cell, and on which everything stays that was written before a
step broke off.

* **`Generator.Embodies.train_outcome`** — the three ways in which training on a word may go.
* **`Slate`**, **`Slate.train`** — what training writes on, and its steps in place.
* **`Slate.Shows.train_eq`** — in place, training comes to the same, and leaves no trace where it breaks off.
* **`Generator.Embodies.trainAllFrom_append`** — training on several words, by induction on them.
* **`Generator.refuses_run`** — refusals after every run. -/

namespace Pseudoword

/-! ## (1) Which words are refused -/

namespace Generator

variable {g : Generator} {learned settled : List String} {word : String}

/-- **How training on a word goes**: the empty word is refused, and so is a word with a character that is no
letter, for the first one; any other word is learned. -/
theorem Embodies.train_outcome (h : g.Embodies learned settled) (word : String) :
    (word = "" ∧ g.train word = .error (.refused .emptyWord))
      ∨ (∃ earlier c later, word.toList = earlier ++ c :: later ∧ (∀ d ∈ earlier, d ∈ g.alphabet.letters)
        ∧ c ∉ g.alphabet.letters
        ∧ g.train word = .error (.refused (.illegalCharacter word c earlier.length)))
      ∨ (g.alphabet.Spells word ∧ g.train word = .ok (g.learn word (g.spell (g.alphabet.codesOf word)))) := by
  by_cases hempty : word = ""
  · subst hempty
    exact .inl ⟨rfl, rfl⟩
  · rcases forall_or_exists_first (· ∈ g.alphabet.letters) word.toList with
      hletters | ⟨earlier, c, later, hsplit, hearlier, hc⟩
    · exact .inr (.inr ⟨⟨hempty, hletters⟩, h.train_of_spells ⟨hempty, hletters⟩⟩)
    · exact .inr (.inl ⟨earlier, c, later, hsplit, hearlier, hc,
        g.train_of_first_not_mem hsplit hearlier hc⟩)

/-- **Only the empty word is refused for being empty.** -/
theorem Embodies.train_eq_emptyWord_iff (h : g.Embodies learned settled) :
    g.train word = .error (.refused .emptyWord) ↔ word = "" := by
  constructor
  · intro htrain
    rcases h.train_outcome word with ⟨hempty, -⟩ | ⟨_, _, _, -, -, -, hother⟩ | ⟨-, hother⟩
    · exact hempty
    · cases htrain.symm.trans hother
    · cases htrain.symm.trans hother
  · rintro rfl
    rfl

/-- **A word is refused for a character** exactly if that is its first one that is no letter. -/
theorem Embodies.train_eq_illegalCharacter_iff (h : g.Embodies learned settled) {said : String} {c : Char}
    {place : Nat} :
    g.train word = .error (.refused (.illegalCharacter said c place)) ↔
      said = word ∧ word.toList[place]? = some c ∧ c ∉ g.alphabet.letters
        ∧ ∀ d ∈ word.toList.take place, d ∈ g.alphabet.letters := by
  constructor
  · intro htrain
    rcases h.train_outcome word with
      ⟨-, hother⟩ | ⟨earlier, c', later, hsplit, hearlier, hc, hother⟩ | ⟨-, hother⟩
    · cases htrain.symm.trans hother
    · cases htrain.symm.trans hother
      obtain ⟨hget, htake⟩ := exists_split_iff.mp ⟨earlier, later, hsplit, rfl, hearlier⟩
      exact ⟨rfl, hget, hc, htake⟩
    · cases htrain.symm.trans hother
  · rintro ⟨rfl, hget, hc, htake⟩
    obtain ⟨earlier, later, hsplit, hplace, hearlier⟩ := exists_split_iff.mpr ⟨hget, htake⟩
    rw [g.train_of_first_not_mem hsplit hearlier hc, hplace]

/-- **A word that is not empty is refused exactly if it has a character that is no letter.** -/
theorem Embodies.exists_train_eq_illegalCharacter_iff (h : g.Embodies learned settled) :
    (∃ c place, g.train word = .error (.refused (.illegalCharacter word c place))) ↔
      word ≠ "" ∧ ∃ c ∈ word.toList, c ∉ g.alphabet.letters := by
  constructor
  · rintro ⟨c, place, htrain⟩
    obtain ⟨-, hget, hc, -⟩ := h.train_eq_illegalCharacter_iff.mp htrain
    refine ⟨?_, c, List.mem_of_getElem? hget, hc⟩
    rintro rfl
    cases hget
  · rintro ⟨hempty, c, hc, hforeign⟩
    rcases h.train_outcome word with ⟨hword, -⟩ | ⟨earlier, d, later, -, -, -, htrain⟩ | ⟨hspells, -⟩
    · exact absurd hword hempty
    · exact ⟨d, earlier.length, htrain⟩
    · exact absurd (hspells.2 c hc) hforeign

/-- **A word is learned exactly if it can be spelled.** -/
theorem Embodies.exists_train_eq_ok_iff (h : g.Embodies learned settled) :
    (∃ next, g.train word = .ok next) ↔ g.alphabet.Spells word := by
  constructor
  · rintro ⟨next, htrain⟩
    by_contra hspells
    obtain ⟨error, hrefused⟩ := g.train_of_not_spells hspells
    cases htrain.symm.trans hrefused
  · exact fun hspells => ⟨_, h.train_of_spells hspells⟩

/-- **No word is learned only in part**: a word that fails is refused. -/
theorem Embodies.exists_refused (h : g.Embodies learned settled) {fault : TrainFault}
    (htrain : g.train word = .error fault) : ∃ error, fault = .refused error := by
  rcases h.train_cases word with ⟨next, hlearned, -⟩ | ⟨error, hrefused⟩
  · cases htrain.symm.trans hlearned
  · exact ⟨error, Except.error.inj (htrain.symm.trans hrefused)⟩

end Generator

/-! ## (2) Training in place -/

/-- **What training writes on**, in place: the table, the words that are known, and a window that is kept
from one word to the next. -/
structure Slate (s : ContextSpace) where
  /-- The table. -/
  table : Table
  /-- The words that are known. -/
  vocabulary : Std.TreeSet String
  /-- The window, wherever the last word has left it. -/
  window : Window s

/-- **Steps that write on a slate** and may break off. What was written before stays written. -/
abbrev Writing (s : ContextSpace) :=
  EStateM TrainFault (Slate s)

namespace Slate

variable {s : ContextSpace}

/-- Move the window back to the start. -/
def reset : Writing s Unit :=
  modify fun slate => { slate with window := Window.start s }

/-- Move the code of a letter into the window. -/
def push (code : Nat) : Writing s Unit := do
  match (← get).window.push code with
  | .error fault => throw (.internal (.context fault))
  | .ok next => modify fun slate => { slate with window := next }

/-- Note the places in which letters, and the end of the word after them, are to be observed, and move the
window on with each letter. -/
def note : List Nat → Writing s (List (Int × Int))
  | [] => return [(↑(← get).window.row, ↑s.endColumn)]
  | code :: codes => do
    let row := (← get).window.row
    push code
    return (↑row, ↑code) :: (← note codes)

/-- Look up the cells of places. -/
def look : List (Int × Int) → Writing s (List Cell)
  | [] => return []
  | (row, column) :: places => do
    match (← get).table.cell row column with
    | .error fault => throw (.internal (.table fault))
    | .ok cell => return cell :: (← look places)

/-- Raise the counts of cells, one by one. -/
def raise : List Cell → Writing s Unit
  | [] => return
  | cell :: cells => do
    modify fun slate =>
      { slate with table := { slate.table with counts := slate.table.bump slate.table.counts cell } }
    raise cells

/-- Observe the cells of places: look up all of them, raise their counts, then add up the observations. -/
def record (places : List (Int × Int)) : Writing s Unit := do
  let cells ← look places
  raise cells
  modify fun slate =>
    { slate with
      table :=
        { slate.table with
          observations := slate.table.observations + cells.length
          compiled := slate.table.compiled && cells.isEmpty } }

/-- The codes of a word, or a refusal. -/
def encode (a : Alphabet) (word : String) : Writing s (List Nat) :=
  match a.encode word with
  | .error foreign => throw (.refused (.illegalCharacter word foreign.character foreign.position))
  | .ok codes => return codes

/-- **Training on a word, in place.** -/
def train (a : Alphabet) (word : String) : Writing s Unit :=
  if word.isEmpty then throw (.refused .emptyWord)
  else do
    let codes ← encode a word
    reset
    let places ← note codes
    record places
    modify fun slate => { slate with vocabulary := slate.vocabulary.insert word }

/-- Training on words in order, in place, after a number of others. -/
def trainAllFrom (a : Alphabet) (learned : Nat) : List String → Writing s Nat
  | [] => return learned
  | word :: words => do
    train a word
    trainAllFrom a (learned + 1) words

/-- The window is moved back, and nothing else is. -/
theorem reset_eq (slate : Slate s) : reset slate = .ok () { slate with window := Window.start s } :=
  rfl

/-- Moving a letter in, told by the window. -/
theorem push_eq (code : Nat) (slate : Slate s) :
    push code slate = match slate.window.push code with
      | .error fault => .error (.internal (.context fault)) slate
      | .ok window => .ok () { slate with window := window } := by
  show (match slate.window.push code with
    | .error fault => throw (.internal (.context fault))
    | .ok window => modify fun slate => { slate with window := window } : Writing s Unit) slate = _
  cases slate.window.push code <;> rfl

/-- **Noting places moves the window only**, and comes to the same as following a window that is not
kept. -/
theorem note_eq (codes : List Nat) (slate : Slate s) :
    ∃ window, note codes slate = match slate.window.observe codes with
      | .error fault => .error (.internal (.context fault)) { slate with window := window }
      | .ok places => .ok places { slate with window := window } := by
  induction codes generalizing slate with
  | nil => exact ⟨slate.window, rfl⟩
  | cons code codes ih =>
      have hpush := push_eq code slate
      have hsteps : note (code :: codes) slate
          = (push code >>= fun _ => return (↑slate.window.row, ↑code) :: (← note codes)) slate := rfl
      rw [Window.observe, hsteps]
      cases hnext : slate.window.push code with
      | error fault =>
          rw [hnext] at hpush
          exact ⟨slate.window, bind_of_error hpush⟩
      | ok window =>
          rw [hnext] at hpush
          obtain ⟨last, hnote⟩ := ih { slate with window := window }
          refine ⟨last, (bind_of_ok hpush).trans ?_⟩
          cases hplaces : window.observe codes with
          | error fault =>
              simp only [hplaces] at hnote ⊢
              exact bind_of_error hnote
          | ok places =>
              simp only [hplaces] at hnote ⊢
              exact bind_of_ok hnote

/-- Looking up places writes nothing. -/
theorem look_eq (places : List (Int × Int)) (slate : Slate s) :
    look places slate = match slate.table.cells places with
      | .error fault => .error (.internal (.table fault)) slate
      | .ok cells => .ok cells slate := by
  induction places with
  | nil => rfl
  | cons place places ih =>
      obtain ⟨row, column⟩ := place
      show (match slate.table.cell row column with
        | .error fault => throw (.internal (.table fault))
        | .ok cell => return cell :: (← look places) : Writing s (List Cell)) slate = _
      rw [Table.cells]
      cases slate.table.cell row column with
      | error fault => rfl
      | ok cell =>
          cases hcells : slate.table.cells places with
          | error fault =>
              rw [hcells] at ih
              exact bind_of_error ih
          | ok cells =>
              rw [hcells] at ih
              exact bind_of_ok ih

/-- Raising counts one by one raises all of them. -/
theorem raise_eq (cells : List Cell) (slate : Slate s) :
    raise cells slate = .ok () { slate with
      table := { slate.table with counts := cells.foldl slate.table.bump slate.table.counts } } := by
  induction cells generalizing slate with
  | nil => rfl
  | cons cell cells ih => exact ih _

/-- **Observing places in place** comes to the same as observing them in a table that is not kept. -/
theorem record_eq (places : List (Int × Int)) (slate : Slate s) :
    record places slate = match slate.table.record places with
      | .error fault => .error (.internal (.table fault)) slate
      | .ok table => .ok () { slate with table := table } := by
  have hlook := look_eq places slate
  rw [Table.record]
  cases hcells : slate.table.cells places with
  | error fault =>
      rw [hcells] at hlook
      exact bind_of_error hlook
  | ok cells =>
      rw [hcells] at hlook
      exact (bind_of_ok hlook).trans (bind_of_ok (raise_eq cells slate))

/-! ## (3) Training in place and as a function -/

variable {g : Generator} {word : String}

/-- Encoding writes nothing. -/
theorem encode_eq (a : Alphabet) (word : String) (slate : Slate s) :
    encode a word slate = match a.encode word with
      | .error foreign =>
        .error (.refused (.illegalCharacter word foreign.character foreign.position)) slate
      | .ok codes => .ok codes slate := by
  rw [encode]
  cases a.encode word <;> rfl

/-- **A slate that shows a generator**: its table and its words are those of the generator, and its window is
one of the same contexts, wherever it stands. -/
structure Shows (slate : Slate s) (g : Generator) : Prop where
  /-- The contexts are the same. -/
  space_eq : g.space = s
  /-- The table is the same. -/
  table_eq : slate.table = g.table
  /-- The words known are the same. -/
  vocabulary_eq : slate.vocabulary = g.vocabulary

/-- Written on a slate, a generator shows, wherever the window stands. -/
theorem shows_mk (hspace : g.space = s) (window : Window s) :
    Shows ⟨g.table, g.vocabulary, window⟩ g :=
  ⟨hspace, rfl, rfl⟩

/-- **Training in place comes to the same as training the generator that a slate shows.** A word that is
refused leaves no trace on it; a check that fails later leaves none but in the window. -/
theorem Shows.train_eq (h : slate.Shows g) (word : String) :
    ∃ window, train g.alphabet word slate = match g.train word with
      | .error (.refused error) => .error (.refused error) slate
      | .error (.internal fault) => .error (.internal fault) { slate with window := window }
      | .ok learned => .ok () ⟨learned.table, learned.vocabulary, window⟩ := by
  obtain ⟨table, vocabulary, window⟩ := slate
  obtain ⟨rfl, rfl, rfl⟩ := h
  rw [Slate.train, Generator.train]
  by_cases hempty : word.isEmpty
  · rw [if_pos hempty, if_pos hempty]
    exact ⟨window, rfl⟩
  · rw [if_neg hempty, if_neg hempty]
    have hencode := encode_eq g.alphabet word (⟨g.table, g.vocabulary, window⟩ : Slate g.space)
    cases hcodes : g.alphabet.encode word with
    | error foreign =>
        rw [hcodes] at hencode
        exact ⟨window, bind_of_error hencode⟩
    | ok codes =>
        rw [hcodes] at hencode
        rw [bind_of_ok hencode, bind_of_ok (reset_eq _)]
        obtain ⟨moved, hnote⟩ := note_eq codes ⟨g.table, g.vocabulary, Window.start g.space⟩
        refine ⟨moved, ?_⟩
        cases hplaces : (Window.start g.space).observe codes with
        | error fault =>
            simp only [hplaces] at hnote ⊢
            exact bind_of_error hnote
        | ok places =>
            simp only [hplaces] at hnote ⊢
            rw [bind_of_ok hnote]
            have hrecord := record_eq places (⟨g.table, g.vocabulary, moved⟩ : Slate g.space)
            cases htable : g.table.record places with
            | error fault =>
                simp only [htable] at hrecord ⊢
                exact bind_of_error hrecord
            | ok table =>
                simp only [htable] at hrecord ⊢
                exact bind_of_ok hrecord

/-- A word that is refused is refused in place, and leaves no trace. -/
theorem Shows.train_of_refused (h : slate.Shows g) {error : TrainError}
    (hrefused : g.train word = .error (.refused error)) :
    train g.alphabet word slate = .error (.refused error) slate := by
  obtain ⟨window, htrain⟩ := h.train_eq word
  rwa [hrefused] at htrain

/-- A word that is learned is learned in place, and the slate shows what the generator has become. -/
theorem Shows.exists_train_of_ok (h : slate.Shows g) {learned : Generator}
    (hlearned : g.train word = .ok learned) :
    ∃ last : Slate s, last.Shows learned ∧ train g.alphabet word slate = .ok () last := by
  obtain ⟨window, htrain⟩ := h.train_eq word
  rw [hlearned] at htrain
  have hspace : learned.space = s := (Generator.sameMake_train hlearned).space_eq.trans h.space_eq
  exact ⟨_, shows_mk hspace window, htrain⟩

/-- **Training that breaks off leaves the table and the words as they were**, on every slate: it shows some
generator. -/
theorem table_vocabulary_of_train_eq_error {alphabet : Alphabet} {order : Nat} {order_pos : 0 < order}
    {slate last : Slate (Generator.contexts alphabet order order_pos)} {fault : TrainFault}
    (h : train alphabet word slate = .error fault last) :
    last.table = slate.table ∧ last.vocabulary = slate.vocabulary := by
  have hshows : slate.Shows ⟨alphabet, order, order_pos, .null, slate.table, slate.vocabulary⟩ :=
    ⟨rfl, rfl, rfl⟩
  obtain ⟨window, htrain⟩ := hshows.train_eq word
  replace htrain := h.symm.trans htrain
  split at htrain <;> cases htrain <;> exact ⟨rfl, rfl⟩

end Slate

/-! ## (4) Training on several words -/

namespace Generator

variable {g : Generator} {learned settled before : List String} {word : String} {s : ContextSpace}

theorem run_append (g : Generator) (operations later : List Operation) :
    g.run (operations ++ later) = (g.run operations).run later :=
  List.foldl_append

/-- **A word that fails is as if it had not been presented.** -/
theorem run_train_of_error {fault : TrainFault} (htrain : g.train word = .error fault)
    (later : List Operation) : g.run (.train word :: later) = g.run later := by
  rw [run, List.foldl_cons, Generator.perform, htrain, run]

/-- A word that can be spelled is learned. -/
theorem Embodies.run_train_of_spells (h : g.Embodies learned settled) (hword : g.alphabet.Spells word)
    (later : List Operation) :
    g.run (.train word :: later)
      = (g.learn word (g.spell (g.alphabet.codesOf word))).run later := by
  rw [run, List.foldl_cons, Generator.perform, h.train_of_spells hword, run]

/-- **Words that can be spelled are learned one by one**, by induction on them, and training goes on after
them, as a function and in place. -/
theorem Embodies.trainAllFrom_append (h : g.Embodies learned settled) {slate : Slate s}
    (hshows : slate.Shows g) (hbefore : ∀ word ∈ before, g.alphabet.Spells word) (count : Nat) :
    ∃ last : Slate s, last.Shows (g.run (before.map .train)) ∧ ∀ rest,
      g.trainAllFrom count (before ++ rest)
          = (g.run (before.map .train)).trainAllFrom (count + before.length) rest
        ∧ Slate.trainAllFrom g.alphabet count (before ++ rest) slate
          = Slate.trainAllFrom g.alphabet (count + before.length) rest last := by
  induction before generalizing g learned slate count with
  | nil => exact ⟨slate, hshows, fun rest => ⟨rfl, rfl⟩⟩
  | cons word before ih =>
      have hword := hbefore word List.mem_cons_self
      have htrain := h.train_of_spells hword
      obtain ⟨next, hnext, hslate⟩ := hshows.exists_train_of_ok htrain
      obtain ⟨last, hlast, hrest⟩ := ih (h.learn hword) hnext
        (fun word' hword' => hbefore word' (List.mem_cons_of_mem _ hword')) (count + 1)
      have hcount : count + (word :: before).length = count + 1 + before.length := by
        rw [List.length_cons, Nat.add_right_comm, Nat.add_assoc]
      rw [List.map_cons, h.run_train_of_spells hword]
      refine ⟨last, hlast, fun rest => ⟨?_, ?_⟩⟩
      · rw [List.cons_append, Generator.trainAllFrom, htrain, hcount]
        exact (hrest rest).1
      · rw [List.cons_append, hcount]
        exact (bind_of_ok hslate).trans (hrest rest).2

/-- **If all words can be spelled**, all are learned. -/
theorem Embodies.trainAll_of_spells (h : g.Embodies learned settled) {slate : Slate s}
    (hshows : slate.Shows g) {words : List String} (hgood : ∀ word ∈ words, g.alphabet.Spells word) :
    g.trainAll words = (g.run (words.map .train), .ok words.length)
      ∧ ∃ last : Slate s, last.Shows (g.run (words.map .train))
        ∧ Slate.trainAllFrom g.alphabet 0 words slate = .ok words.length last := by
  obtain ⟨last, hlast, hrest⟩ := h.trainAllFrom_append hshows hgood 0
  obtain ⟨hall, hslate⟩ := hrest []
  rw [List.append_nil, Nat.zero_add] at hall hslate
  exact ⟨hall, last, hlast, hslate⟩

/-- **If some word is refused** after words that can be spelled, these are learned and no others. -/
theorem Embodies.trainAll_of_refused (h : g.Embodies learned settled) {slate : Slate s}
    (hshows : slate.Shows g) (hbefore : ∀ word ∈ before, g.alphabet.Spells word) {error : TrainError}
    (hrefused : (g.run (before.map .train)).train word = .error (.refused error)) (after : List String) :
    g.trainAll (before ++ word :: after) = (g.run (before.map .train), .error (.refused error))
      ∧ ∃ last : Slate s, last.Shows (g.run (before.map .train))
        ∧ Slate.trainAllFrom g.alphabet 0 (before ++ word :: after) slate
          = .error (.refused error) last := by
  obtain ⟨last, hlast, hrest⟩ := h.trainAllFrom_append hshows hbefore 0
  obtain ⟨hall, hslate⟩ := hrest (word :: after)
  have hstop := hlast.train_of_refused hrefused
  rw [(sameMake_run g (before.map .train)).alphabet_eq] at hstop
  refine ⟨hall.trans ?_, last, hlast, hslate.trans (bind_of_error hstop)⟩
  rw [Generator.trainAllFrom, hrefused]

/-! ## (5) Every run -/

/-- **Refusals after any run.** The empty word is refused for being empty, and no other; a word with a
character that is no letter is refused for the first such character, told by its place; any other word is
learned, and no check of the library fails. A refusal leaves no trace: in place, training breaks off before
anything is written, wherever the window stands; even on a slate that no run leads to, the table and the
words stay as they are whenever it breaks off; and whatever is asked of the generator later goes as if the
word had not been presented. Of several words, all are learned one by one if all can be spelled; otherwise
those before the first one that cannot, for which the others are refused. -/
theorem refuses_run (alphabet : Alphabet) (order : Nat) (order_pos : 0 < order) (patience : Setting)
    (operations : List Operation) (word : String) (words : List String) :
    let blank := untrained alphabet order order_pos patience
    let g := blank.run operations
    (g.train word = .error (.refused .emptyWord) ↔ word = "")
      ∧ (∀ said c place, g.train word = .error (.refused (.illegalCharacter said c place)) ↔
        said = word ∧ word.toList[place]? = some c ∧ c ∉ alphabet.letters
          ∧ ∀ d ∈ word.toList.take place, d ∈ alphabet.letters)
      ∧ ((∃ c place, g.train word = .error (.refused (.illegalCharacter word c place))) ↔
        word ≠ "" ∧ ∃ c ∈ word.toList, c ∉ alphabet.letters)
      ∧ ((∃ next, g.train word = .ok next) ↔ word ≠ "" ∧ ∀ c ∈ word.toList, c ∈ alphabet.letters)
      ∧ (∀ fault, g.train word ≠ .error (.internal fault))
      ∧ (∀ slate : Slate (contexts alphabet order order_pos), slate.Shows g →
        (∀ fault, g.train word = .error fault → Slate.train alphabet word slate = .error fault slate)
          ∧ ∀ next, g.train word = .ok next →
            ∃ last : Slate (contexts alphabet order order_pos), last.Shows next
              ∧ Slate.train alphabet word slate = .ok () last)
      ∧ (∀ (slate last : Slate (contexts alphabet order order_pos)) (fault : TrainFault),
        Slate.train alphabet word slate = .error fault last →
          last.table = slate.table ∧ last.vocabulary = slate.vocabulary)
      ∧ (∀ fault, g.train word = .error fault →
        ∀ later, blank.run (operations ++ Operation.train word :: later) = blank.run (operations ++ later))
      ∧ ((∀ w ∈ words, alphabet.Spells w) →
        g.trainAll words = (g.run (words.map .train), .ok words.length)
          ∧ ∀ slate : Slate (contexts alphabet order order_pos), slate.Shows g →
            ∃ last : Slate (contexts alphabet order order_pos), last.Shows (g.run (words.map .train))
              ∧ Slate.trainAllFrom alphabet 0 words slate = .ok words.length last)
      ∧ (∀ before refused after, words = before ++ refused :: after →
        (∀ w ∈ before, alphabet.Spells w) → ¬ alphabet.Spells refused →
        ∃ error, (g.run (before.map .train)).train refused = .error (.refused error)
          ∧ g.trainAll words = (g.run (before.map .train), .error (.refused error))
          ∧ ∀ slate : Slate (contexts alphabet order order_pos), slate.Shows g →
            ∃ last : Slate (contexts alphabet order order_pos), last.Shows (g.run (before.map .train))
              ∧ Slate.trainAllFrom alphabet 0 words slate = .error (.refused error) last)
      ∧ ((∀ w ∈ words, alphabet.Spells w)
        ∨ ∃ before refused after, words = before ++ refused :: after
          ∧ (∀ w ∈ before, alphabet.Spells w) ∧ ¬ alphabet.Spells refused) := by
  intro blank g
  have h : g.Embodies (blank.learnedIn operations) (blank.settledIn operations) :=
    embodies_run alphabet order order_pos patience operations
  have hmake : blank.SameMake g := sameMake_run blank operations
  have halphabet : g.alphabet = alphabet := hmake.alphabet_eq
  -- a slate that shows the generator
  have hshows := Slate.shows_mk hmake.space_eq (Window.start (contexts alphabet order order_pos))
  have hgood : ∀ {words : List String}, (∀ w ∈ words, alphabet.Spells w) →
      ∀ w ∈ words, g.alphabet.Spells w := fun hwords => halphabet.symm ▸ hwords
  refine ⟨h.train_eq_emptyWord_iff, fun said c place => ?_, ?_, ?_, fun fault htrain => ?_,
    fun slate hslate => ⟨fun fault htrain => ?_, fun next htrain => ?_⟩,
    fun slate last fault => Slate.table_vocabulary_of_train_eq_error, fun fault htrain later => ?_,
    fun hwords => ⟨(h.trainAll_of_spells hshows (hgood hwords)).1, fun slate hslate => ?_⟩,
    fun before refused after hwords hbefore hrefused => ?_, forall_or_exists_first _ words⟩
  · rw [← halphabet]
    exact h.train_eq_illegalCharacter_iff
  · rw [← halphabet]
    exact h.exists_train_eq_illegalCharacter_iff
  · rw [← halphabet]
    exact h.exists_train_eq_ok_iff
  · obtain ⟨error, hrefused⟩ := h.exists_refused htrain
    cases hrefused
  · obtain ⟨error, rfl⟩ := h.exists_refused htrain
    have hstop := hslate.train_of_refused htrain
    rwa [halphabet] at hstop
  · have hlearned := hslate.exists_train_of_ok htrain
    rwa [halphabet] at hlearned
  · rw [run_append, run_append, run_train_of_error htrain]
  · have hall := (h.trainAll_of_spells hslate (hgood hwords)).2
    rwa [halphabet] at hall
  · subst hwords
    have hlast := (sameMake_run g (before.map .train)).alphabet_eq.trans halphabet
    obtain ⟨error, htrain⟩ :=
      (g.run (before.map .train)).train_of_not_spells (hlast.symm ▸ hrefused)
    refine ⟨error, htrain, (h.trainAll_of_refused hshows (hgood hbefore) htrain after).1,
      fun slate hslate => ?_⟩
    have hall := (h.trainAll_of_refused hslate (hgood hbefore) htrain after).2
    rwa [halphabet] at hall

/-- After a run over the letters `A` and `B`, the word `A?` is refused for its second character, in place
without a trace, and what is asked later goes as if it had not been presented; of the words `AB`, `A?` and
`B`, only the first one is learned. -/
theorem refuses_mixedRun :
    let blank := untrained .ofAB 2 Nat.two_pos (.integer 1000)
    let g := blank.run mixedRun
    g.train "A?" = .error (.refused (.illegalCharacter "A?" '?' 1))
      ∧ (∀ window : Window (contexts .ofAB 2 Nat.two_pos),
        Slate.train .ofAB "A?" ⟨g.table, g.vocabulary, window⟩
          = .error (.refused (.illegalCharacter "A?" '?' 1)) ⟨g.table, g.vocabulary, window⟩)
      ∧ blank.run (mixedRun ++ [.train "A?", .compile]) = blank.run (mixedRun ++ [.compile])
      ∧ g.trainAll ["AB", "A?", "B"]
        = (g.run [.train "AB"], .error (.refused (.illegalCharacter "A?" '?' 1))) := by
  intro blank g
  obtain ⟨-, hillegal, -, -, -, hplace, -, hlater, -, hfirst, -⟩ :=
    refuses_run .ofAB 2 Nat.two_pos (.integer 1000) mixedRun "A?" ["AB", "A?", "B"]
  have hearlier : ∀ d ∈ "A?".toList.take 1, d ∈ Alphabet.ofAB.letters := by
    intro d hd
    obtain rfl : d = 'A' := by simpa using hd
    decide
  have htrain : g.train "A?" = .error (.refused (.illegalCharacter "A?" '?' 1)) :=
    (hillegal "A?" '?' 1).mpr ⟨rfl, rfl, by decide, hearlier⟩
  have hshows : ∀ window : Window (contexts .ofAB 2 Nat.two_pos),
      Slate.Shows ⟨g.table, g.vocabulary, window⟩ g :=
    Slate.shows_mk (sameMake_run blank mixedRun).space_eq
  obtain ⟨error, hrefused, hall, -⟩ := hfirst ["AB"] "A?" ["B"] rfl (by decide) (by decide)
  -- the word is refused in the same way after another one was learned
  obtain ⟨-, hsecond, -⟩ :=
    refuses_run .ofAB 2 Nat.two_pos (.integer 1000) (mixedRun ++ [.train "AB"]) "A?" []
  have htrain' := (hsecond "A?" '?' 1).mpr ⟨rfl, rfl, by decide, hearlier⟩
  rw [run_append] at htrain'
  obtain rfl := TrainFault.refused.inj (Except.error.inj (hrefused.symm.trans htrain'))
  exact ⟨htrain, fun window => (hplace _ (hshows window)).1 _ htrain, hlater _ htrain [.compile], hall⟩

end Generator
end Pseudoword
