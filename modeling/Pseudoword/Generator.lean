import Pseudoword.Configuration
import Pseudoword.Context.Window
import Pseudoword.Table
import Std.Data.TreeSet

/-! # Generators

A generator learns from words which letter follows which context. Each word that it is trained on is
spelled through a window: every letter, and the end of the word, is observed in the row of the context
before it. A generator also remembers the words, because none of them is to be generated.

* `InternalFault`, `TrainFault` — a check inside the library that failed, and why a word was not learned.
* `Generator.ofConfiguration` — a generator that has learned nothing.
* `Window.observe` — the places in which a word is observed, with a check of each letter.
* `Window.spell`, `Generator.spell` — the cells in which a word is observed, without one.
* `Generator.train`, `Generator.trainAll` — learn words.
* `Generator.compile` — make what was learned available.
-/

namespace Pseudoword

/-- A check inside the library that failed. -/
inductive InternalFault where
  /-- A letter, or the end of a word, may not come next. -/
  | context (fault : ContextFault)
  /-- A place is not in the table. -/
  | table (fault : TableFault)
  /-- A code is not that of a letter. -/
  | code (fault : Alphabet.CodeFault)
  deriving DecidableEq, Repr

/-- The wording of a fault. -/
def InternalFault.message : InternalFault → String
  | .context fault => fault.message
  | .table fault => fault.message
  | .code fault => fault.message

/-- Why a word was not learned. -/
inductive TrainFault where
  /-- The word is refused. -/
  | refused (error : TrainError)
  /-- The word could be spelled, but not observed. -/
  | internal (fault : InternalFault)
  deriving DecidableEq, Repr

/-- What was learned from words. -/
structure Generator where
  /-- The letters of words. -/
  alphabet : Alphabet
  /-- How many slots a context has. -/
  order : Nat
  /-- There is a slot. -/
  order_pos : 0 < order
  /-- How many attempts at one word pass without a warning. -/
  patience : Setting
  /-- How often each letter, or the end of a word, followed each context. -/
  table : Table
  /-- The words. -/
  vocabulary : Std.TreeSet String

/-- The places in which the spelling of codes, from a window on, is observed, provided that each code
may come next. -/
def Window.observe {s : ContextSpace} (w : Window s) :
    List Nat → Except ContextFault (List (Int × Int))
  | [] => .ok [(w.row, s.endColumn)]
  | code :: codes =>
    match w.push code with
    | .error fault => .error fault
    | .ok next => (next.observe codes).map ((↑w.row, ↑code) :: ·)

/-- The cells in which the spelling of codes, from a window on, is observed. -/
def Window.spell {s : ContextSpace} (w : Window s) : List Nat → List Cell
  | [] => [(w.row, s.endColumn)]
  | code :: codes => (w.row, code) :: (w.shift code).spell codes

namespace Generator

/-! ## Construction -/

/-- The contexts of an order over an alphabet. -/
def contexts (alphabet : Alphabet) (order : Nat) (order_pos : 0 < order) : ContextSpace :=
  ⟨alphabet.size, order, alphabet.size_pos, order_pos⟩

/-- The generator that has learned nothing. -/
def untrained (alphabet : Alphabet) (order : Nat) (order_pos : 0 < order) (patience : Setting) :
    Generator :=
  let s := contexts alphabet order order_pos
  ⟨alphabet, order, order_pos, patience, .empty s.rows s.columns, ∅⟩

/-- The generator that a configuration describes, with the seed of its random source, where a number of
cells fit into memory. The order is looked at first, then the alphabet, the size of the table and last
the seed. -/
def ofConfiguration (capacity : Int) (c : Configuration) :
    Except ConfigurationFault (Generator × Seed) :=
  match Configuration.order? c.order with
  | none => .error (.refused (.badOrder c.order))
  | some ⟨order, order_pos⟩ =>
    match Alphabet.ofSetting c.alphabet with
    | .error fault => .error fault
    | .ok alphabet =>
      let s := contexts alphabet order order_pos
      match sizeFault? capacity s.rows s.columns with
      | some fault => .error (.tooLarge fault)
      | none =>
        match Seed.ofSetting? c.seed with
        | none => .error .badSeed
        | some seed => .ok (untrained alphabet order order_pos c.patience, seed)

variable (g : Generator)

/-- The contexts of the generator. -/
def space : ContextSpace :=
  contexts g.alphabet g.order g.order_pos

/-! ## Training -/

/-- The cells in which the word with the given codes is observed. -/
def spell (codes : List Nat) : List Cell :=
  (Window.start g.space).spell codes

/-- The generator after observing cells and remembering a word. -/
def learn (word : String) (cells : List Cell) : Generator :=
  { g with table := g.table.tally cells, vocabulary := g.vocabulary.insert word }

/-- Learn a word, which has to have a letter and only letters of the alphabet. All of its places are
checked before anything is counted. -/
def train (word : String) : Except TrainFault Generator :=
  if word.isEmpty then .error (.refused .emptyWord)
  else
    match g.alphabet.encode word with
    | .error foreign =>
      .error (.refused (.illegalCharacter word foreign.character foreign.position))
    | .ok codes =>
      match (Window.start g.space).observe codes with
      | .error fault => .error (.internal (.context fault))
      | .ok places =>
        match g.table.record places with
        | .error fault => .error (.internal (.table fault))
        | .ok table => .ok { g with table := table, vocabulary := g.vocabulary.insert word }

/-- Learn words in order, after a number of others. -/
def trainAllFrom (g : Generator) (learned : Nat) : List String → Generator × Except TrainFault Nat
  | [] => (g, .ok learned)
  | word :: words =>
    match g.train word with
    | .error fault => (g, .error fault)
    | .ok g => g.trainAllFrom (learned + 1) words

/-- Learn words in order, up to the first one that will not do; and how many there were. -/
def trainAll (words : List String) : Generator × Except TrainFault Nat :=
  g.trainAllFrom 0 words

/-- The report of having learned a number of words. -/
def trainAllRecord (count : Nat) : LogRecord :=
  ⟨.debug, "generator",
    "Trained on " ++ toString count ++ " words, vocabulary size " ++ toString g.vocabulary.size⟩

/-- Whether a word was learned. -/
def knows (word : String) : Bool :=
  g.vocabulary.contains word

/-- Make what was learned so far available to sampling. -/
def compile : Generator :=
  { g with table := g.table.settle }

end Generator
end Pseudoword
