import Pseudoword.Generator
import Pseudoword.Vocabulary

/-! # Training on vocabularies

A generator learns the words of a vocabulary line by line. The first line that cannot be read, or
whose word is refused, puts an end to it; what was learned before stays learned.

* `LoadFault` — why a vocabulary was not learned to its end.
* `Generator.trainLines` — the generator after the lines, and how many words it learned or which line
  put an end to it.
-/

namespace Pseudoword

/-- Why a vocabulary was not learned to its end. -/
inductive LoadFault where
  /-- A line cannot be used. -/
  | line (error : LoadError)
  /-- The word of a line could be spelled, but not observed. -/
  | internal (fault : InternalFault)
  deriving DecidableEq, Repr

namespace Generator

/-- Learn the words of lines, of which the first has the given place, after a number of other words. -/
def trainLinesFrom (g : Generator) (uppercase : Bool) (number learned : Nat) :
    List Line → Generator × Except LoadFault Nat
  | [] => (g, .ok learned)
  | line :: lines =>
    match Vocabulary.entry? uppercase number line with
    | .error e => (g, .error (.line e))
    | .ok none => g.trainLinesFrom uppercase (number + 1) learned lines
    | .ok (some entry) =>
      match g.train entry.word with
      | .error (.refused e) => (g, .error (.line ⟨number, entry.word, .badWord e⟩))
      | .error (.internal fault) => (g, .error (.internal fault))
      | .ok g => g.trainLinesFrom uppercase (number + 1) (learned + 1) lines

/-- Learn the words of lines. -/
def trainLines (g : Generator) (uppercase : Bool) (lines : List Line) :
    Generator × Except LoadFault Nat :=
  g.trainLinesFrom uppercase 1 0 lines

/-- The report of having learned a number of words. -/
def trainLinesRecord (count : Nat) : LogRecord :=
  ⟨.info, "vocabulary", "Trained on " ++ toString count ++ " dictionary words"⟩

end Generator
end Pseudoword
