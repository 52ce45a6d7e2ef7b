/-! # Runs of character names

Neighbouring characters mostly have names that begin with the same words. A run holds the names of
consecutive code points, and of each name only what sets it apart from the one before: a small letter
says how many words are kept (`a` for none, `b` for one, and so on), and the other words follow. The
names themselves have no small letters.

* `Text.CharacterName.words` — the words of a name.
* `Text.CharacterName.Run` — a run of names, and `Run.names`, which spells them out.
* `Text.CharacterName.Run.code?` — the code point that a run gives to a name.
-/

namespace Pseudoword.Text.CharacterName

/-- The words of a name. A space or a hyphen belongs to the word that it ends. -/
def words (name : List Char) : List (List Char) :=
  name.splitBy fun c _ => c != ' ' && c != '-'

/-- The names of consecutive code points. -/
structure Run where
  /-- The first of the code points. -/
  first : Nat
  /-- Lines of names, each name without the words that it shares with the one before. -/
  lines : List String

namespace Run

/-- The names that entries spell, as words, given the words of the name before them. -/
def expand (previous : List (List Char)) : List (List Char) → List (List (List Char))
  | [] => []
  | [] :: entries => expand previous entries
  | (kept :: rest) :: entries =>
    let name := previous.take (kept.toNat - 'a'.toNat) ++ words rest
    name :: expand name entries

/-- The entries of a line. A small letter begins an entry. -/
def entries (line : String) : List (List Char) :=
  line.toList.splitBy fun _ c => !c.isLower

/-- The names of a run, in the order of their code points. -/
def names (r : Run) : List (List Char) :=
  (expand [] (r.lines.flatMap entries)).map List.flatten

/-- The code point with a name. -/
def code? (r : Run) (name : List Char) : Option Nat :=
  (r.names.idxOf? name).map (r.first + ·)

end Run
end Pseudoword.Text.CharacterName
