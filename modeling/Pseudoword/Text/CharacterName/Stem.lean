/-! # Stems of character names

Characters of one kind may have names with a stem in common, after which a rule says how the names go
on.

* `Text.CharacterName.afterStem?` — what comes after the stem of a name.
-/

namespace Pseudoword.Text.CharacterName

/-- What comes after a stem, in a name that begins with it. -/
def afterStem? (stem : String) (name : List Char) : Option (List Char) :=
  if stem.toList.isPrefixOf name then some (name.drop stem.length) else none

end Pseudoword.Text.CharacterName
