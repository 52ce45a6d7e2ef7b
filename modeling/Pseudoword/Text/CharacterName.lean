import Pseudoword.Text.CharacterName.Abbreviation
import Pseudoword.Text.CharacterName.Alias
import Pseudoword.Text.CharacterName.From0000
import Pseudoword.Text.CharacterName.From0590
import Pseudoword.Text.CharacterName.From1800
import Pseudoword.Text.CharacterName.From2190
import Pseudoword.Text.CharacterName.From2900
import Pseudoword.Text.CharacterName.FromA000
import Pseudoword.Text.CharacterName.From10000
import Pseudoword.Text.CharacterName.From12000
import Pseudoword.Text.CharacterName.From1D000
import Pseudoword.Text.CharacterName.From1F000
import Pseudoword.Text.CharacterName.Numbered
import Pseudoword.Text.CharacterName.Syllable

/-! # Character names

Every character of Unicode has a name, some have further ones, and each name belongs to one
character. Names are listed, but for those of ideographs and syllables, which follow rules.

* `Text.CharacterName.listed?` — the character that a name is listed for.
* `Text.CharacterName.code?` — the character with a name, as a code point.
-/

namespace Pseudoword.Text.CharacterName

/-- The lists of names. -/
def lists : List (List Run) :=
  [from0000, from0590, from1800, from2190, from2900, fromA000, from10000, from12000, from1D000,
   from1F000, aliases, abbreviations]

/-- The code point that a name in capitals is listed for. -/
def listed? (name : List Char) : Option Nat :=
  lists.findSome? fun runs => runs.findSome? (·.code? name)

/-- The code point with a name. Small letters count as capitals, except in the names of unified
ideographs and syllables. -/
def code? (name : String) : Option Nat :=
  let name := name.toList
  let capitals := name.map Char.toUpper
  (syllable? name).or ((ideograph? name).or ((numbered? capitals).or (listed? capitals)))

end Pseudoword.Text.CharacterName
