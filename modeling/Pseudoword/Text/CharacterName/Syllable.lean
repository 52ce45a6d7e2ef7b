import Pseudoword.Text.CharacterName.Stem

/-! # Names of Hangul syllables

The name of a Hangul syllable is put together from the short names of its initial consonant, its vowel
and its final consonant, where either consonant may be missing. The syllables stand in the order of
these three parts.

* `Text.CharacterName.syllable?` — the syllable with a name.
-/

namespace Pseudoword.Text.CharacterName

/-- The short names of initial consonants, in order. -/
def initials : List String :=
  ["G", "GG", "N", "D", "DD", "R", "M", "B", "BB", "S", "SS", "", "J", "JJ", "C", "K", "T", "P", "H"]

/-- The short names of vowels, in order. -/
def vowels : List String :=
  ["A", "AE", "YA", "YAE", "EO", "E", "YEO", "YE", "O", "WA", "WAE", "OE", "YO", "U", "WEO", "WE",
   "WI", "YU", "EU", "YI", "I"]

/-- The short names of final consonants, in order. -/
def finals : List String :=
  ["", "G", "GG", "GS", "N", "NJ", "NH", "D", "L", "LG", "LM", "LB", "LS", "LT", "LP", "LH", "M",
   "B", "BS", "S", "SS", "NG", "J", "C", "K", "T", "P", "H"]

/-- The longest of some short names that characters begin with: its place in the order, and the
characters after it. No short name is longer than three characters. -/
def readPart? (parts : List String) (cs : List Char) : Option (Nat × List Char) :=
  [3, 2, 1, 0].findSome? fun length =>
    (parts.idxOf? (String.ofList (cs.take length))).map fun i => (i, cs.drop length)

/-- The syllable with a name. -/
def syllable? (name : List Char) : Option Nat := do
  let cs ← afterStem? "HANGUL SYLLABLE " name
  let (i, cs) ← readPart? initials cs
  let (v, cs) ← readPart? vowels cs
  let (f, cs) ← readPart? finals cs
  if cs.isEmpty then some (0xAC00 + (i * vowels.length + v) * finals.length + f) else none

end Pseudoword.Text.CharacterName
