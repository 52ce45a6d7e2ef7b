import Pseudoword.Text.Blank
import Pseudoword.Text.Casing
import Pseudoword.Text.Digit
import Pseudoword.Text.Letter

/-! # Tests of a single character

What a pattern may ask of one character, and the flags under which it asks. When case is ignored, a
character is first lower-cased and then compared with every member of its case family, so that all
forms of a letter are equal. Classes without a single cased member are compared as they are.

* `Pattern.Mode` — the flags in force at a place of a pattern.
* `Pattern.Test`, `Test.accepts` — the tests and their meaning.
* `Test.isExact`, `Test.isFolded` — whether a character is compared as it is, or with a class in which
  case does not matter.
-/

namespace Pseudoword.Pattern

open Text

/-- The flags in force at a place of a pattern. -/
structure Mode where
  /-- Letters that differ only by case are equal. -/
  ignoreCase : Bool := false
  /-- The line anchors hold at every line. -/
  multiline : Bool := false
  /-- The full stop stands for line feeds too. -/
  dotAll : Bool := false
  /-- Blanks and comments in the pattern are skipped. -/
  verbose : Bool := false
  /-- Character categories and letter case are those of ASCII. -/
  ascii : Bool := false
  deriving DecidableEq, Repr, Inhabited

/-- Turn flags on and off, given by their letters. Asking for one of the two character sets undoes
an earlier choice between them. -/
def Mode.change (mode : Mode) (added removed : List Char) : Mode where
  ignoreCase := (mode.ignoreCase || added.contains 'i') && !removed.contains 'i'
  multiline := (mode.multiline || added.contains 'm') && !removed.contains 'm'
  dotAll := (mode.dotAll || added.contains 's') && !removed.contains 's'
  verbose := (mode.verbose || added.contains 'x') && !removed.contains 'x'
  ascii := added.contains 'a' || (mode.ascii && !added.contains 'u')

/-- The categories that have an escape of their own. -/
inductive Category where
  /-- Decimal digits. -/
  | digit
  /-- White space. -/
  | space
  /-- Letters, numerals and the low line. -/
  | word
  deriving DecidableEq, Repr

/-- Whether a character is an ASCII letter, digit or low line. -/
def isAsciiWord (c : Char) : Bool :=
  c.isAlphanum || c == '_'

/-- Whether a character belongs to a category. -/
def Category.contains (ascii : Bool) : Category → Char → Bool
  | .digit, c => if ascii then c.isDigit else isDigit c
  | .space, c => if ascii then c == ' ' || (0x09 ≤ c.toNat && c.toNat ≤ 0x0D) else isBlank c
  | .word, c => if ascii then isAsciiWord c else isWordCharacter c

/-- A member of a character class. Code points are numbers, because a pattern may name one that is
no character. -/
inductive Member where
  /-- One code point. -/
  | literal (code : Nat)
  /-- All code points from one to another. -/
  | range (first last : Nat)
  /-- A category, or everything outside it. -/
  | category (kind : Category) (negated : Bool)
  deriving DecidableEq, Repr

/-- A test of one character. -/
inductive Test where
  /-- Any character, except a line feed unless the flags say otherwise. -/
  | any
  /-- One code point, or every other one. -/
  | literal (code : Nat) (negated : Bool)
  /-- A class, or everything outside it. The third field tells whether it has a cased member. -/
  | oneOf (members : List Member) (negated : Bool) (cased : Bool)
  deriving DecidableEq, Repr

namespace Mode

/-- The lower-case form of a character, among the letters that the flags admit. -/
def lower (mode : Mode) (c : Char) : Char :=
  if mode.ascii then c.toLower else lowerChar c

/-- Whether a character has two cases, among the letters that the flags admit. -/
def isCased (mode : Mode) (c : Char) : Bool :=
  if mode.ascii then c.isAlpha else Text.isCased c

/-- The characters that are equal to a lower-case one. -/
def family (mode : Mode) (c : Char) : List Char :=
  if mode.ascii then [c, c.toUpper] else caseFamily c

end Mode

/-- The last code point of the Basic Multilingual Plane. -/
def lastBasic : Nat := 0xFFFF

/-- Whether a code point is that of a cased character, or beyond the Basic Multilingual Plane. -/
def isCasedCode (mode : Mode) (code : Nat) : Bool :=
  lastBasic < code || mode.isCased (Char.ofNat code)

/-- Whether a member of a class is cased. -/
def Member.isCased (mode : Mode) : Member → Bool
  | .literal code => isCasedCode mode code
  | .range first last =>
    lastBasic < last || (List.range' first (last + 1 - first)).any (isCasedCode mode)
  | .category _ _ => false

/-- Whether a class contains a character as it is. -/
def Member.contains (mode : Mode) (c : Char) : Member → Bool
  | .literal code => c.toNat == code
  | .range first last => first ≤ c.toNat && c.toNat ≤ last
  | .category kind negated => kind.contains mode.ascii c != negated

/-- Whether a class contains a lower-case character or one that is equal to it. Beyond the Basic
Multilingual Plane a single code point is compared as it is written, and a range also takes in the
upper-case form. -/
def Member.containsFolded (mode : Mode) (c : Char) : Member → Bool
  | .literal code =>
    if lastBasic < code then c.toNat == code
    else (mode.family c).any (·.toNat == code)
  | .range first last =>
    (mode.family c).any (fun v => first ≤ v.toNat && v.toNat ≤ min last lastBasic)
      || (lastBasic < last
        && [c, upperChar c].any fun v => first ≤ v.toNat && v.toNat ≤ last)
  | .category kind negated => kind.contains mode.ascii c != negated

/-- Whether a character passes a test. -/
def Test.accepts (mode : Mode) (c : Char) : Test → Bool
  | .any => mode.dotAll || c != '\n'
  | .literal code negated =>
    let equal :=
      if mode.ignoreCase && mode.isCased (Char.ofNat code) then
        (mode.family (mode.lower c)).any (·.toNat == code)
      else c.toNat == code
    equal != negated
  | .oneOf members negated cased =>
    let found :=
      if mode.ignoreCase && cased then
        members.any (Member.containsFolded mode (mode.lower c))
      else members.any (Member.contains mode c)
    found != negated

/-- Whether a test is for characters of a set as they are. -/
def Test.isExact (mode : Mode) : Test → Bool
  | .any => false
  | .literal code negated => !negated && !(mode.ignoreCase && mode.isCased (Char.ofNat code))
  | .oneOf _ _ cased => !(mode.ignoreCase && cased)

/-- Whether a test is for a class of several characters in which case does not matter. -/
def Test.isFolded (mode : Mode) : Test → Bool
  | .any => false
  | .literal code _ =>
    let c := Char.ofNat code
    mode.ignoreCase && !mode.ascii && mode.isCased c && 1 < (caseVariants (mode.lower c)).length
  | .oneOf _ _ cased => mode.ignoreCase && cased

end Pseudoword.Pattern
