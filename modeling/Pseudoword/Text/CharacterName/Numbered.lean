import Pseudoword.Text.CharacterName.Stem
import Pseudoword.Text.Ranges

/-! # Character names with a number

The names of ideographs, and of characters of some other large scripts, end with the code point in
hexadecimal digits.

* `Text.CharacterName.ideograph?` — the unified ideograph with a name.
* `Text.CharacterName.numbered?` — the character of another script with a name of this kind.
-/

namespace Pseudoword.Text.CharacterName

/-- The unified ideographs. -/
def unifiedIdeographs : Ranges :=
  [(0x3400, 0x4DBF), (0x4E00, 0x9FFF), (0x20000, 0x2A6DF), (0x2A700, 0x2B738), (0x2B740, 0x2B81D),
   (0x2B820, 0x2CEA1), (0x2CEB0, 0x2EBE0), (0x30000, 0x3134A)]

/-- What the names of the other numbered characters begin with, and which characters have them. -/
def numberedScripts : List (String × Ranges) :=
  [("CJK COMPATIBILITY IDEOGRAPH-", [(0xF900, 0xFA6D), (0xFA70, 0xFAD9), (0x2F800, 0x2FA1D)]),
   ("KHITAN SMALL SCRIPT CHARACTER-", [(0x18B00, 0x18CD5)]),
   ("NUSHU CHARACTER-", [(0x1B170, 0x1B2FB)])]

/-- The value of a hexadecimal digit in capitals. -/
def capitalDigit? (c : Char) : Option Nat :=
  if '0' ≤ c && c ≤ '9' then some (c.toNat - '0'.toNat)
  else if 'A' ≤ c && c ≤ 'F' then some (c.toNat - 'A'.toNat + 10)
  else none

/-- The number that four or five hexadecimal digits in capitals spell. -/
def readNumber? (cs : List Char) : Option Nat := do
  let digits ← cs.mapM capitalDigit?
  if digits.length = 4 || digits.length = 5 then
    some (digits.foldl (fun n digit => 16 * n + digit) 0)
  else none

/-- The unified ideograph with a name. Its number may begin with a zero. -/
def ideograph? (name : List Char) : Option Nat := do
  let code ← readNumber? (← afterStem? "CJK UNIFIED IDEOGRAPH-" name)
  if unifiedIdeographs.contains code then some code else none

/-- The character of a script whose names begin in a given way, if its number begins with no zero. -/
def numberedIn? (name : List Char) (stem : String) (codes : Ranges) : Option Nat := do
  let digits ← afterStem? stem name
  let code ← readNumber? digits
  if codes.contains code && digits.head? != some '0' then some code else none

/-- The other numbered character with a name. -/
def numbered? (name : List Char) : Option Nat :=
  numberedScripts.findSome? fun (stem, codes) => numberedIn? name stem codes

end Pseudoword.Text.CharacterName
