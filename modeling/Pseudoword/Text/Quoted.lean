import Pseudoword.Text.Printable

/-! # Quoted text

A text as messages show it: between quotation marks, on one line, with everything that would not be
seen written as an escape. The marks are apostrophes, unless the text has an apostrophe and no
quotation mark; then they are quotation marks, and no escape is needed for the apostrophe.

* `Text.quoted` — the quoted form.
* `Text.quoteMark`, `Text.escaped` — the choice of mark and the form of one character.
-/

namespace Pseudoword.Text

/-- The apostrophe, the usual mark. -/
def apostrophe : Char := '\x27'

/-- The quotation mark. -/
def quotationMark : Char := '\x22'

/-- The digits of a number in lower-case hexadecimal, padded with zeros to a width. -/
def hexDigits (width n : Nat) : List Char :=
  let digits := Nat.toDigits 16 n
  List.replicate (width - digits.length) '0' ++ digits

/-- The mark that encloses a text. -/
def quoteMark (cs : List Char) : Char :=
  if cs.contains apostrophe && !cs.contains quotationMark then quotationMark else apostrophe

/-- One character of a quoted text. The mark in use, the backslash and the three usual line and
tabulator characters have short escapes; other characters that are not printable are written by
their code point, in the shortest of three widths. -/
def escaped (mark c : Char) : List Char :=
  if c == mark || c == '\\' then ['\\', c]
  else if c == '\n' then ['\\', 'n']
  else if c == '\r' then ['\\', 'r']
  else if c == '\t' then ['\\', 't']
  else if isPrintable c then [c]
  else if c.toNat < 0x100 then '\\' :: 'x' :: hexDigits 2 c.toNat
  else if c.toNat < 0x10000 then '\\' :: 'u' :: hexDigits 4 c.toNat
  else '\\' :: 'U' :: hexDigits 8 c.toNat

/-- The quoted form of a text. -/
def quoted (s : String) : String :=
  let mark := quoteMark s.toList
  String.ofList (mark :: s.toList.flatMap (escaped mark) ++ [mark])

end Pseudoword.Text
