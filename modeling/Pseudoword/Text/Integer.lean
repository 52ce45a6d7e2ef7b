import Pseudoword.Text.Blank
import Pseudoword.Text.Digit

/-! # Integers in text

An integer as a user may type it: blanks around it, a sign, digits of any script, and single low
lines between digits.

* `Text.readDigits?` — digits with low lines between them.
* `Text.readInteger?` — a signed integer.
* `Text.maxIntegerDigits`, `Text.tooManyDigits` — how long an integer may be, and what is said of one
  that is longer.
-/

namespace Pseudoword.Text

/-- Whether a character may surround an integer. Among the ASCII characters these are the space and
the five layout characters; the information separators do not count. -/
def isIntegerSpace (c : Char) : Bool :=
  if c.toNat < 0x80 then (0x09 ≤ c.toNat && c.toNat ≤ 0x0D) || c == ' ' else isBlank c

/-- Go on reading digits after the value read so far; a low line has to be followed by a digit. -/
def readDigitsFrom? (value : Nat) : List Char → Option Nat
  | [] => some value
  | '_' :: c :: cs => (digitValue? c).bind fun d => readDigitsFrom? (10 * value + d) cs
  | c :: cs => (digitValue? c).bind fun d => readDigitsFrom? (10 * value + d) cs

/-- Read a natural number, which starts with a digit. -/
def readDigits? : List Char → Option Nat
  | [] => none
  | c :: cs => (digitValue? c).bind fun d => readDigitsFrom? d cs

/-- The most digits that an integer may have. -/
def maxIntegerDigits : Nat := 4300

/-- What is said of a number that has more digits. -/
def tooManyDigits (count : Nat) : String :=
  "Exceeds the limit (" ++ toString maxIntegerDigits ++ " digits) for integer string conversion: "
    ++ "value has " ++ toString count
    ++ " digits; use sys.set_int_max_str_digits() to increase the limit"

/-- Read an integer. -/
def readInteger? (s : String) : Option Int :=
  let cs := dropEnd isIntegerSpace (s.toList.dropWhile isIntegerSpace)
  if maxIntegerDigits < cs.countP isDigit then none
  else
    match cs with
    | '-' :: digits => (readDigits? digits).map fun n => -(n : Int)
    | '+' :: digits => (readDigits? digits).map fun n => (n : Int)
    | digits => (readDigits? digits).map fun n => (n : Int)

end Pseudoword.Text
