import Pseudoword.Binary64

/-! # Binary64 numbers in decimal

A number is read from decimal by rounding the quotient that the digits spell, and written with the
fewest digits that read back as the same number; of two such forms the nearer one is taken, and of
two equally near ones the one with the even last digit.

* `Binary64.ofDecimal` — the number nearest to a decimal one.
* `Binary64.shortest` — the fewest digits that read back.
* `Binary64.text` — those digits, positional or with an exponent.
-/

namespace Pseudoword.Binary64

/-- Beyond this power of ten every number is zero or infinite. -/
def decimalRange : Nat := 400

/-- The number nearest to `mantissa * 10 ^ exponent`. -/
def ofDecimal (mantissa : Nat) (exponent : Int) : Binary64 :=
  let size := ((Nat.toDigits 10 mantissa).length : Int) + exponent
  if mantissa = 0 ∨ size < -decimalRange then zero
  else if decimalRange < size then infinity
  else
    let x := ofRatio (mantissa * Nat.pow 10 exponent.toNat) (Nat.pow 10 (-exponent).toNat)
    if infinity < x then infinity else x

/-- The place of the decimal point: a positive number is below ten to this power, and not below ten
to the power before. -/
def decimalPoint (x : Binary64) : Int :=
  ((Nat.toDigits 10 (x.units * Nat.pow 10 decimalRange / resolution)).length : Int) - decimalRange

/-- The decimal form of a positive number with a given count of digits, if one reads back: the digits
as a number, and the power of ten of the last one. -/
def withDigits? (x : Binary64) (count : Nat) : Option (Nat × Int) :=
  let exponent := x.decimalPoint - count
  let numerator := x.units * Nat.pow 10 (-exponent).toNat
  let denominator := resolution * Nat.pow 10 exponent.toNat
  let low := numerator / denominator
  let rest := numerator % denominator
  let lowFits := ofDecimal low exponent == x
  let highFits := ofDecimal (low + 1) exponent == x
  let preferLow := 2 * rest < denominator || (2 * rest == denominator && low % 2 == 0)
  if lowFits && (preferLow || !highFits) then some (low, exponent)
  else if highFits then some (low + 1, exponent)
  else none

/-- The shortest decimal form of a positive number. Seventeen digits always read back. -/
def shortest (x : Binary64) : Nat × Int :=
  ((List.range 17).findSome? fun i => x.withDigits? (i + 1)).getD (0, 0)

/-- The digits of a positive number without zeros at the end, and the place of the point after its
first digits. -/
def digitsAndPoint (x : Binary64) : List Char × Int :=
  let (digits, exponent) := x.shortest
  let cs := Nat.toDigits 10 digits
  ((cs.reverse.dropWhile (· == '0')).reverse, cs.length + exponent)

/-- The text of a number: positional from one ten-thousandth up to sixteen digits before the point,
with an exponent of at least two digits elsewhere, and never without a mark that it is no
integer. -/
def text (x : Binary64) : String :=
  if x.rank = 0 then "0.0"
  else if infinity ≤ x then "inf"
  else
    let (cs, point) := x.digitsAndPoint
    if -3 ≤ point ∧ point ≤ 16 then
      if point ≤ 0 then String.ofList ('0' :: '.' :: List.replicate (-point).toNat '0' ++ cs)
      else
        let whole := cs.take point.toNat
        let zeros := List.replicate (point.toNat - cs.length) '0'
        let fraction := cs.drop point.toNat
        String.ofList (whole ++ zeros ++ '.' :: (if fraction.isEmpty then ['0'] else fraction))
    else
      let exponent := point - 1
      let digits := Nat.toDigits 10 exponent.natAbs
      let mark := if exponent < 0 then '-' else '+'
      let padded := if digits.length < 2 then '0' :: digits else digits
      match cs with
      | [] => ""
      | [c] => String.ofList (c :: 'e' :: mark :: padded)
      | c :: cs => String.ofList (c :: '.' :: cs ++ 'e' :: mark :: padded)

end Pseudoword.Binary64
