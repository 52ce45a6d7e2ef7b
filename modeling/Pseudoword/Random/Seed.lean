import Pseudoword.Random.Mersenne
import Pseudoword.Random.Sha512
import Pseudoword.Setting
import Pseudoword.Text.Utf8

/-! # Seeds

A random source is seeded with a natural number, and most values make such a number. An integer gives
its size, a number with a fraction its residue modulo a Mersenne prime, and a text its bytes followed
by their digest.

* `Seed` — a number, or none so that the source may start anywhere.
* `Seed.ofSetting?` — the seed that a value makes.
-/

namespace Pseudoword

/-- What a random source starts from. -/
inductive Seed where
  /-- Anything. -/
  | any
  /-- The number. -/
  | number (value : Nat)
  deriving DecidableEq, Repr

namespace Seed

/-- The modulus for numbers with a fraction. -/
def modulus : Nat := Nat.pow 2 61 - 1

/-- The residue of a number. The smallest positive number is `2 ^ (-1074)`, whose residue is that of
`2 ^ 24`, because the exponents differ by a multiple of 61. -/
def residue (size : Binary64) : Nat :=
  if size = Binary64.infinity then 314159 else size.units * Nat.pow 2 24 % modulus

/-- The number that a number with a fraction makes. A negative residue counts from `2 ^ 64` down, and
stays away from one below. -/
def ofReal (negative : Bool) (size : Binary64) : Nat :=
  let r := residue size
  if !negative || r == 0 then r
  else if r = 1 then Nat.pow 2 64 - 2
  else Nat.pow 2 64 - r

/-- The number whose digits in base 256 are the given bytes, the highest first. -/
def ofBytes (bytes : List UInt8) : Nat :=
  bytes.foldl (fun value b => value * 256 + b.toNat) 0

/-- The number that a text makes. -/
def ofText (s : String) : Nat :=
  let bytes := Text.Utf8.encode s
  ofBytes (bytes ++ Sha512.digest bytes)

/-- The seed that a value makes; sequences and tables make none. -/
def ofSetting? : Setting → Option Seed
  | .null => some .any
  | .boolean value => some (.number (if value then 1 else 0))
  | .integer value => some (.number value.natAbs)
  | .real negative size => some (.number (ofReal negative size))
  | .string value => some (.number (ofText value))
  | .list _ => none
  | .table _ => none

/-- The random source that starts from a seed, or from another number if the seed is open. -/
def source (seed : Seed) (otherwise : Nat) : Mersenne :=
  match seed with
  | .any => .ofSeed otherwise
  | .number value => .ofSeed value

end Seed
end Pseudoword
