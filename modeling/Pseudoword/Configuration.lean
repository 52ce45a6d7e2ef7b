import Pseudoword.Alphabet
import Pseudoword.Random.Seed

/-! # Configurations

What a generator is built from: an alphabet, the order of its contexts, a seed, and how many attempts
at one word are worth a warning. The values are kept as they are found and looked at when they are
needed.

* `Configuration` — the four values, and the ones that stand in for them.
* `Configuration.order?`, `Configuration.isSlow?` — what the values mean.
* `Configuration.Overrides` — values that take precedence.
-/

namespace Pseudoword

/-- What a generator is built from. -/
structure Configuration where
  /-- The letters. -/
  alphabet : Setting
  /-- The order of contexts. -/
  order : Setting
  /-- The seed of the random source. -/
  seed : Setting
  /-- How many attempts at one word pass without a warning. -/
  patience : Setting
  deriving Repr

namespace Configuration

/-- The values that stand in for missing ones. -/
def standard : Configuration :=
  ⟨.string "ABCDEFGHIJKLMNOPQRSTUVWXYZ", .integer 2, .null, .integer 1000⟩

instance : Inhabited Configuration := ⟨standard⟩

/-- The order that a value gives, which has to be a positive integer. -/
def order? : Setting → Option { n : Nat // 0 < n }
  | .integer n => if h : 0 < n then some ⟨n.toNat, by omega⟩ else none
  | _ => none

/-- Whether a number of attempts is more than a value, if the value can be compared with numbers. -/
def isSlow? (attempts : Nat) : Setting → Option Bool
  | .boolean value => some (decide ((if value then 1 else 0) < attempts))
  | .integer value => some (decide (value < attempts))
  | .real negative size =>
    some (if negative then decide (0 < attempts) || size != Binary64.zero
      else decide (size < Binary64.infinity) && decide (size.units < attempts * Binary64.resolution))
  | _ => none

/-- Values that take precedence over those of a configuration. -/
structure Overrides where
  /-- The letters. -/
  alphabet : Setting := .null
  /-- The order of contexts. -/
  order : Setting := .null
  /-- The seed of the random source. -/
  seed : Setting := .null
  /-- How many attempts at one word pass without a warning. -/
  patience : Setting := .null

/-- A value, unless there is another one that takes precedence. -/
def prefer (value : Setting) : Setting → Setting
  | .null => value
  | other => other

/-- A configuration with the values that take precedence. -/
def override (c : Configuration) (o : Overrides) : Configuration :=
  ⟨prefer c.alphabet o.alphabet, prefer c.order o.order, prefer c.seed o.seed,
    prefer c.patience o.patience⟩

end Configuration
end Pseudoword
