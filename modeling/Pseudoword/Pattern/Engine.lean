import Pseudoword.Pattern.Node
import Pseudoword.Pattern.Trail

/-! # Engines

Not every program that patterns run on treats them alike. Some end a possessive repetition where its
last successful round ended, as its description has it, and others where the round that failed gave
up. Widths are counted up to limits of their own, and how deeply a pattern may be nested depends on the
room that there is for reading it.

* `Pattern.Engine` — what may differ from one such program to another.
* `Engine.least`, `Engine.most` — the width of a pattern as it is counted.
* `Engine.afterFailure` — the trail after a round that has failed and ends a possessive repetition.
-/

namespace Pseudoword.Pattern

/-- What may differ from one program that patterns run on to another. -/
structure Engine where
  /-- Whether the place that a failed round has reached is taken back. -/
  takesBack : Bool
  /-- Where the fewest characters of a pattern are cut off. -/
  leastLimit : Nat
  /-- Where the most characters of a pattern are cut off. -/
  mostLimit : Nat
  /-- The number of characters that no look-behind can take. -/
  lookBehindLimit : Nat
  /-- Whether a text is nested too deeply to be read as a pattern. -/
  isTooDeep : String → Bool

namespace Engine

/-- The engine that does as patterns are described, with any amount of room. -/
def standard : Engine :=
  ⟨true, 0x10000000000000000, 0x10000000000000000, 0x100000000, fun _ => false⟩

variable (engine : Engine)

/-- The fewest characters of a pattern, as they are counted. -/
def least (width : Width) : Nat :=
  min width.least engine.leastLimit

/-- The most characters of a pattern, as they are counted. -/
def most (width : Width) : Nat :=
  width.most.elim engine.mostLimit (min · engine.mostLimit)

/-- The trail after a round that has failed and ends a possessive repetition. Its marks are taken back
in any case. -/
def afterFailure (before failed : Trail) : Trail :=
  if engine.takesBack then before else { failed with marks := before.marks }

end Engine
end Pseudoword.Pattern
