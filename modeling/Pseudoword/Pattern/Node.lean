import Pseudoword.Pattern.Class
import Pseudoword.Pattern.Greed

/-! # Patterns

The structure of a pattern after it has been read: tests of single characters and conditions on the
place between two of them, joined in sequence, by choice and by repetition. Capturing groups are
numbered from one.

* `Pattern.Width` — the fewest and the most characters that a pattern takes.
* `Pattern.Node` — a pattern.
* `Pattern.Sized` — a pattern with its width, and how patterns are put together.
* `Node.single?` — the test of a pattern that takes one character and nothing else.
* `Pattern.Front`, `Node.front` — what can be told of a pattern by the next character.
-/

namespace Pseudoword.Pattern

/-! ## Widths -/

/-- The fewest and the most characters that a pattern takes. -/
structure Width where
  /-- The fewest characters. -/
  least : Nat
  /-- The most characters, if there is a limit. -/
  most : Option Nat
  deriving DecidableEq, Repr

namespace Width

/-- The width of the empty text. -/
def zero : Width := ⟨0, some 0⟩

/-- The width of one character. -/
def one : Width := ⟨1, some 1⟩

/-- The width of a sequence. -/
def add (v w : Width) : Width :=
  ⟨v.least + w.least, do return (← v.most) + (← w.most)⟩

/-- The width of a choice. -/
def either (v w : Width) : Width :=
  ⟨min v.least w.least, do return max (← v.most) (← w.most)⟩

/-- The width of a repetition. What takes no characters takes none however often it is repeated, and
neither does what is never repeated. -/
def times (w : Width) (least : Nat) (most : Option Nat) : Width :=
  let isNone := w.most == some 0 || most == some 0
  ⟨w.least * least, if isNone then some 0 else do return (← w.most) * (← most)⟩

end Width

/-! ## Structure -/

/-- A condition on a place in a text. -/
inductive Anchor where
  /-- The start of the text, or of a line. -/
  | lineStart
  /-- The end of the text, the place before a final line feed, or the end of a line. -/
  | lineEnd
  /-- The start of the text. -/
  | textStart
  /-- The end of the text. -/
  | textEnd
  /-- Between a word character and another character or an end. -/
  | boundary
  /-- Between two word characters, or beside none. -/
  | inside
  deriving DecidableEq, Repr

/-- A pattern. -/
inductive Node where
  /-- The empty text. -/
  | empty
  /-- One character that passes a test. -/
  | single (mode : Mode) (test : Test)
  /-- A condition on the place. -/
  | anchor (mode : Mode) (condition : Anchor)
  /-- One pattern after another. -/
  | sequence (first second : Node)
  /-- The first of several patterns that matches. -/
  | choice (branches : List Node)
  /-- A group with flags of its own. -/
  | scoped (body : Node)
  /-- A pattern whose text is remembered under a number. -/
  | capture (group : Nat) (body : Node)
  /-- A pattern that is not tried again once it has matched. -/
  | atomic (body : Node)
  /-- A pattern that matches, or does not, from here on. -/
  | lookAhead (negated : Bool) (body : Node)
  /-- A pattern of the given width that matches, or does not, so many characters before this place. -/
  | lookBehind (negated : Bool) (width : Width) (body : Node)
  /-- The text that a group has remembered. -/
  | recall (mode : Mode) (group : Nat)
  /-- The first pattern if a group has remembered a text, or else the second. -/
  | conditional (group : Nat) (present absent : Node)
  /-- A pattern repeated between two numbers of times, or without an upper limit. -/
  | repeated (greed : Greed) (least : Nat) (most : Option Nat) (body : Node)
  deriving Repr

/-- A pattern with its width. -/
structure Sized where
  /-- The pattern. -/
  node : Node
  /-- How many characters it takes. -/
  width : Width
  deriving Repr

namespace Sized

/-- The empty text. -/
def empty : Sized := ⟨.empty, .zero⟩

/-- Patterns one after another. -/
def ofSequence : List Sized → Sized
  | [] => empty
  | [p] => p
  | p :: ps =>
    let rest := ofSequence ps
    ⟨.sequence p.node rest.node, p.width.add rest.width⟩

/-- The first of several patterns that matches. -/
def ofChoice (branches : List Sized) : Sized :=
  let widths := branches.map Sized.width
  ⟨.choice (branches.map Sized.node), widths.tail.foldl Width.either (widths.headD .zero)⟩

end Sized

/-! ## What the next character tells -/

/-- The test of a pattern that takes one character and nothing else. -/
def Node.single? : Node → Option (Mode × Test)
  | .single mode test => some (mode, test)
  | .scoped body => body.single?
  | _ => none

/-- What can be told of a pattern by the next character. -/
inductive Front where
  /-- The pattern is empty, so that what follows it decides. -/
  | through
  /-- The character has to pass a test. -/
  | test (mode : Mode) (test : Test)
  /-- Nothing. -/
  | hidden
  deriving DecidableEq, Repr

/-- What can be told of a pattern that something else follows. -/
def Front.followedBy : Front → Front → Front
  | .through, next => next
  | front, _ => front

/-- What can be told of a pattern by the next character. -/
def Node.front : Node → Front
  | .empty => .through
  | .single mode test => if test.isExact mode then .test mode test else .hidden
  | .sequence first second => first.front.followedBy second.front
  | .scoped body => body.front
  | _ => .hidden

/-- Whether the next character shows that a pattern cannot match. -/
def Front.excludes (next : Option Char) : Front → Bool
  | .test mode check => !next.any (check.accepts mode)
  | _ => false

/-- Whether the next character is not the one that a pattern starts with, if that is a single one. -/
def Front.excludesLetter (next : Option Char) : Front → Bool
  | .test mode (.literal code negated) => !next.any ((Test.literal code negated).accepts mode)
  | _ => false

end Pseudoword.Pattern
