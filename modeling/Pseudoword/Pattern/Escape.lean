import Pseudoword.Pattern.Class
import Pseudoword.Pattern.Node
import Pseudoword.Pattern.Token
import Pseudoword.Text.CharacterName

/-! # Escapes of a pattern

What a backslash and the character after it stand for, outside and inside a character class: a
control character, a category, a place, a code point by number or name, an earlier group, or the
character itself. Letters without a meaning are refused.

* `Pattern.readEscape` — an escape outside a class.
* `Pattern.readClassEscape` — an escape inside a class.
-/

namespace Pseudoword.Pattern

/-- What an escape outside a class stands for. -/
inductive Escape where
  /-- A code point. -/
  | literal (code : Nat)
  /-- A category of characters, or everything outside it. -/
  | category (kind : Category) (negated : Bool)
  /-- A condition on the place. -/
  | anchor (condition : Anchor)
  /-- The text of a group. -/
  | recall (group : Nat)
  deriving DecidableEq, Repr

/-- Whether a character is an octal digit. -/
def isOctal (c : Char) : Bool :=
  '0' ≤ c && c ≤ '7'

/-- Whether a character is a hexadecimal digit. -/
def isHex (c : Char) : Bool :=
  c.isDigit || ('a' ≤ c && c ≤ 'f') || ('A' ≤ c && c ≤ 'F')

/-- The value of a hexadecimal digit. -/
def hexValue (c : Char) : Nat :=
  if c.isDigit then c.toNat - '0'.toNat else c.toLower.toNat - 'a'.toNat + 10

/-- The number that digits spell in a base. -/
def numeral (base : Nat) (cs : List Char) : Nat :=
  cs.foldl (fun n c => base * n + hexValue c) 0

/-- The control characters that have an escape outside a class. -/
def controlCode? : Char → Option Nat
  | 'a' => some 0x07
  | 'f' => some 0x0C
  | 'n' => some 0x0A
  | 'r' => some 0x0D
  | 't' => some 0x09
  | 'v' => some 0x0B
  | '\\' => some 0x5C
  | _ => none

/-- The categories that have an escape. -/
def category? : Char → Option (Category × Bool)
  | 'd' => some (.digit, false)
  | 'D' => some (.digit, true)
  | 's' => some (.space, false)
  | 'S' => some (.space, true)
  | 'w' => some (.word, false)
  | 'W' => some (.word, true)
  | _ => none

/-- The places that have an escape. -/
def anchor? : Char → Option Anchor
  | 'A' => some .textStart
  | 'b' => some .boundary
  | 'B' => some .inside
  | 'Z' => some .textEnd
  | _ => none

/-- The text of an escape with the characters after its letter. -/
def escapeText (c : Char) (more : List Char) : String :=
  String.ofList ('\\' :: c :: more)

/-- How many hexadecimal digits an escape by number takes. -/
def hexLength? : Char → Option Nat
  | 'x' => some 2
  | 'u' => some 4
  | 'U' => some 8
  | _ => none

/-- Read the digits of an escape by number that has all of them. -/
def readHex (start : Nat) (c : Char) (length : Nat) (ts : List Token) :
    Reading (Nat × List Token) := do
  let (digits, ts) ← takeWhile isHex length ts
  if digits.length ≠ length then fail (.incompleteEscape (escapeText c digits)) start
  else
    let code := numeral 16 digits
    if 0x10FFFF < code then fail (.badEscape (escapeText c digits)) start
    else return (code, ts)

/-- Read an escape for a character by its name. -/
def readNamed (start : Nat) (ts : List Token) : Reading (Nat × List Token) := do
  match ← accept '\x7b' ts with
  | none => fail .missingBrace (position ts)
  | some ts =>
    let (name, ts) ← takeName '\x7d' "character name" ts
    match Text.CharacterName.code? name with
    | some code => return (code, ts)
    | none => fail (.unknownCharacter name) start

/-- Refuse an octal escape that is too large. -/
def octalCode (start : Nat) (c : Char) (more : List Char) : Reading Nat :=
  let code := numeral 8 (c :: more)
  if 0o377 < code then fail (.octalTooLarge (escapeText c more)) start else .ok code

/-- What the group references of an escape may refer to. -/
structure Groups where
  /-- The widths of the groups so far, none for a group that is still open. -/
  widths : Array (Option Width)
  /-- The number of the first group inside the outermost look-behind that is open. -/
  lookBehind : Option Nat

namespace Groups

/-- Whether a group has been closed. -/
def isClosed (groups : Groups) (group : Nat) : Bool :=
  match groups.widths[group - 1]? with
  | some (some _) => true
  | _ => false

/-- The width of a group. -/
def width (groups : Groups) (group : Nat) : Width :=
  match groups.widths[group - 1]? with
  | some (some width) => width
  | _ => .zero

/-- Refuse a reference from a look-behind to a group that stands in it, or that is open. -/
def refuseLookBehind (groups : Groups) (group : Nat) (position : Nat) : Reading Unit :=
  match groups.lookBehind with
  | none => .ok ()
  | some first =>
    if !groups.isClosed group then fail .openReference position
    else if first ≤ group then fail .lookBehindReference position
    else .ok ()

end Groups

/-- Read a reference to a group by number, or an octal escape of three digits. -/
def readNumbered (groups : Groups) (start : Nat) (c : Char) (ts : List Token) :
    Reading (Escape × List Token) := do
  let (more, rest) ← takeWhile Char.isDigit 1 ts
  let third : List Char × List Token ←
    if isOctal c && more.all isOctal && !more.isEmpty then takeWhile isOctal 1 rest
    else pure ([], rest)
  if third.1.isEmpty then
    let group := numeral 10 (c :: more)
    if groups.widths.size < group then fail (.invalidReference group) (start + 1)
    else if !groups.isClosed group then fail .openReference start
    else
      groups.refuseLookBehind group (position rest)
      return (.recall group, rest)
  else return (.literal (← octalCode start c (more ++ third.1)), third.2)

/-- Read an escape outside a class, after its first two characters. -/
def readEscape (groups : Groups) (start : Nat) (c : Char) (ts : List Token) :
    Reading (Escape × List Token) := do
  if let some (kind, negated) := category? c then return (.category kind negated, ts)
  else if let some condition := anchor? c then return (.anchor condition, ts)
  else if let some code := controlCode? c then return (.literal code, ts)
  else if let some length := hexLength? c then
    let (code, ts) ← readHex start c length ts
    return (.literal code, ts)
  else if c == 'N' then
    let (code, ts) ← readNamed start ts
    return (.literal code, ts)
  else if c == '0' then
    let (more, ts) ← takeWhile isOctal 2 ts
    return (.literal (numeral 8 more), ts)
  else if c.isDigit then readNumbered groups start c ts
  else if c.isAlpha then fail (.badEscape (escapeText c [])) start
  else return (.literal c.toNat, ts)

/-- Read an escape inside a class, after its first two characters. -/
def readClassEscape (start : Nat) (c : Char) (ts : List Token) :
    Reading (Member × List Token) := do
  if let some (kind, negated) := category? c then return (.category kind negated, ts)
  else if let some code := controlCode? c then return (.literal code, ts)
  else if c == 'b' then return (.literal 0x08, ts)
  else if let some length := hexLength? c then
    let (code, ts) ← readHex start c length ts
    return (.literal code, ts)
  else if c == 'N' then
    let (code, ts) ← readNamed start ts
    return (.literal code, ts)
  else if isOctal c then
    let (more, ts) ← takeWhile isOctal 2 ts
    return (.literal (← octalCode start c more), ts)
  else if c.isAlphanum then fail (.badEscape (escapeText c [])) start
  else return (.literal c.toNat, ts)

end Pseudoword.Pattern
