import Pseudoword.Pattern.Token
import Pseudoword.Text.Letter

/-! # Flags of a pattern

The letters between an opening parenthesis with a question mark and the character that ends them:
flags to turn on, perhaps a minus sign and flags to turn off. A closing parenthesis right after the
first kind makes them hold for the whole pattern.

* `Pattern.FlagChange` — what the letters ask for.
* `Pattern.readFlags` — reading them.
-/

namespace Pseudoword.Pattern

/-- What a group of flags asks for. -/
inductive FlagChange where
  /-- Turn flags on for the whole pattern. -/
  | everywhere (added : List Char)
  /-- Turn flags on and off inside a group. -/
  | inside (added removed : List Char)
  deriving DecidableEq, Repr

/-- Whether a character is the letter of a flag. -/
def isFlag (c : Char) : Bool :=
  ['i', 'L', 'm', 's', 'x', 'a', 't', 'u'].contains c

/-- Whether a flag chooses a character set. -/
def isCharacterSet (c : Char) : Bool :=
  c == 'a' || c == 'L' || c == 'u'

/-- Whether a flag can only be given for whole patterns. -/
def isGlobalFlag (c : Char) : Bool :=
  c == 't'

/-- The fault of a token that is neither a flag nor the end of the flags: an unknown flag if it is a
letter. -/
def flagFault (t : Token) (otherwise : Fault) : Fault :=
  match t.kind with
  | .plain c => if Text.isLetter c then .unknownFlag else otherwise
  | _ => otherwise

/-- Read flags to turn on, after the letter `c`, up to the character that ends them. -/
def readAdded (added : List Char) (c : Char) :
    List Token → Reading (List Char × Char × List Token)
  | [] => .ok (added, c, [])
  | t :: rest => do
    if c == 'L' then fail .localeFlag t.start
    let added := c :: added
    if isCharacterSet c && added.any fun d => isCharacterSet d && d != c then
      fail .incompatibleFlags t.start
    match t.kind with
    | .stop => fail .missingFlagEnd t.start
    | .plain d =>
      refuseDangling rest
      if d == ')' || d == '-' || d == ':' then return (added, d, rest)
      else if isFlag d then readAdded added d rest
      else fail (flagFault t .missingFlagEnd) t.start
    | _ =>
      refuseDangling rest
      fail .missingFlagEnd t.start

/-- Read flags to turn off, after the letter `c`, up to the colon that ends them. -/
def readRemoved (removed : List Char) (c : Char) : List Token → Reading (List Char × List Token)
  | [] => .ok (removed, [])
  | t :: rest => do
    if isCharacterSet c then fail .characterSetOff t.start
    let removed := c :: removed
    match t.kind with
    | .stop => fail .missingColon t.start
    | .plain d =>
      refuseDangling rest
      if d == ':' then return (removed, rest)
      else if isFlag d then readRemoved removed d rest
      else fail (flagFault t .missingColon) t.start
    | _ =>
      refuseDangling rest
      fail .missingColon t.start

/-- Read the first flag to turn off and those after it. -/
def readMinus (ts : List Token) : Reading (List Char × List Token) := do
  match ts with
  | [] => return ([], [])
  | t :: _ =>
    match t.kind with
    | .stop => fail .missingFlag t.start
    | .plain d =>
      let rest ← advance ts
      if isFlag d then readRemoved [] d rest
      else fail (flagFault t .missingFlag) t.start
    | _ =>
      let _ ← advance ts
      fail .missingFlag t.start

/-- Read flags after their first character, a letter or the minus sign. -/
def readFlags (c : Char) (ts : List Token) : Reading (FlagChange × List Token) := do
  let (added, ending, ts) ← if c == '-' then pure ([], '-', ts) else readAdded [] c ts
  if ending == ')' then return (.everywhere added, ts)
  if added.any isGlobalFlag then fail .globalFlagOn (position ts - 1)
  let (removed, ts) ← if ending == '-' then readMinus ts else pure ([], ts)
  if removed.any isGlobalFlag then fail .globalFlagOff (position ts - 1)
  if added.any removed.contains then fail .contradictoryFlags (position ts - 1)
  return (.inside added removed, ts)

end Pseudoword.Pattern
