import Pseudoword.Pattern.Escape
import Pseudoword.Pattern.Flags
import Pseudoword.Pattern.Restriction
import Pseudoword.Text.Identifier
import Pseudoword.Text.Integer

/-! # Reading patterns

A pattern is read from left to right with a stack of the groups that are open. Each open group keeps
the branches that are complete and the items of the branch at hand; an operator of repetition takes
back the last item, a bar ends a branch, and a closing parenthesis makes the group an item of the
group around it. The first fault met is the one reported. Only what concerns the pattern as a whole
is checked at its end: the two character sets, numbered conditions on groups that do not exist, and
the restrictions on patterns.

Branches of a choice that start with the same steps share them, and branches that are classes of
characters make up one class.

* `Pattern.Reader`, `Reader.step` — the state of reading, and what one token does to it.
* `Pattern.read?` — the pattern that a text spells.
-/

namespace Pseudoword.Pattern

/-- What an operator of repetition may do with an item. -/
inductive Role where
  /-- It may be repeated. -/
  | ordinary
  /-- It takes no character, and repeating it is refused. -/
  | place
  /-- It is a repetition already. -/
  | repetition
  deriving DecidableEq, Repr

/-- A part of a branch, as an operator of repetition sees it. -/
structure Item where
  /-- The patterns that it adds to the branch: several if it is a group for structure only. -/
  parts : List Sized
  /-- What may be done with it. -/
  role : Role
  deriving Repr

/-- What an open group will be. -/
inductive Opening where
  /-- The whole pattern. -/
  | whole
  /-- A capturing group. -/
  | capture (group : Nat)
  /-- A group for structure only. -/
  | plain
  /-- A group with flags of its own. -/
  | scoped
  /-- An atomic group. -/
  | atomic
  /-- A look-ahead. -/
  | lookAhead (negated : Bool)
  /-- A look-behind, which is the outermost one or stands in another. -/
  | lookBehind (negated outermost : Bool)
  /-- A condition on a group, with the first branch once that is complete. -/
  | conditional (group : Nat) (present : Option Sized)
  deriving Repr

/-- A group that is open. -/
structure Level where
  /-- What it will be. -/
  opening : Opening
  /-- The position of its parenthesis. -/
  start : Nat
  /-- The flags in force. -/
  mode : Mode
  /-- The branches that are complete, the last one first. -/
  branches : List (List Sized) := []
  /-- The items of the branch at hand, the last one first. -/
  items : List Item := []
  deriving Repr

/-! ## Branches -/

/-- Whether two patterns are the same step: the same test, the same condition on the place, or the
text of the same group. -/
def Node.isSameStep : Node → Node → Bool
  | .single mode test, .single mode' test' => mode == mode' && test == test'
  | .anchor mode condition, .anchor mode' condition' => mode == mode' && condition == condition'
  | .recall mode group, .recall mode' group' => mode == mode' && group == group'
  | _, _ => false

/-- Split off the steps that several branches have in common at their start. -/
def splitShared : List Sized → List (List Sized) → List Sized × List (List Sized)
  | p :: first, others =>
    if others.all fun branch => branch.head?.any (p.node.isSameStep ·.node) then
      let (shared, rest) := splitShared first (others.map List.tail)
      (p :: shared, rest)
    else ([], (p :: first) :: others)
  | [], others => ([], [] :: others)

/-- The members of the class that a branch is, if it is one. -/
def classMembers? : List Sized → Option (Mode × List Member)
  | [⟨.single mode (.literal code false), _⟩] => some (mode, [.literal code])
  | [⟨.single mode (.oneOf members false _), _⟩] => some (mode, members)
  | _ => none

/-- A class from its members. -/
def oneOf (mode : Mode) (negated : Bool) (members : List Member) : Test :=
  let distinct := members.eraseDups
  .oneOf distinct negated (distinct.any (Member.isCased mode))

/-- The choice between branches that have no step in common. If all of them are classes, they make up
a class. -/
def chooseAmong (branches : List (List Sized)) : Sized :=
  match branches.mapM classMembers? with
  | some ((mode, first) :: others) =>
    ⟨.single mode (oneOf mode false (first ++ others.flatMap Prod.snd)), .one⟩
  | _ => .ofChoice (branches.map Sized.ofSequence)

/-- The choice between branches, with the steps in common before it. -/
def choose (branches : List (List Sized)) : List Sized :=
  match branches with
  | [] => []
  | [branch] => branch
  | first :: others =>
    let (shared, rest) := splitShared first others
    shared ++ [chooseAmong rest]

namespace Level

/-- The branch at hand. -/
def branch (level : Level) : List Sized :=
  level.items.reverse.flatMap Item.parts

/-- The choice between all branches. -/
def body (level : Level) : List Sized :=
  choose (level.branches.reverse ++ [level.branch])

/-- Add an item to the branch at hand. -/
def push (level : Level) (parts : List Sized) (role : Role := .ordinary) : Level :=
  { level with items := ⟨parts, role⟩ :: level.items }

end Level

/-- The state of reading. -/
structure Reader where
  /-- The innermost open group. -/
  level : Level
  /-- The groups around it, the innermost first. -/
  outer : List Level := []
  /-- The capturing groups so far. -/
  groups : Groups := ⟨#[], none⟩
  /-- The names of groups. -/
  names : List (String × Nat) := []
  /-- The numbers that conditions refer to, with their positions, the last one first. -/
  conditions : List (Nat × Nat) := []
  /-- The flags given for the whole pattern. -/
  flags : List Char := []

namespace Reader

/-- Add an item to the innermost group. -/
def push (r : Reader) (part : Sized) (role : Role := .ordinary) : Reader :=
  { r with level := r.level.push [part] role }

/-- Add a test of one character. -/
def pushTest (r : Reader) (test : Test) : Reader :=
  r.push ⟨.single r.level.mode test, .one⟩

/-- Add a condition on the place. -/
def pushAnchor (r : Reader) (condition : Anchor) : Reader :=
  r.push ⟨.anchor r.level.mode condition, .zero⟩ .place

/-- Add a reference to a group. -/
def pushRecall (r : Reader) (group : Nat) : Reader :=
  r.push ⟨.recall r.level.mode group, r.groups.width group⟩

/-- Open a group inside the innermost one. -/
def openGroup (r : Reader) (opening : Opening) (start : Nat) (mode : Mode := r.level.mode) : Reader :=
  { r with level := ⟨opening, start, mode, [], []⟩, outer := r.level :: r.outer }

end Reader

/-! ## Classes -/

/-- The test for the members of a class. A single code point is no class. -/
def classTest (mode : Mode) (negated : Bool) (members : List Member) : Test :=
  match members.eraseDups with
  | [.literal code] => .literal code negated
  | _ => oneOf mode negated members

/-- Read a member of a class that starts with a token. -/
def readMember (t : Token) (rest : List Token) : Reading (Member × List Token) :=
  match t.kind with
  | .escaped c => readClassEscape t.start c rest
  | .plain c => .ok (.literal c.toNat, rest)
  | _ => .ok (.literal 0, rest)

/-- Refuse a range with the ends that two tokens name. -/
def badRange {α : Type} (first last : Token) (ts : List Token) : Reading α :=
  fail (.badRange (first.text ++ "-" ++ last.text))
    (position ts - (first.chars.length + 1 + last.chars.length))

/-- Read the members of a class that opens at a position, up to its closing bracket. A bracket in
first place is a member. Every member takes a token, so the number of tokens is enough fuel. -/
def readMembers : Nat → Nat → List Member → List Token → Reading (List Member × List Token)
  | 0, start, _, _ => fail .unterminatedClass start
  | fuel + 1, start, members, ts => do
    let t :: _ := ts | fail .unterminatedClass start
    if t.kind == .stop then fail .unterminatedClass start
    let rest ← advance ts
    if t.is ']' && !members.isEmpty then return (members, rest)
    let (member, rest) ← readMember t rest
    match ← accept '-' rest with
    | none => readMembers fuel start (member :: members) rest
    | some rest =>
      let u :: _ := rest | fail .unterminatedClass start
      if u.kind == .stop then fail .unterminatedClass start
      let after ← advance rest
      if u.is ']' then return (.literal '-'.toNat :: member :: members, after)
      let (last, after) ← readMember u after
      match member, last with
      | .literal low, .literal high =>
        if high < low then badRange t u after
        else readMembers fuel start (.range low high :: members) after
      | _, _ => badRange t u after

/-- Read a class after its opening bracket. -/
def readClass (r : Reader) (start : Nat) (ts : List Token) : Reading (Reader × List Token) := do
  let (negated, ts) ←
    match ← accept '^' ts with
    | some ts => pure (true, ts)
    | none => pure (false, ts)
  let (members, ts) ← readMembers ts.length start [] ts
  return (r.pushTest (classTest r.level.mode negated members.reverse), ts)

/-! ## Repetitions -/

/-- The largest limit of a repetition, plus one. -/
def repetitionLimit : Nat := Nat.pow 2 32 - 1

/-- The limit that digits spell, if there are any. -/
def readBound (digits : List Char) : Reading (Option Nat) := do
  if digits.isEmpty then return none
  if Text.maxIntegerDigits < digits.length then throw (.tooManyDigits digits.length)
  let bound := numeral 10 digits
  if repetitionLimit ≤ bound then throw .repetitionTooLarge
  return some bound

/-- The limits that braces give to a repetition, and the tokens after them. -/
structure Limits where
  /-- The fewest times. -/
  least : Nat
  /-- The most times. -/
  most : Option Nat
  /-- The tokens after the closing brace. -/
  rest : List Token

/-- Read the limits of a repetition after an opening brace. Without them the brace stands for
itself. -/
def readLimits? (ts : List Token) : Reading (Option Limits) := do
  if (← accept '\x7d' ts).isSome then return none
  let (low, rest) ← takeAll Char.isDigit ts
  let (high, rest) ←
    match ← accept ',' rest with
    | some rest => takeAll Char.isDigit rest
    | none => pure (low, rest)
  match ← accept '\x7d' rest with
  | none => return none
  | some rest =>
    let least := (← readBound low).getD 0
    let most ← readBound high
    if most.any (· < least) then fail .reversedRepeat (position ts)
    return some ⟨least, most, rest⟩

/-- Repeat the last item of the branch at hand. A question mark makes the repetition lazy and a plus
sign makes it possessive. -/
def repeatLast (r : Reader) (start least : Nat) (most : Option Nat) (ts : List Token) :
    Reading (Reader × List Token) := do
  match r.level.items with
  | [] => fail .nothingToRepeat start
  | ⟨parts, role⟩ :: items =>
    if role == .place then fail .nothingToRepeat start
    if role == .repetition then fail .multipleRepeat start
    let (greed, ts) ←
      match ← accept '?' ts with
      | some ts => pure (Greed.lazy, ts)
      | none =>
        match ← accept '+' ts with
        | some ts => pure (.possessive, ts)
        | none => pure (.greedy, ts)
    let body := Sized.ofSequence parts
    let repeated : Sized := ⟨.repeated greed least most body.node, body.width.times least most⟩
    return ({ r with level := { r.level with items := ⟨[repeated], .repetition⟩ :: items } }, ts)

/-! ## Groups -/

/-- Refuse a group's name that is no identifier. -/
def refuseName (name : String) (start : Nat) : Reading Unit :=
  if Text.isIdentifier name then .ok () else fail (.badGroupName name) start

/-- Open a capturing group, perhaps with a name that starts at a position. -/
def openCapture (r : Reader) (start : Nat) (name? : Option (String × Nat)) : Reading Reader := do
  let group := r.groups.widths.size + 1
  let r := { r with groups := { r.groups with widths := r.groups.widths.push none } }
  match name? with
  | none => return r.openGroup (.capture group) start
  | some (name, place) =>
    match r.names.lookup name with
    | some earlier => fail (.redefinedGroup name group earlier) place
    | none => return { r with names := (name, group) :: r.names }.openGroup (.capture group) start

/-- Read a named group or a reference to one, after the letter that introduces both. -/
def readNamedGroup (r : Reader) (start : Nat) (ts : List Token) :
    Reading (Reader × List Token) := do
  if let some ts ← accept '<' ts then
    let (name, rest) ← takeName '>' "group name" ts
    refuseName name (position ts)
    return (← openCapture r start (some (name, position ts)), rest)
  else if let some ts ← accept '=' ts then
    let (name, rest) ← takeName ')' "group name" ts
    refuseName name (position ts)
    match r.names.lookup name with
    | none => fail (.unknownGroup name) (position ts)
    | some group =>
      if !r.groups.isClosed group then fail .openReference (position ts)
      r.groups.refuseLookBehind group (position rest)
      return (r.pushRecall group, rest)
  else
    let t :: _ := ts | fail .unexpectedEnd start
    let rest ← advance ts
    if t.kind == .stop then fail .unexpectedEnd t.start
    else fail (.unknownExtension ("P" ++ t.text)) (position rest - t.chars.length - 2)

/-- Drop a comment that opens at a position, up to its closing parenthesis. -/
def skipComment (start : Nat) : List Token → Reading (List Token)
  | [] => .ok []
  | t :: rest =>
    if t.kind == .stop then fail .unterminatedComment start
    else do
      refuseDangling rest
      if t.is ')' then return rest else skipComment start rest

/-- Open a look-behind after the character that introduces it. -/
def readLookBehind (r : Reader) (start : Nat) (ts : List Token) :
    Reading (Reader × List Token) := do
  let t :: _ := ts | fail .unexpectedEnd start
  let rest ← advance ts
  if t.kind == .stop then fail .unexpectedEnd t.start
  if !t.is '=' && !t.is '!' then
    fail (.unknownExtension ("<" ++ t.text)) (position rest - t.chars.length - 2)
  let outermost := r.groups.lookBehind.isNone
  let groups :=
    if outermost then { r.groups with lookBehind := some (r.groups.widths.size + 1) } else r.groups
  return ({ r with groups }.openGroup (.lookBehind (t.is '!') outermost) start, rest)

/-- The largest number that a condition may refer to, plus one. -/
def groupLimit : Nat := Nat.pow 2 30 - 1

/-- Open a condition on a group, given by number or name. -/
def readConditional (r : Reader) (start : Nat) (ts : List Token) :
    Reading (Reader × List Token) := do
  let (name, rest) ← takeName ')' "group name" ts
  let place := position ts
  if Text.isIdentifier name then
    match r.names.lookup name with
    | none => fail (.unknownGroup name) place
    | some group =>
      r.groups.refuseLookBehind group (position rest)
      return (r.openGroup (.conditional group none) start, rest)
  else
    match Text.readInteger? name with
    | none => fail (.badGroupName name) place
    | some n =>
      if n < 0 then fail (.badGroupName name) place
      let group := n.toNat
      if group = 0 then fail .badGroupNumber place
      if groupLimit ≤ group then fail (.invalidReference group) place
      let r :=
        if (r.conditions.lookup group).isSome then r
        else { r with conditions := (group, place) :: r.conditions }
      r.groups.refuseLookBehind group (position rest)
      return (r.openGroup (.conditional group none) start, rest)

/-- Whether nothing has been read but flags and comments. -/
def Reader.isFresh (r : Reader) : Bool :=
  r.outer.isEmpty && r.level.branches.isEmpty && r.level.items.isEmpty

/-- Read flags after their first character, and open a group for them or set them for the whole
pattern. -/
def readFlagGroup (r : Reader) (start : Nat) (c : Char) (ts : List Token) :
    Reading (Reader × List Token) := do
  match ← readFlags c ts with
  | (.everywhere added, ts) =>
    if !r.isFresh then fail .globalFlagsInside start
    let level := { r.level with mode := r.level.mode.change added [] }
    return ({ r with level, flags := added ++ r.flags }, ts)
  | (.inside added removed, ts) =>
    return (r.openGroup .scoped start (r.level.mode.change added removed), ts)

/-- Open a group after its parenthesis. -/
def readGroup (r : Reader) (start : Nat) (ts : List Token) : Reading (Reader × List Token) := do
  match ← accept '?' ts with
  | none => return (← openCapture r start none, ts)
  | some ts =>
    let t :: _ := ts | fail .unexpectedEnd start
    let rest ← advance ts
    match t.kind with
    | .stop => fail .unexpectedEnd t.start
    | .plain 'P' => readNamedGroup r start rest
    | .plain ':' => return (r.openGroup .plain start, rest)
    | .plain '#' => return (r, ← skipComment start rest)
    | .plain '=' => return (r.openGroup (.lookAhead false) start, rest)
    | .plain '!' => return (r.openGroup (.lookAhead true) start, rest)
    | .plain '<' => readLookBehind r start rest
    | .plain '(' => readConditional r start rest
    | .plain '>' => return (r.openGroup .atomic start, rest)
    | .plain c =>
      if isFlag c || c == '-' then readFlagGroup r start c rest
      else fail (.unknownExtension t.text) (position rest - t.chars.length - 1)
    | _ => fail (.unknownExtension t.text) (position rest - t.chars.length - 1)

/-- Close the innermost group and make it an item of the group around it. -/
def Reader.close (r : Reader) (parent : Level) (outer : List Level) : Reader :=
  let level := r.level
  let parts := level.body
  let ⟨body, width⟩ := Sized.ofSequence parts
  let r := { r with level := parent, outer }
  match level.opening with
  | .whole => { r with level := parent.push parts }
  | .plain => { r with level := parent.push parts }
  | .scoped => r.push ⟨.scoped body, width⟩
  | .capture group =>
    let widths := r.groups.widths.setIfInBounds (group - 1) (some width)
    { r with groups := { r.groups with widths } }.push ⟨.capture group body, width⟩
  | .atomic => r.push ⟨.atomic body, width⟩
  | .lookAhead negated => r.push ⟨.lookAhead negated body, .zero⟩
  | .lookBehind negated outermost =>
    let r := if outermost then { r with groups := { r.groups with lookBehind := none } } else r
    r.push ⟨.lookBehind negated width body, .zero⟩
  | .conditional group none =>
    r.push ⟨.conditional group body .empty, ⟨0, width.most⟩⟩
  | .conditional group (some present) =>
    r.push ⟨.conditional group present.node body, present.width.either width⟩

/-! ## The whole pattern -/

/-- End a branch at a bar. -/
def endBranch (r : Reader) (start : Nat) (ts : List Token) : Reading (Reader × List Token) := do
  match r.level.opening with
  | .conditional _ (some _) => fail .tooManyBranches start
  | .conditional group none =>
    let opening := Opening.conditional group (some (.ofSequence r.level.branch))
    return ({ r with level := { r.level with opening, items := [] } }, ← advance ts)
  | _ =>
    let level := { r.level with branches := r.level.branch :: r.level.branches, items := [] }
    return ({ r with level }, ← advance ts)

/-- Whether a character is skipped when the flags ask for a verbose pattern. -/
def isLayout (c : Char) : Bool :=
  c == ' ' || (0x09 ≤ c.toNat && c.toNat ≤ 0x0D)

/-- Drop a comment of a verbose pattern, up to the end of its line. -/
def skipLine : List Token → Reading (List Token)
  | [] => .ok []
  | t :: rest =>
    if t.kind == .stop then .ok (t :: rest)
    else do
      refuseDangling rest
      if t.is '\n' then return rest else skipLine rest

/-- Add what an escape stands for. -/
def pushEscape (r : Reader) : Escape → Reader
  | .literal code => r.pushTest (.literal code false)
  | .category kind negated => r.pushTest (.oneOf [.category kind negated] false false)
  | .anchor condition => r.pushAnchor condition
  | .recall group => r.pushRecall group

/-- Read on after a plain character that neither ends a branch nor closes a group. -/
def readPlain (r : Reader) (start : Nat) (c : Char) (ts : List Token) :
    Reading (Reader × List Token) := do
  if r.level.mode.verbose && isLayout c then return (r, ts)
  if r.level.mode.verbose && c == '#' then return (r, ← skipLine ts)
  match c with
  | '[' => readClass r start ts
  | '?' => repeatLast r start 0 (some 1) ts
  | '*' => repeatLast r start 0 none ts
  | '+' => repeatLast r start 1 none ts
  | '\x7b' =>
    match ← readLimits? ts with
    | some limits => repeatLast r start limits.least limits.most limits.rest
    | none => return (r.pushTest (.literal c.toNat false), ts)
  | '.' => return (r.pushTest .any, ts)
  | '(' => readGroup r start ts
  | '^' => return (r.pushAnchor .lineStart, ts)
  | '$' => return (r.pushAnchor .lineEnd, ts)
  | _ => return (r.pushTest (.literal c.toNat false), ts)

/-- The pattern that has been read when no text is left but perhaps a parenthesis too many. -/
def Reader.finish (engine : Engine) (r : Reader) (t : Token) : Reading Sized := do
  if r.flags.contains 'a' && r.flags.contains 'u' then throw .conflictingCharacterSets
  if t.is ')' then fail .unbalancedParenthesis t.start
  if let some (group, place) :=
      r.conditions.reverse.find? fun (group, _) => r.groups.widths.size < group then
    fail (.invalidReference group) place
  let pattern := Sized.ofSequence r.level.body
  if let some fault := pattern.node.flaw? engine (r.flags.contains 't') then throw (.malformed fault none)
  if pattern.node.hasWideLookBehind engine then throw .lookBehindTooWide
  return pattern

/-- What reading one token leads to: more reading, or the pattern. -/
inductive Progress where
  /-- There is more to read. -/
  | more (r : Reader) (ts : List Token)
  /-- The pattern is complete. -/
  | done (pattern : Sized)

/-- Read on from the next token. -/
def Reader.step (engine : Engine) (r : Reader) (ts : List Token) : Reading Progress := do
  let t :: _ := ts | return .done (.ofSequence r.level.body)
  match t.kind with
  | .stop =>
    if r.outer.isEmpty then return .done (← r.finish engine t)
    else fail .unterminatedGroup r.level.start
  | .dangling => fail .danglingBackslash t.start
  | .plain '|' =>
    let (r, ts) ← endBranch r t.start ts
    return .more r ts
  | .plain ')' =>
    match r.outer with
    | [] => return .done (← r.finish engine t)
    | parent :: outer =>
      let ts ← advance ts
      return .more (r.close parent outer) ts
  | .plain c =>
    let rest ← advance ts
    let (r, ts) ← readPlain r t.start c rest
    return .more r ts
  | .escaped c =>
    let rest ← advance ts
    let (escape, ts) ← readEscape r.groups t.start c rest
    return .more (pushEscape r escape) ts

/-- Read to the end. Every step takes a token, so the number of tokens is enough fuel. -/
def readFrom (engine : Engine) : Nat → Reader → List Token → Reading Sized
  | 0, r, _ => fail .unterminatedGroup r.level.start
  | fuel + 1, r, ts => do
    match ← r.step engine ts with
    | .done pattern => return pattern
    | .more r ts => readFrom engine fuel r ts

/-- The pattern that a text spells, if it is not nested too deeply for an engine. -/
def read? (engine : Engine) (source : String) : Except PatternError Sized := do
  if engine.isTooDeep source then throw .tooDeep
  let ts := Token.tokenize 0 source.toList
  refuseDangling ts
  readFrom engine (ts.length + 1) ⟨⟨.whole, 0, {}, [], []⟩, [], ⟨#[], none⟩, [], [], []⟩ ts

end Pseudoword.Pattern
