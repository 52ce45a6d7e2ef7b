import Pseudoword.Text.Digit

/-! # Arguments

The arguments of a command line are of three kinds: values, options, and the mark after which all
arguments are values. An option is told by a hyphen at its start. The name of a long option may be
cut short as long as one option remains that it may mean. What is attached to an option follows an
equals sign, or at once if the option is a short one.

* `Switch` — an option that a command knows, by one of its names.
* `Argument` — an argument, by kind.
* `Argument.classify` — the kind of an argument.
-/

namespace Pseudoword.CommandLine

/-- An option that a command knows, by one of its names. -/
structure Switch (ω : Type) where
  /-- The name, with its hyphens. -/
  name : String
  /-- Whether a value belongs to it. -/
  takesValue : Bool
  /-- What it means. -/
  meaning : ω

/-- An option as it is written. -/
structure Mention (ω : Type) where
  /-- The option. -/
  switch : Switch ω
  /-- What follows the name, and the equals sign if there is one. -/
  attached : Option (List Char)

/-- An argument, by kind. -/
inductive Argument (ω : Type) where
  /-- A value. -/
  | value (text : String)
  /-- An option that the command knows. -/
  | mention (mention : Mention ω)
  /-- An option that the command does not know. -/
  | unknown
  /-- The mark after which all arguments are values. -/
  | mark

namespace Argument

variable {ω : Type}

/-- Whether an argument is an option. -/
def isOption : Argument ω → Bool
  | .mention _ => true
  | .unknown => true
  | _ => false

/-- Whether characters are digits. -/
def areDigits (cs : List Char) : Bool :=
  cs.all Text.isDigit

/-- Whether an argument is a negative number, an integer or one with a fraction and no exponent. A
line feed may follow it. -/
def isNegativeNumber (cs : List Char) : Bool :=
  match cs with
  | '-' :: number =>
    let number := if number.getLast? = some '\n' then number.dropLast else number
    let whole := number.takeWhile Text.isDigit
    match number.dropWhile Text.isDigit with
    | [] => !whole.isEmpty
    | '.' :: fraction => !fraction.isEmpty && areDigits fraction
    | _ => false
  | _ => false

/-- The name before the first equals sign, and what follows the sign if there is one. -/
def splitAtEquals (cs : List Char) : List Char × Option (List Char) :=
  match cs.dropWhile (· != '=') with
  | [] => (cs, none)
  | _ :: rest => (cs.takeWhile (· != '='), some rest)

/-- The options that the start of an argument may mean. After two hyphens it is the start of a name,
up to an equals sign; after one it is a name of one letter with something attached, or the start of
a name. -/
def candidates (switches : List (Switch ω)) (cs : List Char) : List (Mention ω) :=
  if cs[1]? = some '-' then
    let (start, attached) := splitAtEquals cs
    (switches.filter fun s => start.isPrefixOf s.name.toList).map fun s => ⟨s, attached⟩
  else
    switches.filterMap fun s =>
      if s.name.toList = cs.take 2 then some ⟨s, some (cs.drop 2)⟩
      else if cs.isPrefixOf s.name.toList then some ⟨s, none⟩
      else none

/-- The option with a name. -/
def named? (switches : List (Switch ω)) (name : List Char) : Option (Switch ω) :=
  switches.find? (·.name.toList == name)

/-- The option that an argument names in full. -/
def inFull? (switches : List (Switch ω)) (cs : List Char) : Option (Mention ω) :=
  match named? switches cs with
  | some switch => some ⟨switch, none⟩
  | none =>
    match splitAtEquals cs with
    | (name, some attached) => (named? switches name).map (⟨·, some attached⟩)
    | (_, none) => none

/-- The kind of an argument before the mark; nothing if it may mean more than one option. A lone
hyphen is a value, and so are negative numbers and what has a space in it, unless they name an
option. -/
def classify? (switches : List (Switch ω)) (text : String) : Option (Argument ω) :=
  let cs := text.toList
  if cs.head? ≠ some '-' ∨ cs.length = 1 then some (.value text)
  else
    match inFull? switches cs with
    | some m => some (.mention m)
    | none =>
      match candidates switches cs with
      | [m] => some (.mention m)
      | [] => some (if isNegativeNumber cs || cs.contains ' ' then .value text else .unknown)
      | _ => none

/-- The kinds of arguments; nothing if one of them may mean more than one option. -/
def classify (switches : List (Switch ω)) : List String → Option (List (Argument ω))
  | [] => some []
  | text :: texts =>
    if text = "--" then some (.mark :: texts.map .value)
    else
      match classify? switches text with
      | none => none
      | some argument => (classify switches texts).map (argument :: ·)

end Argument
end Pseudoword.CommandLine
