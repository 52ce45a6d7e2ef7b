import Pseudoword.Pattern.Greed
import Pseudoword.Text.Integer
import Pseudoword.Text.Quoted

/-! # Faults in patterns

Why a text is no pattern, where the fault lies, and the message about it.

* `Pattern.Fault`, `Fault.message` — the causes and their wording.
* `PatternError`, `PatternError.message` — a cause with its position; the line and column are
  added when the pattern has several lines.
* `Pattern.MatchFault` — why it cannot be told whether a pattern matches.
-/

namespace Pseudoword

namespace Pattern

/-- Why a text is no pattern. -/
inductive Fault where
  /-- The text ends with a backslash. -/
  | danglingBackslash
  /-- An escape has no meaning. -/
  | badEscape (escape : String)
  /-- A numeric escape lacks digits. -/
  | incompleteEscape (escape : String)
  /-- An octal escape is too large. -/
  | octalTooLarge (escape : String)
  /-- An escape for a character by name has no brace. -/
  | missingBrace
  /-- No character has the name. -/
  | unknownCharacter (name : String)
  /-- A name is empty. -/
  | missingName (what : String)
  /-- A name has no end. -/
  | unterminatedName (terminator : Char)
  /-- A group's name is no identifier. -/
  | badGroupName (name : String)
  /-- A group's number is zero. -/
  | badGroupNumber
  /-- A group's name is unknown. -/
  | unknownGroup (name : String)
  /-- There is no group with the number. -/
  | invalidReference (group : Nat)
  /-- A group is referred to from within. -/
  | openReference
  /-- A group is referred to from the look-behind that it stands in. -/
  | lookBehindReference
  /-- A name is given to a second group. -/
  | redefinedGroup (name : String) (group earlier : Nat)
  /-- A class has no end. -/
  | unterminatedClass
  /-- A range of a class ends before it starts, or has no proper ends. -/
  | badRange (range : String)
  /-- A repetition has nothing before it. -/
  | nothingToRepeat
  /-- A repetition follows another. -/
  | multipleRepeat
  /-- A repetition's limits are the wrong way round. -/
  | reversedRepeat
  /-- The text ends inside the opening of a group. -/
  | unexpectedEnd
  /-- A group opens in an unknown way. -/
  | unknownExtension (extension : String)
  /-- A comment has no end. -/
  | unterminatedComment
  /-- A group has no end. -/
  | unterminatedGroup
  /-- A parenthesis closes nothing. -/
  | unbalancedParenthesis
  /-- A conditional group has more than two branches. -/
  | tooManyBranches
  /-- A flag is unknown. -/
  | unknownFlag
  /-- The flags have no end. -/
  | missingFlagEnd
  /-- No flag follows the minus sign. -/
  | missingFlag
  /-- The flags that are turned off have no end. -/
  | missingColon
  /-- The locale flag belongs to byte patterns. -/
  | localeFlag
  /-- The two character sets are asked for together. -/
  | incompatibleFlags
  /-- A flag for whole patterns is turned on for a group. -/
  | globalFlagOn
  /-- A character set is turned off. -/
  | characterSetOff
  /-- A flag for whole patterns is turned off for a group. -/
  | globalFlagOff
  /-- A flag is turned on and off at once. -/
  | contradictoryFlags
  /-- Flags for the whole pattern stand inside it. -/
  | globalFlagsInside
  /-- The pattern of a look-behind takes no fixed number of characters. -/
  | lookBehindWidth
  /-- A look-behind takes more characters than an engine can be told. -/
  | lookBehindTooFar
  /-- The flags allow no repetition. -/
  | unsupportedRepeat (greed : Greed)
  deriving DecidableEq, Repr

/-- The wording of a fault. -/
def Fault.message : Fault → String
  | .danglingBackslash => "bad escape (end of pattern)"
  | .badEscape escape => "bad escape " ++ escape
  | .incompleteEscape escape => "incomplete escape " ++ escape
  | .octalTooLarge escape => "octal escape value " ++ escape ++ " outside of range 0-0o377"
  | .missingBrace => "missing \x7b"
  | .unknownCharacter name => "undefined character name " ++ Text.quoted name
  | .missingName what => "missing " ++ what
  | .unterminatedName terminator =>
    "missing " ++ String.singleton terminator ++ ", unterminated name"
  | .badGroupName name => "bad character in group name " ++ Text.quoted name
  | .badGroupNumber => "bad group number"
  | .unknownGroup name => "unknown group name " ++ Text.quoted name
  | .invalidReference group => "invalid group reference " ++ toString group
  | .openReference => "cannot refer to an open group"
  | .lookBehindReference => "cannot refer to group defined in the same lookbehind subpattern"
  | .redefinedGroup name group earlier =>
    "redefinition of group name " ++ Text.quoted name ++ " as group " ++ toString group
      ++ "; was group " ++ toString earlier
  | .unterminatedClass => "unterminated character set"
  | .badRange range => "bad character range " ++ range
  | .nothingToRepeat => "nothing to repeat"
  | .multipleRepeat => "multiple repeat"
  | .reversedRepeat => "min repeat greater than max repeat"
  | .unexpectedEnd => "unexpected end of pattern"
  | .unknownExtension extension => "unknown extension ?" ++ extension
  | .unterminatedComment => "missing ), unterminated comment"
  | .unterminatedGroup => "missing ), unterminated subpattern"
  | .unbalancedParenthesis => "unbalanced parenthesis"
  | .tooManyBranches => "conditional backref with more than two branches"
  | .unknownFlag => "unknown flag"
  | .missingFlagEnd => "missing -, : or )"
  | .missingFlag => "missing flag"
  | .missingColon => "missing :"
  | .localeFlag => "bad inline flags: cannot use 'L' flag with a str pattern"
  | .incompatibleFlags => "bad inline flags: flags 'a', 'u' and 'L' are incompatible"
  | .globalFlagOn => "bad inline flags: cannot turn on global flag"
  | .characterSetOff => "bad inline flags: cannot turn off flags 'a', 'u' and 'L'"
  | .globalFlagOff => "bad inline flags: cannot turn off global flag"
  | .contradictoryFlags => "bad inline flags: flag turned on and off"
  | .globalFlagsInside => "global flags not at the start of the expression"
  | .lookBehindWidth => "look-behind requires fixed-width pattern"
  | .lookBehindTooFar => "looks too much behind"
  | .unsupportedRepeat greed => "internal: unsupported template operator " ++ greed.operator

/-- Why it cannot be told whether a pattern matches a text. -/
inductive MatchFault where
  /-- The text that a group has remembered would end before its start. -/
  | crossedMarks
  deriving DecidableEq, Repr

/-- The wording of a fault. -/
def MatchFault.message : MatchFault → String
  | .crossedMarks =>
    "The span of capturing group is wrong, please report a bug for the re module."

end Pattern

/-- Why a text is no pattern, and where. -/
inductive PatternError where
  /-- The text breaks a rule of writing, at a position if one can be named. -/
  | malformed (fault : Pattern.Fault) (position : Option Nat)
  /-- A repetition's limit is too large. -/
  | repetitionTooLarge
  /-- A repetition's limit has too many digits. -/
  | tooManyDigits (count : Nat)
  /-- A look-behind takes more characters than the engine allows. -/
  | lookBehindTooWide
  /-- Both character sets are asked for, by separate flags. -/
  | conflictingCharacterSets
  /-- The text is nested too deeply to be read. -/
  | tooDeep
  deriving DecidableEq, Repr

namespace PatternError

/-- The line and column of a position, both counted from one. -/
def lineAndColumn (source : List Char) (position : Nat) : Nat × Nat :=
  let before := source.take position
  (before.countP (· == '\n') + 1, (before.reverse.takeWhile (· != '\n')).length + 1)

/-- The message about an error in a pattern. -/
def message (source : String) : PatternError → String
  | .malformed fault none => fault.message
  | .malformed fault (some position) =>
    let text := fault.message ++ " at position " ++ toString position
    if source.toList.contains '\n' then
      let (line, column) := lineAndColumn source.toList position
      text ++ " (line " ++ toString line ++ ", column " ++ toString column ++ ")"
    else text
  | .repetitionTooLarge => "the repetition number is too large"
  | .tooManyDigits count => Text.tooManyDigits count
  | .lookBehindTooWide => "invalid SRE code"
  | .conflictingCharacterSets => "ASCII and UNICODE flags are incompatible"
  | .tooDeep => "maximum recursion depth exceeded"

end PatternError
end Pseudoword
