import Pseudoword.Capacity
import Pseudoword.Setting
import Pseudoword.Text.Integer

/-! # Errors

What may go wrong, by cause, and how it is told. Each part of the library has its own type of causes;
`Error` is the common form in which a caller is told of any of them, with the facts that go along.

* `ConfigurationError`, `TrainError` — causes.
* `Error`, `Error.message` — what a caller is told.
* `ErrorKind`, `ErrorKind.ancestors` — the kinds of errors, from the special to the general.
-/

namespace Pseudoword

/-! ## Causes -/

/-- Why no generator can be built from a configuration, or no configuration be had. -/
inductive ConfigurationError where
  /-- The alphabet is empty. -/
  | noSymbols
  /-- A member of the alphabet is not a single character. -/
  | notOneCharacter (symbol : Setting)
  /-- A member of the alphabet is reserved. -/
  | reservedSymbol (symbol : Char)
  /-- A member of the alphabet occurs twice. -/
  | duplicateSymbol (symbol : Char)
  /-- The context order is not a positive integer. -/
  | badOrder (order : Setting)
  /-- There is no settings document. -/
  | missingDocument
  /-- The settings document is malformed. -/
  | malformedDocument
  deriving Repr

namespace ConfigurationError

/-- The wording of a cause. -/
def message : ConfigurationError → String
  | .noSymbols => "Alphabet must contain at least one symbol"
  | .notOneCharacter symbol => "Alphabet symbols must be single characters, got " ++ symbol.shown
  | .reservedSymbol symbol =>
    "Alphabet may not contain the reserved symbol " ++ Text.quoted (String.singleton symbol)
  | .duplicateSymbol symbol =>
    "Duplicate alphabet symbol " ++ Text.quoted (String.singleton symbol)
  | .badOrder order => "Context order must be a positive integer, got " ++ order.shown
  | .missingDocument => "Missing app config: app.yaml"
  | .malformedDocument => "Invalid app config"

end ConfigurationError

/-- What goes wrong with values of a kind that nothing provides for. Such a fault is not among the
errors that a command reports. -/
inductive ConfigurationFault where
  /-- The configuration is refused. -/
  | refused (error : ConfigurationError)
  /-- The value given for the alphabet has no members. -/
  | notIterable (value : Setting)
  /-- The value given for the seed cannot seed a random source. -/
  | badSeed
  /-- The table of the generator would be too large. -/
  | tooLarge (fault : SizeFault)
  /-- A number of the settings document has too many digits. -/
  | tooManyDigits (count : Nat)
  /-- The settings document cannot be read as a text, or not to its depths, in the words of the system. -/
  | unreadable (text : String)
  deriving Repr

/-- The wording of a fault. -/
def ConfigurationFault.message : ConfigurationFault → String
  | .refused error => error.message
  | .notIterable value => "'" ++ value.kind ++ "' object is not iterable"
  | .badSeed =>
    "The only supported seed types are: None,\nint, float, str, bytes, and bytearray."
  | .tooLarge fault => fault.message
  | .tooManyDigits count => Text.tooManyDigits count
  | .unreadable text => text

/-- Why a word cannot be trained on. -/
inductive TrainError where
  /-- The word is empty. -/
  | emptyWord
  /-- The word has a character outside the alphabet, first at the given position. -/
  | illegalCharacter (word : String) (character : Char) (position : Nat)
  deriving DecidableEq, Repr

/-! ## What a caller is told -/

/-- An error as a caller is told of it. -/
inductive Error where
  /-- An error of no special kind. -/
  | general (text : String)
  /-- A configuration will not do. -/
  | configuration (text : String)
  /-- A word was refused. -/
  | train (word text : String)
  /-- A word was refused because it is empty. -/
  | emptyWord (word : String)
  /-- A word was refused for a character. -/
  | illegalCharacter (word character : String) (position : Int)
  /-- Sampling came to a context that was never observed. -/
  | deadState (row : Int)
  /-- No candidate was acceptable within the budget. -/
  | attemptsExhausted (attempts : Int)
  /-- A line of a dictionary could not be used. -/
  | vocabularyLoad (line : Int) (word : String) (reason : Option String)
  deriving DecidableEq, Repr

namespace Error

/-- The wording of an error. An empty reason is not mentioned. -/
def message : Error → String
  | .general text => text
  | .configuration text => text
  | .train _ text => text
  | .emptyWord _ => "Cannot train on an empty word"
  | .illegalCharacter word character position =>
    "Word " ++ Text.quoted word ++ " has character " ++ Text.quoted character ++ " at position "
      ++ toString position ++ " which is not in the alphabet"
  | .deadState row => "No transitions observed for context row " ++ toString row
  | .attemptsExhausted attempts =>
    "Could not produce a word in " ++ toString attempts ++ " attempts"
  | .vocabularyLoad line word reason =>
    let text := "Error in dictionary on line " ++ toString line ++ ": word " ++ Text.quoted word
    match reason with
    | none => text
    | some reason => if reason.isEmpty then text else text ++ " (" ++ reason ++ ")"

end Error

/-- The error that a caller is told of when a configuration is refused. -/
def ConfigurationError.toError (e : ConfigurationError) : Error :=
  .configuration e.message

/-- The error that a caller is told of when a word is refused. -/
def TrainError.toError : TrainError → Error
  | .emptyWord => .emptyWord ""
  | .illegalCharacter word character position =>
    .illegalCharacter word (String.singleton character) position

/-! ## Kinds -/

/-- The kinds of errors. -/
inductive ErrorKind where
  /-- Any error. -/
  | general
  /-- A configuration will not do. -/
  | configuration
  /-- A word was refused. -/
  | train
  /-- A word was refused because it is empty. -/
  | emptyWord
  /-- A word was refused for a character. -/
  | illegalCharacter
  /-- Sampling came to a context that was never observed. -/
  | deadState
  /-- No candidate was acceptable within the budget. -/
  | attemptsExhausted
  /-- A line of a dictionary could not be used. -/
  | vocabularyLoad
  deriving DecidableEq, Repr

namespace ErrorKind

/-- The kind and the kinds that it belongs to, the most special one first. -/
def ancestors : ErrorKind → List ErrorKind
  | .general => [.general]
  | .configuration => [.configuration, .general]
  | .train => [.train, .general]
  | .emptyWord => [.emptyWord, .train, .general]
  | .illegalCharacter => [.illegalCharacter, .train, .general]
  | .deadState => [.deadState, .general]
  | .attemptsExhausted => [.attemptsExhausted, .general]
  | .vocabularyLoad => [.vocabularyLoad, .general]

end ErrorKind

/-- The kind of an error. -/
def Error.kind : Error → ErrorKind
  | .general _ => .general
  | .configuration _ => .configuration
  | .train _ _ => .train
  | .emptyWord _ => .emptyWord
  | .illegalCharacter _ _ _ => .illegalCharacter
  | .deadState _ => .deadState
  | .attemptsExhausted _ => .attemptsExhausted
  | .vocabularyLoad _ _ _ => .vocabularyLoad

end Pseudoword
