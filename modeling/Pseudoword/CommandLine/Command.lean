import Pseudoword.CommandLine.Reading
import Pseudoword.Setting
import Pseudoword.Text.Integer

/-! # Commands

What can be asked for on the command line: words from a model, or the numbers that describe a model.

* `Command`, `ModelRequest` — what is asked for, and of which model.
* `Invocation`, `Invocation.read` — a command line, and what its arguments say.
* `Invocation.help`, `Invocation.version` — what is told of the command line itself.
-/

namespace Pseudoword

/-- Which model is asked for. -/
structure ModelRequest where
  /-- The file with its vocabulary. -/
  dictionary : String
  /-- The letters. -/
  alphabet : Option String
  /-- The order of contexts. -/
  order : Option Int
  /-- The seed of the random source. -/
  seed : Option Int
  deriving DecidableEq, Repr

/-- What is asked for. -/
inductive Command where
  /-- A number of words, perhaps with a criterion and a budget of attempts at each word. -/
  | generate (count : Int) (criteria : Option String) (budget : Option Int) (model : ModelRequest)
  /-- The numbers that describe a model. -/
  | stats (model : ModelRequest)
  deriving DecidableEq, Repr

/-- What a command line asks for. -/
structure Invocation where
  /-- Whether only results are wanted. -/
  quiet : Bool
  /-- Whether all reports are wanted. -/
  verbose : Bool
  /-- The command, if there is one. -/
  command : Option Command
  deriving DecidableEq, Repr

namespace CommandLine

/-! ## Commands with a model -/

/-- The options of commands with a model. -/
inductive ModelOption where
  /-- Help is asked for. -/
  | help
  /-- The letters. -/
  | alphabet
  /-- The order of contexts. -/
  | order
  /-- The seed of the random source. -/
  | seed
  /-- The budget of attempts. -/
  | budget

/-- The places of commands with a model. -/
inductive ModelPlace where
  /-- How many words are wanted. -/
  | count
  /-- The file with the vocabulary. -/
  | dictionary
  /-- The criterion for words. -/
  | criteria

/-- What the arguments of a command with a model have said so far. -/
structure Draft where
  /-- How many words are wanted. -/
  count : Int
  /-- The criterion for words. -/
  criteria : Option String
  /-- The budget of attempts. -/
  budget : Option Int
  /-- The model. -/
  model : ModelRequest

/-- What is said before any argument. -/
def Draft.blank : Draft :=
  ⟨0, none, none, ⟨"", none, none, none⟩⟩

/-- The integer that an argument spells. -/
def integer (text : String) : Except Stop Int :=
  match Text.readInteger? text with
  | some value => .ok value
  | none => .error .misuse

/-- The effect of an option of a command with a model. -/
def Draft.apply (d : Draft) : ModelOption → Option String → Except Stop Draft
  | .help, _ => .error .help
  | .alphabet, some text => .ok { d with model := { d.model with alphabet := some text } }
  | .order, some text =>
    (integer text).map fun n => { d with model := { d.model with order := some n } }
  | .seed, some text =>
    (integer text).map fun n => { d with model := { d.model with seed := some n } }
  | .budget, some text => (integer text).map fun n => { d with budget := some n }
  | _, none => .error .misuse

/-- The effect of filling a place of a command with a model. A file name that is not a single text
is shown as a list. -/
def Draft.fill (d : Draft) : ModelPlace → List String → Except Stop Draft
  | .count, [text] => (integer text).map fun n => { d with count := n }
  | .count, _ => .error .misuse
  | .dictionary, [text] => .ok { d with model := { d.model with dictionary := text } }
  | .dictionary, texts =>
    .ok { d with model := { d.model with dictionary := (Setting.list (texts.map .string)).text } }
  | .criteria, texts => .ok { d with criteria := texts.head? }

/-- The options that every command with a model has. -/
def modelSwitches : List (Switch ModelOption) :=
  [⟨"-h", false, .help⟩, ⟨"--help", false, .help⟩, ⟨"--alphabet", true, .alphabet⟩,
    ⟨"--order", true, .order⟩, ⟨"-k", true, .order⟩, ⟨"--seed", true, .seed⟩]

/-- The grammar of the command for words. -/
def generateGrammar : Grammar ModelOption ModelPlace Draft :=
  ⟨modelSwitches ++ [⟨"--max-attempts", true, .budget⟩],
    [(.count, .one), (.dictionary, .one), (.criteria, .optional)], Draft.apply, Draft.fill⟩

/-- The grammar of the command for numbers. -/
def statsGrammar : Grammar ModelOption ModelPlace Draft :=
  ⟨modelSwitches, [(.dictionary, .one)], Draft.apply, Draft.fill⟩

/-- The command that the name of a command and its arguments ask for. -/
def readCommand (name : String) (texts : List String) : Except Stop Command :=
  if name = "generate" ∨ name = "gen" ∨ name = "g" then
    (generateGrammar.read .blank texts).map fun d => .generate d.count d.criteria d.budget d.model
  else if name = "stats" then (statsGrammar.read .blank texts).map fun d => .stats d.model
  else .error .misuse

/-! ## The whole command line -/

/-- The options before a command. -/
inductive GlobalOption where
  /-- Help is asked for. -/
  | help
  /-- The version is asked for. -/
  | version
  /-- Only results are wanted. -/
  | quiet
  /-- All reports are wanted. -/
  | verbose

/-- The effect of an option before a command. -/
def applyGlobal (i : Invocation) : GlobalOption → Option String → Except Stop Invocation
  | .help, _ => .error .help
  | .version, _ => .error .version
  | .quiet, _ => .ok { i with quiet := true }
  | .verbose, _ => .ok { i with verbose := true }

/-- The effect of the name of a command and its arguments. -/
def fillCommand (i : Invocation) (_place : Unit) : List String → Except Stop Invocation
  | name :: texts => (readCommand name texts).map fun c => { i with command := some c }
  | [] => .error .misuse

/-- The grammar of the whole command line. -/
def globalGrammar : Grammar GlobalOption Unit Invocation :=
  ⟨[⟨"-h", false, .help⟩, ⟨"--help", false, .help⟩, ⟨"--version", false, .version⟩,
      ⟨"-V", false, .version⟩, ⟨"--quiet", false, .quiet⟩, ⟨"-q", false, .quiet⟩,
      ⟨"--verbose", false, .verbose⟩, ⟨"-v", false, .verbose⟩],
    [((), .rest)], applyGlobal, fillCommand⟩

end CommandLine

namespace Invocation

/-- What the arguments of a command line say. -/
def read (texts : List String) : Except CommandLine.Stop Invocation :=
  CommandLine.globalGrammar.read ⟨false, false, none⟩ texts

/-- What is told of the version. -/
def version : String :=
  "makewords 0.1.0\n"

/-- What is told of the use of the command line. -/
def help : String :=
  "usage: makewords [-h] [--version] [--quiet] [--verbose] \x7bgenerate,gen,g,stats\x7d ...\n\n"
    ++ "Makes up words that look like those of a dictionary.\n\n"
    ++ "  makewords generate COUNT DICTIONARY [CRITERIA] [--max-attempts N] [model options]\n"
    ++ "  makewords stats DICTIONARY [model options]\n\n"
    ++ "model options:\n"
    ++ "  --alphabet LETTERS  permitted letters\n"
    ++ "  --order K, -k K     context order\n"
    ++ "  --seed N            random seed for reproducible output\n\n"
    ++ "options:\n"
    ++ "  -h, --help          show this help\n"
    ++ "  --version, -V       show the version\n"
    ++ "  --quiet, -q         suppress non-essential output\n"
    ++ "  --verbose, -v       write all reports\n"

end Invocation
end Pseudoword
