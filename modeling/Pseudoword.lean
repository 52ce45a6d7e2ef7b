import Pseudoword.Alphabet
import Pseudoword.Binary64
import Pseudoword.Binary64.Decimal
import Pseudoword.Capacity
import Pseudoword.CommandLine.Argument
import Pseudoword.CommandLine.Command
import Pseudoword.CommandLine.Reading
import Pseudoword.CommandLine.Run
import Pseudoword.Configuration
import Pseudoword.Configuration.Document
import Pseudoword.Console
import Pseudoword.Context
import Pseudoword.Context.Window
import Pseudoword.Criterion
import Pseudoword.Distribution
import Pseudoword.Error
import Pseudoword.FileTree
import Pseudoword.Generator
import Pseudoword.Generator.Sampling
import Pseudoword.Generator.Walk
import Pseudoword.Log
import Pseudoword.Main
import Pseudoword.Path
import Pseudoword.Pattern.Class
import Pseudoword.Pattern.Escape
import Pseudoword.Pattern.Fault
import Pseudoword.Pattern.Flags
import Pseudoword.Pattern.Greed
import Pseudoword.Pattern.Matcher
import Pseudoword.Pattern.Node
import Pseudoword.Pattern.Reader
import Pseudoword.Pattern.Repetition
import Pseudoword.Pattern.Restriction
import Pseudoword.Pattern.Token
import Pseudoword.Pattern.Trail
import Pseudoword.Proofs.Balance
import Pseudoword.Proofs.Building
import Pseudoword.Proofs.Candidates
import Pseudoword.Proofs.Closing
import Pseudoword.Proofs.Coding
import Pseudoword.Proofs.Compiling
import Pseudoword.Proofs.Contexts
import Pseudoword.Proofs.Counting
import Pseudoword.Proofs.Cutting
import Pseudoword.Proofs.Encoding
import Pseudoword.Proofs.Extending
import Pseudoword.Proofs.Finishing
import Pseudoword.Proofs.Frequencies
import Pseudoword.Proofs.Generating
import Pseudoword.Proofs.Histories
import Pseudoword.Proofs.Levels
import Pseudoword.Proofs.Lines
import Pseudoword.Proofs.Memorising
import Pseudoword.Proofs.Moves
import Pseudoword.Proofs.Narrowing
import Pseudoword.Proofs.Observations
import Pseudoword.Proofs.Parsing
import Pseudoword.Proofs.Picking
import Pseudoword.Proofs.Prefixes
import Pseudoword.Proofs.Quantiles
import Pseudoword.Proofs.Reaching
import Pseudoword.Proofs.Recoding
import Pseudoword.Proofs.Refusing
import Pseudoword.Proofs.Reporting
import Pseudoword.Proofs.Retracing
import Pseudoword.Proofs.Rounding
import Pseudoword.Proofs.Scanning
import Pseudoword.Proofs.Sheets
import Pseudoword.Proofs.Snapshots
import Pseudoword.Proofs.Spelling
import Pseudoword.Proofs.Statistics
import Pseudoword.Proofs.Tallying
import Pseudoword.Proofs.Trials
import Pseudoword.Proofs.Walks
import Pseudoword.Proofs.Widening
import Pseudoword.Proofs.Windows
import Pseudoword.Random.Draw
import Pseudoword.Random.Mersenne
import Pseudoword.Random.Seed
import Pseudoword.Random.Sha512
import Pseudoword.Setting
import Pseudoword.Setting.Reader
import Pseudoword.Table
import Pseudoword.Text.Blank
import Pseudoword.Text.Casing
import Pseudoword.Text.CharacterName
import Pseudoword.Text.CharacterName.Abbreviation
import Pseudoword.Text.CharacterName.Alias
import Pseudoword.Text.CharacterName.From0000
import Pseudoword.Text.CharacterName.From0590
import Pseudoword.Text.CharacterName.From10000
import Pseudoword.Text.CharacterName.From12000
import Pseudoword.Text.CharacterName.From1800
import Pseudoword.Text.CharacterName.From1D000
import Pseudoword.Text.CharacterName.From1F000
import Pseudoword.Text.CharacterName.From2190
import Pseudoword.Text.CharacterName.From2900
import Pseudoword.Text.CharacterName.FromA000
import Pseudoword.Text.CharacterName.Numbered
import Pseudoword.Text.CharacterName.Run
import Pseudoword.Text.CharacterName.Stem
import Pseudoword.Text.CharacterName.Syllable
import Pseudoword.Text.Digit
import Pseudoword.Text.Identifier
import Pseudoword.Text.Integer
import Pseudoword.Text.Letter
import Pseudoword.Text.Printable
import Pseudoword.Text.Quoted
import Pseudoword.Text.Ranges
import Pseudoword.Text.Utf8
import Pseudoword.Vocabulary
import Pseudoword.Vocabulary.Training
