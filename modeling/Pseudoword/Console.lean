import Pseudoword.Log
import Pseudoword.Setting

/-! # Consoles

What a command writes: its results, lines about errors, and reports of its parts. Some of it is left
out on request.

* `Console` — the texts written so far, and what is left out.
* `Console.print`, `Console.result`, `Console.error`, `Console.log` — write a line.
* `Console.table` — write a table with columns of equal width.
-/

namespace Pseudoword

/-- What a command has written. -/
structure Console where
  /-- Whether everything but results and errors is left out. -/
  quiet : Bool
  /-- The least grave reports that are written. -/
  level : LogLevel
  /-- The results. -/
  output : String
  /-- The errors and reports. -/
  errors : String
  deriving DecidableEq, Repr

namespace Console

/-- A console on which nothing is written. -/
def blank (quiet : Bool) (level : LogLevel) : Console :=
  ⟨quiet, level, "", ""⟩

variable (c : Console)

/-- Write a line of output. -/
def writeLine (line : String) : Console :=
  { c with output := c.output ++ line ++ "\n" }

/-- Write values as results. -/
def result (values : List Setting) : Console :=
  c.writeLine (" ".intercalate (values.map Setting.text))

/-- Write values, unless only results are wanted. -/
def print (values : List Setting) : Console :=
  if c.quiet then c else c.result values

/-- Write about an error. -/
def error (text : String) : Console :=
  { c with errors := c.errors ++ "Error: " ++ text ++ "\n" }

/-- Write a report, if reports as grave as this are wanted. -/
def log (r : LogRecord) : Console :=
  if c.level.covers r.level then { c with errors := c.errors ++ r.line ++ "\n" } else c

/-! ## Tables -/

/-- A text followed by as many spaces as it takes to fill a width. -/
def padRight (width : Int) (s : String) : String :=
  s ++ String.ofList (List.replicate (width - s.length).toNat ' ')

/-- The line of a table that holds texts in columns of given widths, as far as there are both. -/
def tableLine (widths : List Int) (texts : List String) : String :=
  String.join (texts.zipWith (fun s width => padRight width s) widths)

/-- The length of the longest text of a column and its heading, with some space beyond it; nothing if
a row does not reach that far. -/
def columnWidth? (rows : List (List String)) (column : Nat) (heading : String) : Option Int :=
  (rows.mapM (·[column]?)).map fun texts =>
    ((texts.map String.length).foldl max heading.length + 2 : Nat)

/-- The widths of columns that are just wide enough for headings and rows. -/
def columnWidths? (headings : List String) (rows : List (List String)) : Option (List Int) :=
  headings.zipIdx.mapM fun (heading, column) => columnWidth? rows column heading

/-- The lines of a table: headings, a rule as long as their line, and rows. -/
def tableLines (headings : List String) (rows : List (List String)) (widths : List Int) :
    List String :=
  let first := tableLine widths headings
  first :: String.ofList (List.replicate first.length '-') :: rows.map (tableLine widths)

/-- Write a table, unless only results are wanted. Without widths, columns are as wide as they need
to be, for which every row has to have all columns. -/
def table (headings : List Setting) (rows : List (List Setting)) (widths : List Int) :
    Option Console :=
  if c.quiet then some c
  else
    let headings := headings.map Setting.text
    let rows := rows.map (·.map Setting.text)
    let widths := if widths.isEmpty then columnWidths? headings rows else some widths
    widths.map fun widths => (tableLines headings rows widths).foldl writeLine c

end Console
end Pseudoword
