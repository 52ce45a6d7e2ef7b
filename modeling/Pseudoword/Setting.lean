import Pseudoword.Binary64.Decimal
import Pseudoword.Text.Quoted

/-! # Settings

The values that a settings document may hold. They are kept as they are found; what uses a value
decides whether it will do, and a message about one that will not do shows the value.

* `Setting` — a value.
* `Setting.isTruthy` — how a value counts where a yes or no is wanted.
* `Setting.shown`, `Setting.text` — a value inside a message and as a text of its own.
* `Setting.find`, `Setting.lookup` — a value inside a value, by names and by a path of names.
-/

namespace Pseudoword

/-- A value of a settings document. -/
inductive Setting where
  /-- No value. -/
  | null
  /-- A yes or no. -/
  | boolean (value : Bool)
  /-- An integer. -/
  | integer (value : Int)
  /-- A number with a fraction, by its sign and size. -/
  | real (negative : Bool) (size : Binary64)
  /-- A text. -/
  | string (value : String)
  /-- A sequence of values. -/
  | list (items : List Setting)
  /-- Named values, in the order of their first mention. -/
  | table (entries : List (String × Setting))
  deriving Repr, Inhabited

namespace Setting

/-- The kind of a value, as messages name it. -/
def kind : Setting → String
  | .null => "NoneType"
  | .boolean _ => "bool"
  | .integer _ => "int"
  | .real _ _ => "float"
  | .string _ => "str"
  | .list _ => "list"
  | .table _ => "dict"

/-- Whether a value counts as yes: everything but no value, no, zero, and what is empty. -/
def isTruthy : Setting → Bool
  | .null => false
  | .boolean value => value
  | .integer value => value != 0
  | .real _ size => size != Binary64.zero
  | .string value => !value.isEmpty
  | .list items => !items.isEmpty
  | .table entries => !entries.isEmpty

/-- The text of a number with a fraction. -/
def realText (negative : Bool) (size : Binary64) : String :=
  if negative then "-" ++ size.text else size.text

mutual

/-- A value inside a message: texts are quoted, and sequences list their items. -/
def shown : Setting → String
  | .null => "None"
  | .boolean value => if value then "True" else "False"
  | .integer value => toString value
  | .real negative size => realText negative size
  | .string value => Text.quoted value
  | .list items => "[" ++ shownItems items ++ "]"
  | .table entries => "\x7b" ++ shownEntries entries ++ "\x7d"

/-- Values with commas between them. -/
def shownItems : List Setting → String
  | [] => ""
  | [item] => item.shown
  | item :: items => item.shown ++ ", " ++ shownItems items

/-- Named values with commas between them. -/
def shownEntries : List (String × Setting) → String
  | [] => ""
  | [(name, value)] => Text.quoted name ++ ": " ++ value.shown
  | (name, value) :: entries =>
    Text.quoted name ++ ": " ++ value.shown ++ ", " ++ shownEntries entries

end

/-- A value as a text of its own: a text stands for itself. -/
def text : Setting → String
  | .string value => value
  | value => value.shown

/-- The members of a value that has some: the characters of a text, the items of a sequence, the
names of a table. -/
def members? : Setting → Option (List Setting)
  | .string value => some (value.toList.map fun c => .string (String.singleton c))
  | .list items => some items
  | .table entries => some (entries.map fun (name, _) => .string name)
  | _ => none

/-- The value found by following names into tables, if every name is there. -/
def follow? : List String → Setting → Option Setting
  | [], value => some value
  | name :: names, .table entries => (entries.lookup name).bind (follow? names)
  | _ :: _, _ => none

/-- The value found by following names, or another one if there is none. A value that is present but
empty of content is present. -/
def find (value : Setting) (names : List String) (otherwise : Setting) : Setting :=
  (follow? names value).getD otherwise

/-- The value at a path, which is names with full stops between them. -/
def lookup (value : Setting) (path : String) (otherwise : Setting) : Setting :=
  value.find (path.splitOn ".") otherwise

/-- Give a name a value, in the place of the name's first mention. -/
def put (name : String) (value : Setting) :
    List (String × Setting) → List (String × Setting)
  | [] => [(name, value)]
  | (other, old) :: entries =>
    if other == name then (name, value) :: entries else (other, old) :: put name value entries

end Setting
end Pseudoword
