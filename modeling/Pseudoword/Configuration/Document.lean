import Pseudoword.Configuration
import Pseudoword.Setting.Reader

/-! # Settings documents

A settings document holds the values of a configuration under their names, and whether the words of
vocabularies are put into upper case. A document that says nothing counts as one without values.

* `Document.read` — the values of a document, or why there are none.
* `Document.standard` — the values that come with the program.
* `Configuration.ofDocument` — the configuration in a document.
-/

namespace Pseudoword

namespace Document

/-- The values of a document, which may be absent, or of which the system may say that it cannot be read. -/
def read : Option (Except String String) → Except ConfigurationFault Setting
  | none => .error (.refused .missingDocument)
  | some (.error words) => .error (.unreadable words)
  | some (.ok text) =>
    match Setting.read text with
    | .error .malformed => .error (.refused .malformedDocument)
    | .error (.tooManyDigits count) => .error (.tooManyDigits count)
    | .ok value => .ok (if value.isTruthy then value else .table [])

/-- The values that come with the program. -/
def standard : Setting :=
  .table [
    ("generator", .table [
      ("alphabet", .string "ABCDEFGHIJKLMNOPQRSTUVWXYZ"),
      ("context_order", .integer 2),
      ("seed", .null),
      ("slow_attempts_warning", .integer 1000)]),
    ("vocabulary", .table [("uppercase", .boolean true)])]

/-- Whether words are put into upper case, which they are unless the document says otherwise. -/
def uppercase (document : Setting) : Bool :=
  (document.find ["vocabulary", "uppercase"] (.boolean true)).isTruthy

end Document

/-- The configuration in a document. A value that is missing is that of the standard configuration,
and one that is present is taken as it is. -/
def Configuration.ofDocument (document : Setting) : Configuration :=
  ⟨document.find ["generator", "alphabet"] standard.alphabet,
    document.find ["generator", "context_order"] standard.order,
    document.find ["generator", "seed"] standard.seed,
    document.find ["generator", "slow_attempts_warning"] standard.patience⟩

end Pseudoword
