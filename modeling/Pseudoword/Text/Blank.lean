/-! # White space

Blank characters and their removal from both ends of a text. The class is wider than the ASCII one:
it takes in the separators of Unicode and the four information separators, and leaves out the
zero-width characters.

* `Text.isBlank` — the class.
* `Text.trim`, `Text.strip` — removal from both ends of a list of characters and of a text.
* `Text.trim_eq_self` — a list that neither starts nor ends with a blank is left as it is.
-/

namespace Pseudoword.Text

/-- Whether the character is white space. -/
def isBlank (c : Char) : Bool :=
  let n := c.toNat
  (0x09 ≤ n && n ≤ 0x0D) || (0x1C ≤ n && n ≤ 0x20) || n == 0x85 || n == 0xA0 || n == 0x1680
    || (0x2000 ≤ n && n ≤ 0x200A) || n == 0x2028 || n == 0x2029 || n == 0x202F || n == 0x205F
    || n == 0x3000

/-- Drop the characters at the end that satisfy a test. -/
def dropEnd (p : Char → Bool) (cs : List Char) : List Char :=
  (cs.reverse.dropWhile p).reverse

/-- Drop the blanks at both ends. -/
def trim (cs : List Char) : List Char :=
  dropEnd isBlank (cs.dropWhile isBlank)

/-- The text without the blanks at its ends. -/
def strip (s : String) : String :=
  String.ofList (trim s.toList)

@[simp] theorem trim_nil : trim [] = [] := rfl

/-- Nothing is dropped from an end that is not blank. -/
theorem trim_eq_self {cs : List Char} (first : ∀ c ∈ cs.head?, isBlank c = false)
    (last : ∀ c ∈ cs.getLast?, isBlank c = false) : trim cs = cs := by
  have dropWhile_eq : ∀ {ds : List Char}, (∀ c ∈ ds.head?, isBlank c = false) →
      ds.dropWhile isBlank = ds := by
    intro ds h
    cases ds with
    | nil => rfl
    | cons d ds => simp [h d (by simp)]
  rw [trim, dropWhile_eq first, dropEnd, dropWhile_eq (by simpa using last), List.reverse_reverse]

end Pseudoword.Text
