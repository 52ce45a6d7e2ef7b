import Mathlib
import Pseudoword.Proofs.Encoding
import Pseudoword.Proofs.Histories

/-! # Training on lines

Lines are looked at one by one: each is read, taken apart and learned before the next one is looked at. So
the first line that cannot be used, for whichever reason, decides the outcome, and everything before it is
learned as if the words alone had been given.

* **`Vocabulary.wordOf?`** — the word of a line.
* **`Vocabulary.Unreadable`**, **`Vocabulary.Misspelled`** — the two ways in which a line cannot be used,
  and **`Vocabulary.Blames`**, what it is refused for.
* **`Generator.Embodies.trainLinesFrom_append`** — what is learned from lines that can be used, by induction
  on the lines.
* **`Generator.exists_trainLinesFrom_cons_of_bad`** — what happens at a line that cannot.
* **`Generator.trainLines_run`** — both together, after any run. -/

namespace Pseudoword

/-! ## (1) Blanks -/

namespace Text

/-- What is left after dropping the end is the beginning. -/
theorem dropEnd_isPrefix (p : Char → Bool) (cs : List Char) : dropEnd p cs <+: cs := by
  rw [dropEnd, ← List.reverse_suffix, List.reverse_reverse]
  exact List.dropWhile_suffix p

/-- **Nothing is left exactly of blanks.** -/
theorem trim_eq_nil_iff {cs : List Char} : trim cs = [] ↔ ∀ c ∈ cs, isBlank c = true := by
  have hback : trim cs = [] ↔ ∀ c ∈ cs.dropWhile isBlank, isBlank c = true := by
    rw [trim, dropEnd, List.reverse_eq_nil_iff, List.dropWhile_eq_nil_iff]
    simp only [List.mem_reverse]
  rw [hback, ← List.dropWhile_eq_nil_iff, ← List.dropWhile_eq_nil_iff,
    List.dropWhile_idempotent]

/-- What is left does not begin with a blank. -/
theorem isBlank_of_trim_eq_cons {cs ds : List Char} {c : Char} (h : trim cs = c :: ds) :
    isBlank c = false := by
  obtain ⟨tail, htail⟩ := dropEnd_isPrefix isBlank (cs.dropWhile isBlank)
  rw [← trim, h, List.cons_append] at htail
  have hhead := List.head_dropWhile_not isBlank (l := cs) (by rw [← htail]; exact List.cons_ne_nil _ _)
  simpa [← htail] using hhead

end Text

/-! ## (2) Words of lines -/

namespace Vocabulary

variable {uppercase : Bool} {line : Line}

/-- **A line has no word exactly if it is blank.** -/
theorem parseLine_eq_none_iff {s : String} :
    parseLine s = none ↔ ∀ c ∈ s.toList, Text.isBlank c = true := by
  rw [← Text.trim_eq_nil_iff, ← List.isEmpty_iff, parseLine]
  simp

/-- The word at the beginning of a line is not empty. -/
theorem parseLine_word_ne_empty {s word : String} {remark : Option String}
    (h : parseLine s = some (word, remark)) : word ≠ "" := by
  unfold parseLine at h
  cases htrim : Text.trim s.toList with
  | nil => simp [htrim] at h
  | cons c ds =>
      have hc : (c != ' ') = true := by
        rw [bne_iff_ne]
        rintro rfl
        cases Text.isBlank_of_trim_eq_cons htrim
      simp only [htrim, List.isEmpty_cons, Bool.false_eq_true, if_false, Option.some.injEq,
        Prod.mk.injEq] at h
      rw [← h.1, List.takeWhile_cons, if_pos hc, ne_eq, String.ofList_eq_empty_iff]
      exact List.cons_ne_nil _ _

/-- **The word of a line**: what comes first on it, in upper case on request. A blank line has none, and
neither has one that is no text. -/
def wordOf? (uppercase : Bool) (line : Line) : Option String :=
  match textOf line with
  | .error _ => none
  | .ok s => (parseLine s).map fun (word, _) => if uppercase then Text.upper word else word

/-- Whether a line is a text of blanks. -/
def isBlankLine (line : Line) : Bool :=
  match textOf line with
  | .error _ => false
  | .ok s => s.toList.all Text.isBlank

/-- **A line that is no text**: bytes that spell none. -/
def Unreadable (line : Line) : Prop :=
  ∃ bs, line = .bytes bs ∧ ∀ s, Text.Utf8.encode s ≠ bs

/-- **A line with a word that cannot be spelled**, because of a character that is no letter. -/
def Misspelled (a : Alphabet) (uppercase : Bool) (line : Line) : Prop :=
  ∃ word, wordOf? uppercase line = some word ∧ ∃ c ∈ word.toList, c ∉ a.letters

/-- **A line that cannot be used.** -/
def Bad (a : Alphabet) (uppercase : Bool) (line : Line) : Prop :=
  Unreadable line ∨ Misspelled a uppercase line

/-- **What a line is refused for**: the first fault in its bytes, or the first character of its word that is
no letter. -/
inductive Blames (a : Alphabet) (uppercase : Bool) (number : Nat) : Line → LoadError → Prop where
  /-- The line is no text. -/
  | badText {bs : List UInt8} {reason : Text.Utf8.Fault} : (∀ s, Text.Utf8.encode s ≠ bs) →
    Text.Utf8.decode bs = .error reason →
    Blames a uppercase number (.bytes bs) ⟨number, shownLine (.bytes bs), .badText reason⟩
  /-- The word of the line has a character that is no letter. -/
  | badWord {line : Line} {word : String} {earlier later : List Char} {c : Char} :
    wordOf? uppercase line = some word → word.toList = earlier ++ c :: later →
    (∀ d ∈ earlier, d ∈ a.letters) → c ∉ a.letters →
    Blames a uppercase number line
      ⟨number, word, .badWord (.illegalCharacter word c earlier.length)⟩

/-- A line is no text exactly if it cannot be read. -/
theorem unreadable_iff : Unreadable line ↔ ∃ reason, textOf line = .error reason := by
  cases line with
  | text s => exact iff_of_false (by rintro ⟨bs, ⟨⟩, -⟩) (by rintro ⟨reason, ⟨⟩⟩)
  | bytes bs =>
      rw [textOf, Text.Utf8.exists_decode_eq_error_iff]
      constructor
      · rintro ⟨_, ⟨⟩, h⟩
        exact h
      · exact fun h => ⟨bs, rfl, h⟩

instance : Decidable (Unreadable line) :=
  decidable_of_iff ((textOf line).toOption = none) <| by
    rw [unreadable_iff]
    cases textOf line <;> simp [Except.toOption]

instance (a : Alphabet) : Decidable (Misspelled a uppercase line) :=
  decidable_of_iff
    ((wordOf? uppercase line).any fun word => word.toList.any fun c => decide (c ∉ a.letters)) <| by
    simp [Misspelled, Option.any_eq_true]

instance (a : Alphabet) : Decidable (Bad a uppercase line) :=
  inferInstanceAs (Decidable (_ ∨ _))

/-- **The word of a line is not empty**, in upper case neither. -/
theorem wordOf?_ne_empty {word : String} (h : wordOf? uppercase line = some word) : word ≠ "" := by
  rw [wordOf?] at h
  cases htext : textOf line with
  | error reason =>
      rw [htext] at h
      cases h
  | ok s =>
      rw [htext] at h
      obtain ⟨⟨first, remark⟩, hparse, rfl⟩ := Option.map_eq_some_iff.mp h
      have hne := parseLine_word_ne_empty hparse
      show (if uppercase then Text.upper first else first) ≠ ""
      split
      · rw [Text.upper, ne_eq, String.ofList_eq_empty_iff]
        exact Text.upper_ne_nil fun hnil => hne (String.toList_eq_nil_iff.mp hnil)
      · exact hne

/-- **A line that is a text has a word unless it is blank.** -/
theorem wordOf?_eq_none_iff (hreadable : ¬ Unreadable line) :
    wordOf? uppercase line = none ↔ isBlankLine line = true := by
  rw [wordOf?, isBlankLine]
  cases htext : textOf line with
  | error reason => exact absurd (unreadable_iff.mpr ⟨reason, htext⟩) hreadable
  | ok s =>
      simp only [Option.map_eq_none_iff]
      rw [parseLine_eq_none_iff, List.all_eq_true]

/-- **The words of lines that are texts** are as many as the lines that are not blank. -/
theorem length_filterMap_wordOf? {lines : List Line} (h : ∀ line ∈ lines, ¬ Unreadable line) :
    (lines.filterMap (wordOf? uppercase)).length = lines.countP (!isBlankLine ·) := by
  rw [List.length_filterMap_eq_countP]
  refine List.countP_congr fun line hline => ?_
  rw [Option.isSome_iff_ne_none, ne_eq, wordOf?_eq_none_iff (h line hline), Bool.not_eq_true',
    Bool.not_eq_true]

/-! ## (3) Entries of lines -/

/-- The entry of a line holds its word. -/
theorem entry?_of_wordOf?_eq_some {word : String} (h : wordOf? uppercase line = some word)
    (number : Nat) : ∃ remark, entry? uppercase number line = .ok (some ⟨number, word, remark⟩) := by
  rw [wordOf?] at h
  unfold entry?
  cases htext : textOf line with
  | error reason =>
      rw [htext] at h
      cases h
  | ok s =>
      rw [htext] at h
      obtain ⟨⟨first, remark⟩, hparse, rfl⟩ := Option.map_eq_some_iff.mp h
      exact ⟨remark, by simp only [hparse, Option.map_some]⟩

/-- A line that is a text and has no word has no entry. -/
theorem entry?_of_wordOf?_eq_none (hreadable : ¬ Unreadable line)
    (h : wordOf? uppercase line = none) (number : Nat) : entry? uppercase number line = .ok none := by
  rw [wordOf?] at h
  unfold entry?
  cases htext : textOf line with
  | error reason => exact absurd (unreadable_iff.mpr ⟨reason, htext⟩) hreadable
  | ok s =>
      rw [htext] at h
      simp only [Option.map_eq_none_iff.mp h, Option.map_none]

end Vocabulary

/-! ## (4) Learning from lines -/

namespace Generator

open Vocabulary

variable {g : Generator} {learned settled : List String} {uppercase : Bool}

/-- **A word is refused for its first character that is no letter.** -/
theorem train_of_first_not_mem (g : Generator) {word : String} {earlier later : List Char} {c : Char}
    (hword : word.toList = earlier ++ c :: later) (hearlier : ∀ d ∈ earlier, d ∈ g.alphabet.letters)
    (hc : c ∉ g.alphabet.letters) :
    g.train word = .error (.refused (.illegalCharacter word c earlier.length)) := by
  have hnonempty : word.isEmpty = false := by
    rw [← Bool.not_eq_true, String.isEmpty_iff, ← String.toList_eq_nil_iff, hword]
    simp
  rw [train, hnonempty, if_neg Bool.false_ne_true,
    g.alphabet.encode_of_first_not_mem hword hearlier hc]

/-- **At a line that cannot be used**, learning ends, and the line is blamed. -/
theorem exists_trainLinesFrom_cons_of_bad (g : Generator) {line : Line}
    (hbad : Bad g.alphabet uppercase line) (number count : Nat) (after : List Line) :
    ∃ e, Blames g.alphabet uppercase number line e
      ∧ g.trainLinesFrom uppercase number count (line :: after) = (g, .error (.line e)) := by
  -- the two kinds exclude each other, because a line that is no text has no word
  rcases hbad with ⟨bs, rfl, hbytes⟩ | ⟨word, hword, c, hc, hforeign⟩
  · obtain ⟨reason, hdecode⟩ := Text.Utf8.exists_decode_eq_error_iff.mpr hbytes
    refine ⟨_, .badText hbytes hdecode, ?_⟩
    rw [Generator.trainLinesFrom, entry?, textOf, hdecode]
  · obtain ⟨earlier, foreign, later, hsplit, hletters, hforeign⟩ :=
      exists_first (· ∉ g.alphabet.letters) ⟨c, hc, hforeign⟩
    have hearlier : ∀ d ∈ earlier, d ∈ g.alphabet.letters := fun d hd => not_not.mp (hletters d hd)
    obtain ⟨remark, hentry⟩ := entry?_of_wordOf?_eq_some hword number
    refine ⟨_, .badWord hword hsplit hearlier hforeign, ?_⟩
    rw [Generator.trainLinesFrom, hentry]
    simp only [g.train_of_first_not_mem hsplit hearlier hforeign]

/-- **At a line that can be used**, its word is learned, if it has one, and learning goes on. -/
theorem Embodies.exists_trainLinesFrom_cons_of_good (h : g.Embodies learned settled) {line : Line}
    (hgood : ¬ Bad g.alphabet uppercase line) (count : Nat) :
    ∃ (next : Generator) (learned' : List String), next.Embodies learned' settled
      ∧ next.alphabet = g.alphabet
      ∧ (∀ words, g.trainAllFrom count ((wordOf? uppercase line).toList ++ words)
        = next.trainAllFrom (count + (wordOf? uppercase line).toList.length) words)
      ∧ ∀ number rest, g.trainLinesFrom uppercase number count (line :: rest)
        = next.trainLinesFrom uppercase (number + 1)
          (count + (wordOf? uppercase line).toList.length) rest := by
  cases hword : wordOf? uppercase line with
  | none =>
      refine ⟨g, learned, h, rfl, fun words => rfl, fun number rest => ?_⟩
      have hentry := entry?_of_wordOf?_eq_none (fun hbad => hgood (.inl hbad)) hword number
      rw [Generator.trainLinesFrom, hentry]
      rfl
  | some word =>
      have hspells : g.alphabet.Spells word :=
        ⟨wordOf?_ne_empty hword, fun c hc => by_contra fun hforeign =>
          hgood (.inr ⟨word, hword, c, hc, hforeign⟩)⟩
      have htrain := h.train_of_spells hspells
      refine ⟨_, _, h.learn hspells, rfl, fun words => ?_, fun number rest => ?_⟩
      · rw [Option.toList_some, List.singleton_append, Generator.trainAllFrom, htrain]
        rfl
      · obtain ⟨remark, hentry⟩ := entry?_of_wordOf?_eq_some hword number
        rw [Generator.trainLinesFrom, hentry]
        simp only [htrain, Option.toList_some, List.length_singleton]

/-- **Lines that can be used are learned as if their words alone had been given**, by induction on the
lines, and learning goes on after them. -/
theorem Embodies.trainLinesFrom_append (h : g.Embodies learned settled) {before : List Line}
    (hgood : ∀ line ∈ before, ¬ Bad g.alphabet uppercase line) (number count : Nat)
    (rest : List Line) :
    ∃ next, next.alphabet = g.alphabet
      ∧ g.trainAllFrom count (before.filterMap (wordOf? uppercase))
        = (next, .ok (count + (before.filterMap (wordOf? uppercase)).length))
      ∧ g.trainLinesFrom uppercase number count (before ++ rest)
        = next.trainLinesFrom uppercase (number + before.length)
          (count + (before.filterMap (wordOf? uppercase)).length) rest := by
  induction before generalizing g learned number count with
  | nil => exact ⟨g, rfl, rfl, rfl⟩
  | cons line before ih =>
      -- the generator after the first line embodies one more word, or the same as before
      obtain ⟨first, learned', hfirst, halphabet, hword, hline⟩ :=
        h.exists_trainLinesFrom_cons_of_good (hgood line List.mem_cons_self) count
      have hbefore : ∀ l ∈ before, ¬ Bad first.alphabet uppercase l := fun l hl => by
        rw [halphabet]
        exact hgood l (List.mem_cons_of_mem _ hl)
      obtain ⟨next, hnext, hall, hlines⟩ := ih hfirst hbefore (number + 1)
        (count + (wordOf? uppercase line).toList.length)
      have hwords : (line :: before).filterMap (wordOf? uppercase)
          = (wordOf? uppercase line).toList ++ before.filterMap (wordOf? uppercase) := by
        rw [List.filterMap_cons]
        cases wordOf? uppercase line <;> rfl
      have hcount : count + ((line :: before).filterMap (wordOf? uppercase)).length
          = count + (wordOf? uppercase line).toList.length
            + (before.filterMap (wordOf? uppercase)).length := by
        rw [hwords, List.length_append, Nat.add_assoc]
      have hplace : number + (line :: before).length = number + 1 + before.length := by
        rw [List.length_cons, Nat.add_right_comm, Nat.add_assoc]
      refine ⟨next, hnext.trans halphabet, ?_, ?_⟩
      · rw [hcount, hwords, hword, hall]
      · rw [hcount, hplace, List.cons_append, hline, hlines]

/-- **If every line can be used**, as many words are learned as there are lines that are not blank. -/
theorem Embodies.trainLines_of_good (h : g.Embodies learned settled) {lines : List Line}
    (hgood : ∀ line ∈ lines, ¬ Bad g.alphabet uppercase line) :
    (g.trainAll (lines.filterMap (wordOf? uppercase))).2
        = .ok (lines.filterMap (wordOf? uppercase)).length
      ∧ g.trainLines uppercase lines
        = ((g.trainAll (lines.filterMap (wordOf? uppercase))).1,
          .ok (lines.countP (!isBlankLine ·))) := by
  obtain ⟨next, -, hall, hlines⟩ := h.trainLinesFrom_append hgood 1 0 []
  rw [Nat.zero_add] at hall hlines
  have hcount : (lines.filterMap (wordOf? uppercase)).length = lines.countP (!isBlankLine ·) :=
    length_filterMap_wordOf? fun line hline hbad => hgood line hline (.inl hbad)
  rw [List.append_nil] at hlines
  rw [trainAll, hall, trainLines, hlines, ← hcount]
  exact ⟨rfl, rfl⟩

/-- **If some line cannot be used**, the first one is blamed, and the words before it are learned. -/
theorem Embodies.trainLines_of_first_bad (h : g.Embodies learned settled) {before after : List Line}
    {line : Line} (hgood : ∀ earlier ∈ before, ¬ Bad g.alphabet uppercase earlier)
    (hbad : Bad g.alphabet uppercase line) :
    (g.trainAll (before.filterMap (wordOf? uppercase))).2
        = .ok (before.filterMap (wordOf? uppercase)).length
      ∧ ∃ e, Blames g.alphabet uppercase (before.length + 1) line e
        ∧ g.trainLines uppercase (before ++ line :: after)
          = ((g.trainAll (before.filterMap (wordOf? uppercase))).1, .error (.line e)) := by
  obtain ⟨next, halphabet, hall, hlines⟩ := h.trainLinesFrom_append hgood 1 0 (line :: after)
  rw [← halphabet] at hbad
  obtain ⟨e, hblames, hstop⟩ := next.exists_trainLinesFrom_cons_of_bad hbad (1 + before.length)
    (0 + (before.filterMap (wordOf? uppercase)).length) after
  rw [halphabet, Nat.add_comm] at hblames
  rw [Nat.zero_add] at hall
  rw [trainAll, hall]
  exact ⟨rfl, e, hblames, hlines.trans hstop⟩

/-- **Training on lines, after any run.** If every line can be used, as many words are learned as there are
lines that are not blank, just as if the words alone had been given. Otherwise the first line that cannot
be used, told by its place, is blamed for being no text or for a character that is no letter; and just
the words of the lines before it are learned. No word is ever found to be empty. -/
theorem trainLines_run (alphabet : Alphabet) (order : Nat) (order_pos : 0 < order) (patience : Setting)
    (operations : List Operation) (uppercase : Bool) (lines : List Line) :
    let g := (untrained alphabet order order_pos patience).run operations
    let words (lines : List Line) := lines.filterMap (wordOf? uppercase)
    ((∀ line ∈ lines, ¬ Bad alphabet uppercase line) →
        (g.trainAll (words lines)).2 = .ok (words lines).length
          ∧ g.trainLines uppercase lines
            = ((g.trainAll (words lines)).1, .ok (lines.countP (!isBlankLine ·))))
      ∧ (∀ before line after, lines = before ++ line :: after →
        (∀ earlier ∈ before, ¬ Bad alphabet uppercase earlier) → Bad alphabet uppercase line →
        (g.trainAll (words before)).2 = .ok (words before).length
          ∧ ∃ e, Blames alphabet uppercase (before.length + 1) line e
            ∧ g.trainLines uppercase lines = ((g.trainAll (words before)).1, .error (.line e)))
      ∧ ((∀ line ∈ lines, ¬ Bad alphabet uppercase line)
        ∨ ∃ before line after, lines = before ++ line :: after
          ∧ (∀ earlier ∈ before, ¬ Bad alphabet uppercase earlier) ∧ Bad alphabet uppercase line)
      ∧ ∀ fault, (g.trainLines uppercase lines).2 = .error fault →
        ∃ e, fault = .line e ∧ e.fault ≠ .badWord .emptyWord := by
  intro g words
  have h := embodies_run alphabet order order_pos patience operations
  have halphabet : g.alphabet = alphabet :=
    (sameMake_run (untrained alphabet order order_pos patience) operations).alphabet_eq
  -- a line can be used by the generator exactly if it can by the alphabet
  have hbad : ∀ line, Bad g.alphabet uppercase line ↔ Bad alphabet uppercase line := fun line => by
    rw [halphabet]
  have hgoodRun : (∀ line ∈ lines, ¬ Bad alphabet uppercase line) → _ := fun hgood =>
    h.trainLines_of_good fun line hline => (hbad line).not.mpr (hgood line hline)
  have hbadRun : ∀ before line after, lines = before ++ line :: after →
      (∀ earlier ∈ before, ¬ Bad alphabet uppercase earlier) → Bad alphabet uppercase line →
      (g.trainAll (words before)).2 = .ok (words before).length
        ∧ ∃ e, Blames alphabet uppercase (before.length + 1) line e
          ∧ g.trainLines uppercase lines = ((g.trainAll (words before)).1, .error (.line e)) := by
    rintro before line after rfl hgood hline
    obtain ⟨hall, e, hblames, hrun⟩ := h.trainLines_of_first_bad
      (fun earlier hearlier => (hbad earlier).not.mpr (hgood earlier hearlier)) ((hbad line).mpr hline)
    exact ⟨hall, e, halphabet ▸ hblames, hrun⟩
  have hcases : (∀ line ∈ lines, ¬ Bad alphabet uppercase line)
      ∨ ∃ before line after, lines = before ++ line :: after
        ∧ (∀ earlier ∈ before, ¬ Bad alphabet uppercase earlier) ∧ Bad alphabet uppercase line := by
    by_cases hall : ∃ line ∈ lines, Bad alphabet uppercase line
    · exact .inr (exists_first _ hall)
    · exact .inl fun line hline hbad => hall ⟨line, hline, hbad⟩
  refine ⟨hgoodRun, hbadRun, hcases, fun fault hfault => ?_⟩
  rcases hcases with hgood | ⟨before, line, after, hlines, hgood, hline⟩
  · rw [(hgoodRun hgood).2] at hfault
    cases hfault
  · obtain ⟨-, e, hblames, hrun⟩ := hbadRun before line after hlines hgood hline
    rw [hrun] at hfault
    cases hfault
    refine ⟨e, rfl, ?_⟩
    cases hblames with
    | badText => nofun
    | badWord => nofun

/-- Over the letters `A` and `B`, bytes that are no text come before a word with another character, and
after a word and a blank line: they are blamed, by their place, and only the word before them is learned. -/
theorem trainLines_mixedLines :
    let g := (untrained .ofAB 2 Nat.two_pos (.integer 1000)).run mixedRun
    let lines : List Line := [.text "ab first", .text " ", .bytes [0xFF], .text "A?"]
    g.trainLines true lines
      = ((g.trainAll ["AB"]).1, .error (.line ⟨3, "\uFFFD", .badText .invalidStart⟩)) := by
  intro g lines
  obtain ⟨-, hbad, -, -⟩ :=
    trainLines_run .ofAB 2 Nat.two_pos (.integer 1000) mixedRun true lines
  obtain ⟨-, e, hblames, hrun⟩ := hbad [.text "ab first", .text " "] (.bytes [0xFF]) [.text "A?"] rfl
    (by decide +kernel) (by decide +kernel)
  have hwords : [Line.text "ab first", .text " "].filterMap (wordOf? true) = ["AB"] := by
    decide +kernel
  have hshown : shownLine (.bytes [0xFF]) = "\uFFFD" := by decide +kernel
  simp only [hwords] at hrun
  refine hrun.trans ?_
  cases hblames with
  | badText _ hdecode =>
      have hreason : Text.Utf8.decode [0xFF] = .error .invalidStart := by decide +kernel
      rw [hreason] at hdecode
      cases hdecode
      rw [hshown]
      rfl
  | badWord hword =>
      have hnone : wordOf? true (.bytes [0xFF]) = none := by decide +kernel
      rw [hnone] at hword
      cases hword

end Generator
end Pseudoword
