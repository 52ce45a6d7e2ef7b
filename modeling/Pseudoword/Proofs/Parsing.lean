import Mathlib
import Pseudoword.Proofs.Lines

/-! # Taking lines apart

There are two notions of a blank in a line: around it, and around what is said of its word, any white space is
dropped, but only a space ends the word. So a word may go on after a tab, and then end with one if a space
follows; and what is said may hold any blanks, but not at its ends. How a line without blanks at its ends
reads is told by a relation, which the function that takes lines apart decides.

* **`Text.Trimmed`** — characters with no blank at either end, with **`Text.Trimmed.trim_append`**.
* **`Text.exists_eq_append_trim`** — what is dropped around a line are blanks.
* **`Vocabulary.Reads`** — how a line reads, with **`Vocabulary.exists_reads`**.
* **`Vocabulary.parseLine_eq_some_iff`** — taking a line apart finds how it reads.
* **`Vocabulary.parseLine_spec`** — what is found, and that it is found again when it is written down. -/

namespace Pseudoword

/-! ## (1) Blanks around a line -/

namespace Text

variable {cs before after : List Char}

/-- **Nothing but blanks.** -/
def Blank (cs : List Char) : Prop :=
  ∀ c ∈ cs, isBlank c = true

/-- Blanks after blanks. -/
theorem Blank.append (hbefore : Blank before) (hafter : Blank after) : Blank (before ++ after) :=
  List.forall_mem_append.mpr ⟨hbefore, hafter⟩

/-- **No blank at either end.** -/
structure Trimmed (cs : List Char) : Prop where
  /-- The first character is none. -/
  first : ∀ c ∈ cs.head?, isBlank c = false
  /-- The last character is none. -/
  last : ∀ c ∈ cs.getLast?, isBlank c = false

/-- From such characters nothing is dropped. -/
theorem Trimmed.trim_eq (h : Trimmed cs) : trim cs = cs :=
  trim_eq_self h.first h.last

/-- **What is left has no blank at either end.** -/
theorem trimmed_trim (cs : List Char) : Trimmed (trim cs) where
  first c hc := by
    obtain ⟨ds, hds⟩ := List.head?_eq_some_iff.mp hc
    exact isBlank_of_trim_eq_cons hds
  last c hc := by
    rw [trim, dropEnd, List.getLast?_reverse] at hc
    have hhead := List.head?_dropWhile_not isBlank (cs.dropWhile isBlank).reverse
    rwa [hc] at hhead

/-- **No end of such characters is blank.** -/
theorem Trimmed.eq_nil_of_blank (h : Trimmed (cs ++ after)) (hafter : Blank after) : after = [] := by
  rcases List.eq_nil_or_concat' after with rfl | ⟨earlier, c, rfl⟩
  · rfl
  · have hblank := hafter c (List.mem_append_right _ (List.mem_singleton_self c))
    have hlast := h.last c (by rw [← List.append_assoc, List.getLast?_concat]; rfl)
    exact absurd (hlast.symm.trans hblank) Bool.false_ne_true

/-- **Of blanks around such characters** nothing is left but these. -/
theorem Trimmed.trim_append (h : Trimmed cs) (hbefore : Blank before) (hafter : Blank after) :
    trim (before ++ cs ++ after) = cs := by
  cases cs with
  | nil =>
      rw [List.append_nil, trim_eq_nil_iff]
      exact hbefore.append hafter
  | cons c cs =>
      have hstart : (c :: cs ++ after).dropWhile isBlank = c :: cs ++ after := by
        rw [List.cons_append, List.dropWhile_cons_of_neg]
        rw [h.first c rfl]
        exact Bool.false_ne_true
      have hend : dropEnd isBlank (c :: cs ++ after) = trim (c :: cs) := by
        rw [trim, List.dropWhile_cons_of_neg (by rw [h.first c rfl]; exact Bool.false_ne_true), dropEnd,
          dropEnd, List.reverse_append, List.dropWhile_append_of_pos fun d hd => ?_]
        exact hafter d (List.mem_reverse.mp hd)
      rw [trim, List.append_assoc, List.dropWhile_append_of_pos hbefore, hstart, hend,
        h.trim_eq]

/-- So it is with blanks in front alone. -/
theorem Trimmed.trim_blank_append (h : Trimmed cs) (hbefore : Blank before) :
    trim (before ++ cs) = cs := by
  have htrim := h.trim_append hbefore (show Blank [] from nofun)
  rwa [List.append_nil] at htrim

/-- What is dropped at the end satisfies the test. -/
theorem exists_eq_dropEnd_append (p : Char → Bool) (cs : List Char) :
    ∃ dropped, (∀ c ∈ dropped, p c = true) ∧ cs = dropEnd p cs ++ dropped := by
  refine ⟨(cs.reverse.takeWhile p).reverse, fun c hc => List.mem_takeWhile_imp (List.mem_reverse.mp hc), ?_⟩
  rw [dropEnd, ← List.reverse_append, List.takeWhile_append_dropWhile, List.reverse_reverse]

/-- **What was dropped are blanks.** -/
theorem exists_eq_append_trim (cs : List Char) :
    ∃ before after, Blank before ∧ Blank after ∧ cs = before ++ trim cs ++ after := by
  obtain ⟨after, hafter, hback⟩ := exists_eq_dropEnd_append isBlank (cs.dropWhile isBlank)
  refine ⟨cs.takeWhile isBlank, after, fun c hc => List.mem_takeWhile_imp hc, hafter, ?_⟩
  rw [trim, List.append_assoc, ← hback, List.takeWhile_append_dropWhile]

/-- **Blanks around a line** make no difference to what is left of it. -/
theorem trim_append (cs : List Char) (hbefore : Blank before) (hafter : Blank after) :
    trim (before ++ cs ++ after) = trim cs := by
  obtain ⟨blanks, blanks', hblanks, hblanks', hcs⟩ := exists_eq_append_trim cs
  have hall := (trimmed_trim cs).trim_append (hbefore.append hblanks) (hblanks'.append hafter)
  rwa [List.append_assoc, List.append_assoc, ← List.append_assoc blanks,
    ← List.append_assoc (blanks ++ trim cs), ← hcs, ← List.append_assoc] at hall

/-- So it makes no difference whether some of them were dropped at the end before. -/
theorem trim_dropEnd {p : Char → Bool} (hp : ∀ c, p c = true → isBlank c = true) (cs : List Char) :
    trim (dropEnd p cs) = trim cs := by
  obtain ⟨dropped, hdropped, hcs⟩ := exists_eq_dropEnd_append p cs
  have htrim := trim_append (dropEnd p cs) (show Blank [] from nofun) fun c hc => hp c (hdropped c hc)
  rw [List.nil_append, ← hcs] at htrim
  exact htrim.symm

end Text

/-! ## (2) How a line reads -/

namespace Vocabulary

variable {cs word : List Char} {remark : Option (List Char)}

/-- **The first word of a line** has no space in it, but it may have other blanks, although not in front. -/
structure IsWord (word : List Char) : Prop where
  /-- There is such a word. -/
  ne_nil : word ≠ []
  /-- It has no space. -/
  space_notMem : ' ' ∉ word
  /-- It does not begin with a blank. -/
  first : ∀ c ∈ word.head?, Text.isBlank c = false

/-- **How a line reads** that has no blank at either end: as a word alone, or as a word, a space, and after
any more blanks what is said of the word. -/
inductive Reads : List Char → List Char → Option (List Char) → Prop where
  /-- A word alone. -/
  | bare {word : List Char} : IsWord word → Text.Trimmed word → Reads word word none
  /-- A word of which something is said. -/
  | said {word gap remark : List Char} : IsWord word → Text.Blank gap → remark ≠ [] →
    Text.Trimmed remark → Reads (word ++ ' ' :: (gap ++ remark)) word (some remark)

/-- What reads as a word begins with it. -/
theorem Reads.isWord (h : Reads cs word remark) : IsWord word := by
  cases h with
  | bare hword _ => exact hword
  | said hword _ _ _ => exact hword

/-- If nothing is said, there is nothing but the word. -/
theorem Reads.eq_word (h : Reads cs word none) : cs = word := by
  cases h
  rfl

/-- If something is said, it comes last, behind a space and any more blanks. -/
theorem Reads.exists_gap {said : List Char} (h : Reads cs word (some said)) :
    ∃ gap, Text.Blank gap ∧ said ≠ [] ∧ Text.Trimmed said ∧ cs = word ++ ' ' :: (gap ++ said) := by
  cases h with
  | said _ hgap hne hsaid => exact ⟨_, hgap, hne, hsaid, rfl⟩

/-- **What reads as a word** has no blank at either end. -/
theorem Reads.trimmed (h : Reads cs word remark) : Text.Trimmed cs := by
  cases h with
  | bare _ htrimmed => exact htrimmed
  | said hword _ hne hremark =>
      refine ⟨fun c hc => hword.first c ?_, fun c hc => hremark.last c ?_⟩
      · rwa [List.head?_append_of_ne_nil _ hword.ne_nil] at hc
      · rwa [List.getLast?_append_of_ne_nil _ (List.cons_ne_nil _ _), ← List.cons_append,
          List.getLast?_append_of_ne_nil _ hne] at hc

/-- **There is a space exactly if something is said.** -/
theorem Reads.space_mem_iff (h : Reads cs word remark) : ' ' ∈ cs ↔ remark ≠ none := by
  cases h with
  | bare hword _ => exact iff_of_false hword.space_notMem fun hne => hne rfl
  | said hword _ _ _ => exact iff_of_true (by simp) (Option.some_ne_none _)

/-- **Every line reads somehow** that has no blank at either end and is not empty. The word ends at the first
space, if there is one, and something comes after it. -/
theorem exists_reads (h : Text.Trimmed cs) (hne : cs ≠ []) : ∃ word remark, Reads cs word remark := by
  by_cases hspace : ' ' ∈ cs
  · obtain ⟨word, rest, rfl, hword⟩ := List.eq_append_cons_of_mem hspace
    obtain ⟨gap, after, hgap, hafter, hrest⟩ := Text.exists_eq_append_trim rest
    -- there is something before the space, since a space is a blank
    have hne : word ≠ [] := by
      rintro rfl
      cases h.first ' ' rfl
    have hfirst : ∀ c ∈ word.head?, Text.isBlank c = false := fun c hc =>
      h.first c (by rwa [List.head?_append_of_ne_nil _ hne])
    -- and after it, for the same reason
    have hremark : Text.trim rest ≠ [] := fun hnil => by
      have hblank : Text.Blank (' ' :: rest) :=
        List.forall_mem_cons.mpr ⟨by decide, Text.trim_eq_nil_iff.mp hnil⟩
      cases h.eq_nil_of_blank hblank
    obtain rfl : after = [] := by
      rw [hrest, ← List.cons_append, ← List.append_assoc] at h
      exact h.eq_nil_of_blank hafter
    rw [List.append_nil] at hrest
    refine ⟨word, some (Text.trim rest), ?_⟩
    have hreads := Reads.said ⟨hne, hword, hfirst⟩ hgap hremark (Text.trimmed_trim rest)
    rwa [← hrest] at hreads
  · exact ⟨cs, none, .bare ⟨hne, hspace, h.first⟩ h⟩

/-! ## (3) Taking a line apart -/

/-- The characters of a word stand before the first space. -/
theorem IsWord.bne_space (h : IsWord word) : ∀ c ∈ word, (c != ' ') = true := fun _ hc =>
  bne_iff_ne.mpr fun heq => h.space_notMem (heq ▸ hc)

/-- **Taking a line apart gives what it reads as.** -/
theorem parseLine_of_reads {line : String} (h : Reads (Text.trim line.toList) word remark) :
    parseLine line = some (String.ofList word, remark.map String.ofList) := by
  rw [parseLine]
  generalize Text.trim line.toList = cs at h
  cases h with
  | bare hword _ =>
      have htake : word.takeWhile (· != ' ') = word := List.takeWhile_eq_self_iff.mpr hword.bne_space
      have hdrop : word.dropWhile (· != ' ') = [] := List.dropWhile_eq_nil_iff.mpr hword.bne_space
      simp [htake, hdrop, hword.ne_nil]
  | @said _ gap remark hword hgap hne hremark =>
      have htake : (word ++ ' ' :: (gap ++ remark)).takeWhile (· != ' ') = word := by
        rw [List.takeWhile_append_of_pos hword.bne_space, List.takeWhile_cons_of_neg (by decide),
          List.append_nil]
      have hdrop : (word ++ ' ' :: (gap ++ remark)).dropWhile (· != ' ') = ' ' :: (gap ++ remark) := by
        rw [List.dropWhile_append_of_pos hword.bne_space, List.dropWhile_cons_of_neg (by decide)]
      simp [htake, hdrop, hremark.trim_blank_append hgap, hne]

/-- **Taking a line apart finds how it reads**, and nothing else. -/
theorem parseLine_eq_some_iff {line word : String} {remark : Option String} :
    parseLine line = some (word, remark) ↔
      Reads (Text.trim line.toList) word.toList (remark.map String.toList) := by
  constructor
  · intro hparse
    have hne : Text.trim line.toList ≠ [] := fun hnil => by
      rw [Text.trim_eq_nil_iff, ← parseLine_eq_none_iff, hparse] at hnil
      cases hnil
    obtain ⟨w, r, hreads⟩ := exists_reads (Text.trimmed_trim line.toList) hne
    cases hparse.symm.trans (parseLine_of_reads hreads)
    simpa using hreads
  · intro hreads
    simpa [Function.comp_def] using parseLine_of_reads hreads

/-- **Blanks around a line** make no difference to how it is taken apart. -/
theorem parseLine_append {before after : String} (line : String) (hbefore : Text.Blank before.toList)
    (hafter : Text.Blank after.toList) : parseLine (before ++ line ++ after) = parseLine line := by
  rw [parseLine, parseLine, String.toList_append, String.toList_append,
    Text.trim_append line.toList hbefore hafter]

/-- **Line ends may be dropped first.** -/
theorem parseLine_dropEnd {p : Char → Bool} (hp : ∀ c, p c = true → Text.isBlank c = true) (line : String) :
    parseLine (String.ofList (Text.dropEnd p line.toList)) = parseLine line := by
  rw [parseLine, parseLine, String.toList_ofList, Text.trim_dropEnd hp]

/-- **A word and what is said of it, written down** with a single space between them. -/
def written (word : String) : Option String → String
  | none => word
  | some said => word ++ " " ++ said

/-- **What a line reads as, written down,** reads in the same way. -/
theorem Reads.written {word : String} {remark : Option String}
    (h : Reads cs word.toList (remark.map String.toList)) :
    Reads (written word remark).toList word.toList (remark.map String.toList) := by
  cases remark with
  | none =>
      cases h with
      | bare hword htrimmed => exact .bare hword htrimmed
  | some said =>
      cases h with
      | said hword _ hne htrimmed =>
          have hreads := Reads.said hword (show Text.Blank [] from nofun) hne htrimmed
          simpa [Vocabulary.written] using hreads

/-! ## (4) Every line -/

/-- **What taking a line apart finds**, whether or not its line ends are dropped first. Nothing exactly if all
of it is blank; otherwise a word that is not empty, has no space and does not begin with a blank. If there is
no space in the line without the blanks around it, that is the word, and nothing is said of it. If there is
one, something is said of the word, with no blank at either end, and the line is the word, a space, and that
behind more blanks. What was found is found again when it is written down, with any blanks around it. -/
theorem parseLine_spec (line : String) :
    parseLine (String.ofList (Text.dropEnd (fun c => c == '\r' || c == '\n') line.toList)) = parseLine line
      ∧ (parseLine line = none ↔ ∀ c ∈ line.toList, Text.isBlank c = true)
      ∧ ∀ word remark, parseLine line = some (word, remark) →
        word ≠ "" ∧ ' ' ∉ word.toList ∧ (∀ c ∈ word.toList.head?, Text.isBlank c = false)
        ∧ (remark = none ↔ ' ' ∉ (Text.strip line).toList)
        ∧ (remark = none → word = Text.strip line)
        ∧ (∀ said, remark = some said →
          said ≠ "" ∧ (∀ c ∈ said.toList.head?, Text.isBlank c = false)
          ∧ (∀ c ∈ said.toList.getLast?, Text.isBlank c = false)
          ∧ ∃ rest, Text.strip line = word ++ " " ++ rest ∧ Text.strip rest = said)
        ∧ ∀ before after : String, (∀ c ∈ before.toList, Text.isBlank c = true) →
          (∀ c ∈ after.toList, Text.isBlank c = true) →
          parseLine (before ++ written word remark ++ after) = some (word, remark) := by
  have hends : ∀ c, (c == '\r' || c == '\n') = true → Text.isBlank c = true := by
    intro c hc
    rw [Bool.or_eq_true, beq_iff_eq, beq_iff_eq] at hc
    rcases hc with rfl | rfl <;> decide
  refine ⟨parseLine_dropEnd hends line, parseLine_eq_none_iff, fun word remark hparse => ?_⟩
  have hreads := parseLine_eq_some_iff.mp hparse
  have hword := hreads.isWord
  refine ⟨?_, hword.space_notMem, hword.first, ?_, ?_, ?_, fun before after hbefore hafter => ?_⟩
  · rintro rfl
    exact hword.ne_nil rfl
  · rw [Text.strip, String.toList_ofList, hreads.space_mem_iff, not_not, Option.map_eq_none_iff]
  · rintro rfl
    rw [Text.strip, hreads.eq_word, String.ofList_toList]
  · rintro said rfl
    obtain ⟨gap, hgap, hne, hsaid, hline⟩ := hreads.exists_gap
    refine ⟨?_, hsaid.first, hsaid.last, String.ofList gap ++ said, ?_, ?_⟩
    · rintro rfl
      exact hne rfl
    · rw [Text.strip, hline, ← String.toList_inj]
      simp
    · rw [Text.strip, String.toList_append, String.toList_ofList, hsaid.trim_blank_append hgap,
        String.ofList_toList]
  · rw [parseLine_append _ hbefore hafter, parseLine_eq_some_iff, hreads.written.trimmed.trim_eq]
    exact hreads.written

/-- A tab belongs to the word before a space, and of the spaces behind the word and around the line all but
one are lost when it is written down again. -/
theorem parseLine_mixedLine :
    parseLine "\tAB\t  a  b \r\n" = some ("AB\t", some "a  b")
      ∧ Text.strip "\tAB\t  a  b \r\n" = "AB\t  a  b"
      ∧ ∀ before after : String, (∀ c ∈ before.toList, Text.isBlank c = true) →
        (∀ c ∈ after.toList, Text.isBlank c = true) →
        parseLine (before ++ "AB\t a  b" ++ after) = some ("AB\t", some "a  b") := by
  have hparse : parseLine "\tAB\t  a  b \r\n" = some ("AB\t", some "a  b") := by decide +kernel
  obtain ⟨-, -, hspec⟩ := parseLine_spec "\tAB\t  a  b \r\n"
  obtain ⟨-, -, -, -, -, -, hagain⟩ := hspec _ _ hparse
  exact ⟨hparse, by decide +kernel, hagain⟩

end Vocabulary
end Pseudoword
