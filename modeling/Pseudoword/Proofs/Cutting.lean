import Mathlib
import Pseudoword.Proofs.Lines

/-! # Lines of texts and of bytes

A vocabulary may be given as texts, as bytes that spell them, or as a file, which is cut into lines before
its bytes are read. That makes no difference: a line feed has a byte of its own, which is part of no other
character, so that cutting the bytes of a text is cutting the text. For the same reason bytes spell a text
exactly if each of their lines does.

* **`Cut`** — what it is to cut after each separator, with **`Cut.unique`** and **`exists_cut`**.
* **`Cut.encode`** — the spelling of a text is cut where the text is.
* **`Vocabulary.entriesFrom_of_shows`**, **`Generator.trainLinesFrom_of_shows`** — lines that show texts.
* **`Vocabulary.load_of_first_unreadable`** — what a file is refused for.
* **`Vocabulary.loads_as_text`** — all of this together. -/

namespace Pseudoword

/-! ## (1) Cutting -/

section

variable {α : Type} {separator : α} {content : List α} {pieces : List (List α)}

/-- **A content cut after each separator**, and nowhere else. What follows the last separator is a piece
unless it is empty. -/
inductive Cut (separator : α) : List α → List (List α) → Prop where
  /-- Nothing is left. -/
  | nil : Cut separator [] []
  /-- There is something left, but no separator. -/
  | last {piece : List α} (hne : piece ≠ []) (hfree : separator ∉ piece) :
    Cut separator piece [piece]
  /-- The content is cut after the first separator. -/
  | after {body rest : List α} {pieces : List (List α)} (hfree : separator ∉ body)
      (hrest : Cut separator rest pieces) :
    Cut separator (body ++ separator :: rest) ((body ++ [separator]) :: pieces)

/-- The pieces make up the content. -/
theorem Cut.flatten_eq (h : Cut separator content pieces) : pieces.flatten = content := by
  induction h with
  | nil => rfl
  | last => exact List.flatten_singleton
  | after _ _ ih => rw [List.flatten_cons, ih, List.append_assoc, List.singleton_append]

/-- **Every content can be cut.** -/
theorem exists_cut [DecidableEq α] (separator : α) (content : List α) :
    ∃ pieces, Cut separator content pieces := by
  induction content with
  | nil => exact ⟨[], .nil⟩
  | cons a content ih =>
      obtain ⟨pieces, hcut⟩ := ih
      by_cases ha : a = separator
      · subst ha
        have hfirst : Cut a ([] ++ a :: content) (([] ++ [a]) :: pieces) :=
          .after List.not_mem_nil hcut
        exact ⟨_, hfirst⟩
      · -- the first piece gets one longer
        have hcons : ∀ {piece : List α}, separator ∉ piece → separator ∉ a :: piece := by
          intro piece hfree hmem
          rcases List.mem_cons.mp hmem with h | h
          · exact ha h.symm
          · exact hfree h
        cases hcut with
        | nil => exact ⟨_, .last (List.cons_ne_nil a []) (hcons List.not_mem_nil)⟩
        | last _ hfree => exact ⟨_, .last (List.cons_ne_nil a _) (hcons hfree)⟩
        | @after body rest pieces hfree hrest =>
            have hfirst : Cut separator ((a :: body) ++ separator :: rest)
                (((a :: body) ++ [separator]) :: pieces) := .after (hcons hfree) hrest
            exact ⟨_, hfirst⟩

/-- Elements that are no separators follow each other in one piece, whatever comes last. -/
theorem isChain_concat [DecidableEq α] {body : List α} (hfree : separator ∉ body) (a : α) :
    (body ++ [a]).IsChain fun b _ => (b != separator) = true := by
  induction body with
  | nil => exact List.isChain_singleton a
  | cons b body ih =>
      have hb : (b != separator) = true := by
        rw [bne_iff_ne]
        rintro rfl
        exact hfree List.mem_cons_self
      rw [List.cons_append, List.isChain_cons]
      exact ⟨fun _ _ => hb, ih fun hmem => hfree (List.mem_cons_of_mem b hmem)⟩

/-- **Cutting after each separator** is what splitting between neighbours does. -/
theorem Cut.splitBy_eq [DecidableEq α] (h : Cut separator content pieces) :
    content.splitBy (fun b _ => b != separator) = pieces := by
  induction h with
  | nil => rfl
  | @last piece hne hfree =>
      obtain ⟨body, a, rfl⟩ := (List.eq_nil_or_concat' piece).resolve_left hne
      exact List.splitBy_of_isChain hne
        (isChain_concat (fun hmem => hfree (List.mem_append_left [a] hmem)) a)
  | @after body rest pieces hfree _ ih =>
      have hbody : (body ++ [separator]).splitBy (fun b _ => b != separator) = [body ++ [separator]] :=
        List.splitBy_of_isChain (List.concat_ne_nil separator body) (isChain_concat hfree separator)
      have hcut : ((body ++ [separator]) ++ rest).splitBy (fun b _ => b != separator)
          = (body ++ [separator]).splitBy (fun b _ => b != separator)
            ++ rest.splitBy (fun b _ => b != separator) := by
        refine List.splitBy_append fun x hx y _ => ?_
        rw [List.getLast?_concat, Option.mem_some] at hx
        subst hx
        exact bne_self_eq_false _
      rw [List.append_cons, hcut, hbody, ih, List.singleton_append]

/-- **There is one way to cut a content.** -/
theorem Cut.unique [DecidableEq α] {pieces' : List (List α)} (h : Cut separator content pieces)
    (h' : Cut separator content pieces') : pieces' = pieces :=
  h'.splitBy_eq.symm.trans h.splitBy_eq

/-- A content is cut in that way and in no other. -/
theorem Cut.iff_eq [DecidableEq α] {pieces' : List (List α)} (h : Cut separator content pieces) :
    Cut separator content pieces' ↔ pieces' = pieces := by
  constructor
  · exact h.unique
  · rintro rfl
    exact h

/-- **A piece comes after as many separators** as there are pieces before it. -/
theorem Cut.count_flatten [DecidableEq α] (h : Cut separator content pieces)
    {before after : List (List α)} {piece : List α} (hpieces : pieces = before ++ piece :: after) :
    before.flatten.count separator = before.length := by
  induction h generalizing before with
  | nil => cases before <;> cases hpieces
  | last =>
      cases before with
      | nil => rfl
      | cons first before =>
          have hlength := congrArg List.length hpieces
          simp only [List.length_append, List.length_cons, List.length_nil] at hlength
          omega
  | @after body rest pieces hfree _ ih =>
      cases before with
      | nil => rfl
      | cons first before =>
          obtain ⟨rfl, hrest⟩ := List.cons.inj hpieces
          have hbody : (body ++ [separator]).count separator = 1 := by
            rw [List.count_append, List.count_eq_zero.mpr hfree, List.count_singleton_self]
          rw [List.flatten_cons, List.count_append, hbody, ih hrest, List.length_cons, Nat.add_comm]

end

/-! ## (2) Cutting the bytes of a text -/

namespace Text.Utf8

/-- A sequence of several bytes has no line feed. -/
theorem lineFeed_not_mem_sequence {lead : Nat} (hlow : 128 ≤ lead) (hhigh : lead < 256)
    (bits : List Nat) : Vocabulary.lineFeed ∉ UInt8.ofNat lead :: bits.map continuation := by
  have hten : Vocabulary.lineFeed.toNat = 10 := rfl
  intro hmem
  rcases List.mem_cons.mp hmem with heq | hmem
  · have hvalue : Vocabulary.lineFeed.toNat = (UInt8.ofNat lead).toNat := congrArg UInt8.toNat heq
    rw [UInt8.toNat_ofNat', Nat.mod_eq_of_lt hhigh, hten] at hvalue
    omega
  · obtain ⟨tail, -, heq⟩ := List.mem_map.mp hmem
    have hvalue : (continuation tail).toNat = Vocabulary.lineFeed.toNat := congrArg UInt8.toNat heq
    rw [toNat_continuation, hten] at hvalue
    omega

/-- **The byte of a line feed is part of no other character.** -/
theorem lineFeed_mem_encodeChar_iff {c : Char} :
    Vocabulary.lineFeed ∈ encodeChar c ↔ c = '\n' := by
  constructor
  · intro hmem
    have hsequence := sequence_encodeChar c
    generalize encodeChar c = bytes at hmem hsequence
    cases hsequence with
    | @one n hn =>
        have hvalue : Vocabulary.lineFeed.toNat = (UInt8.ofNat n).toNat :=
          congrArg UInt8.toNat (List.mem_singleton.mp hmem)
        have hten : Vocabulary.lineFeed.toNat = 10 := rfl
        rw [UInt8.toNat_ofNat', Nat.mod_eq_of_lt (by omega), hten] at hvalue
        rw [← hvalue]
    | @two x y hlow hx hy =>
        exact absurd hmem (lineFeed_not_mem_sequence (by omega) (by omega) [y])
    | @three x y z hx hy hz =>
        exact absurd hmem (lineFeed_not_mem_sequence (by omega) (by omega) [y, z])
    | @four x y z v hx hy hz hv =>
        exact absurd hmem (lineFeed_not_mem_sequence (by omega) (by omega) [y, z, v])
  · rintro rfl
    exact List.mem_singleton_self _

/-- Text without a line feed is spelled without one. -/
theorem lineFeed_not_mem_flatMap {cs : List Char} (hfree : '\n' ∉ cs) :
    Vocabulary.lineFeed ∉ cs.flatMap encodeChar := by
  intro hmem
  obtain ⟨c, hc, hbyte⟩ := List.mem_flatMap.mp hmem
  exact hfree (lineFeed_mem_encodeChar_iff.mp hbyte ▸ hc)

/-- A text is spelled by bytes unless it is empty. -/
theorem flatMap_encodeChar_ne_nil {cs : List Char} (hne : cs ≠ []) : cs.flatMap encodeChar ≠ [] := by
  obtain ⟨c, rest, rfl⟩ := List.exists_cons_of_ne_nil hne
  rw [List.flatMap_cons]
  exact List.append_ne_nil_of_left_ne_nil (encodeChar_ne_nil c) _

end Text.Utf8

/-- **The spelling of a text is cut where the text is.** -/
theorem Cut.encode {cs : List Char} {pieces : List (List Char)} (h : Cut '\n' cs pieces) :
    Cut Vocabulary.lineFeed (cs.flatMap Text.Utf8.encodeChar)
      (pieces.map fun piece => piece.flatMap Text.Utf8.encodeChar) := by
  have hfeed : Text.Utf8.encodeChar '\n' = [Vocabulary.lineFeed] := rfl
  induction h with
  | nil => exact .nil
  | last hne hfree =>
      exact .last (Text.Utf8.flatMap_encodeChar_ne_nil hne) (Text.Utf8.lineFeed_not_mem_flatMap hfree)
  | after hfree _ ih =>
      have hfirst := Cut.after (Text.Utf8.lineFeed_not_mem_flatMap hfree) ih
      rw [List.map_cons, List.flatMap_append, List.flatMap_append, List.flatMap_cons, hfeed,
        List.flatMap_singleton, hfeed]
      exact hfirst

namespace Vocabulary

/-- **The lines of a file** are its content cut after each line feed. -/
theorem cut_cutLines (content : List UInt8) : Cut lineFeed content (cutLines content) := by
  obtain ⟨pieces, hcut⟩ := exists_cut lineFeed content
  rw [cutLines, hcut.splitBy_eq]
  exact hcut

end Vocabulary

/-! ## (3) Lines that show the same texts -/

/-- **A line shows a text** as it is, or in bytes that spell it. -/
inductive Line.Shows : Line → String → Prop where
  /-- The line is the text. -/
  | text (s : String) : Shows (.text s) s
  /-- The line holds the bytes that spell the text. -/
  | bytes (s : String) : Shows (.bytes (Text.Utf8.encode s)) s

variable {uppercase : Bool} {line line' : Line} {lines : List Line} {texts : List String} {s : String}

/-- A line that shows a text is read as that text. -/
theorem Line.Shows.textOf_eq (h : line.Shows s) : Vocabulary.textOf line = .ok s := by
  cases h with
  | text => rfl
  | bytes => exact Text.Utf8.decode_eq_ok_iff.mpr rfl

namespace Vocabulary

/-- **The entry of a line** is that of the text that it shows. -/
theorem entry?_of_shows (h : line.Shows s) (uppercase : Bool) (number : Nat) :
    entry? uppercase number line = entry? uppercase number (.text s) := by
  unfold entry?
  rw [h.textOf_eq, textOf]

/-- **The entries of lines** are those of the texts that they show. -/
theorem entriesFrom_of_shows (h : List.Forall₂ Line.Shows lines texts) (uppercase : Bool)
    (number : Nat) :
    entriesFrom uppercase number lines = entriesFrom uppercase number (texts.map .text) := by
  induction h generalizing number with
  | nil => rfl
  | cons hline _ ih =>
      rw [List.map_cons, entriesFrom, entriesFrom, entry?_of_shows hline, ih]

end Vocabulary

/-- **Training on lines** is training on the texts that they show. -/
theorem Generator.trainLinesFrom_of_shows (h : List.Forall₂ Line.Shows lines texts) (g : Generator)
    (uppercase : Bool) (number learned : Nat) :
    g.trainLinesFrom uppercase number learned lines
      = g.trainLinesFrom uppercase number learned (texts.map .text) := by
  induction h generalizing g number learned with
  | nil => rfl
  | cons hline _ ih =>
      rw [List.map_cons, Generator.trainLinesFrom, Generator.trainLinesFrom,
        Vocabulary.entry?_of_shows hline]
      simp only [ih]

/-! ## (4) Loading files -/

namespace Vocabulary

/-- The entries of lines that can be read are followed by those of the lines after them, if any. -/
theorem entriesFrom_append_of_shows (uppercase : Bool) {before : List Line}
    (h : List.Forall₂ Line.Shows before texts) (number : Nat) (after : List Line) :
    entriesFrom uppercase number (before ++ after)
      = ((entriesFrom uppercase number before).1
          ++ (entriesFrom uppercase (number + before.length) after).1,
        (entriesFrom uppercase (number + before.length) after).2) := by
  induction h generalizing number with
  | nil => rfl
  | @cons line s before texts hline _ ih =>
      obtain ⟨entry, hentry⟩ : ∃ entry, entry? uppercase number line = .ok entry := by
        rw [entry?_of_shows hline]
        exact ⟨_, rfl⟩
      have hplace : number + (line :: before).length = number + 1 + before.length := by
        rw [List.length_cons]
        omega
      rw [List.cons_append, entriesFrom, entriesFrom, hentry, hplace]
      dsimp only
      rw [ih, List.append_assoc]

/-- **Lines that show texts are all read.** -/
theorem entries_of_shows (h : List.Forall₂ Line.Shows lines texts) (uppercase : Bool) :
    entries uppercase lines = ((entries uppercase (texts.map .text)).1, none) := by
  have happend := entriesFrom_append_of_shows uppercase h 1 []
  rw [List.append_nil] at happend
  have hnone : (entries uppercase lines).2 = none := by
    rw [entries, happend]
    rfl
  have hsame : entries uppercase lines = entries uppercase (texts.map .text) :=
    entriesFrom_of_shows h uppercase 1
  rw [← hsame]
  exact Prod.ext rfl hnone

/-- **The number of an entry** is that of its line. -/
theorem exists_line_of_mem_entriesFrom (uppercase : Bool) (number : Nat) {lines : List Line}
    {entry : Entry} (h : entry ∈ (entriesFrom uppercase number lines).1) :
    ∃ before line after, lines = before ++ line :: after ∧ entry.number = number + before.length
      ∧ entry? uppercase entry.number line = .ok (some entry) := by
  induction lines generalizing number with
  | nil => cases h
  | cons line lines ih =>
      rw [entriesFrom] at h
      cases hentry : entry? uppercase number line with
      | error e =>
          rw [hentry] at h
          cases h
      | ok own =>
          rw [hentry] at h
          rcases List.mem_append.mp h with hown | hlater
          · obtain rfl := Option.mem_toList.mp hown
            have hnumber : entry.number = number := by
              unfold entry? at hentry
              split at hentry
              · cases hentry
              · obtain ⟨_, _, rfl⟩ := Option.map_eq_some_iff.mp (Except.ok.inj hentry)
                rfl
            refine ⟨[], line, lines, rfl, hnumber, ?_⟩
            rw [hnumber, hentry]
          · obtain ⟨before, line', after, rfl, hnumber, hentry'⟩ := ih (number + 1) hlater
            refine ⟨line :: before, line', after, rfl, ?_, hentry'⟩
            rw [hnumber, List.length_cons]
            omega

/-- **The lines of a text in a file** show the lines of the text. -/
theorem shows_linesOf {content : String} (h : Cut '\n' content.toList (texts.map String.toList)) :
    List.Forall₂ Line.Shows (linesOf (Text.Utf8.encode content)) texts := by
  have hcut : cutLines (Text.Utf8.encode content) = texts.map Text.Utf8.encode := by
    have hpieces := (cut_cutLines _).unique h.encode
    rw [List.map_map] at hpieces
    exact hpieces.symm
  rw [linesOf, hcut, List.map_map, List.forall₂_map_left_iff, List.forall₂_same]
  exact fun s _ => .bytes s

/-- Bytes of which every line spells a text spell one as a whole. -/
theorem exists_encode_eq {content : List UInt8}
    (h : ∀ line ∈ cutLines content, ∃ s, Text.Utf8.encode s = line) :
    ∃ s, Text.Utf8.encode s = content := by
  obtain ⟨texts, htexts⟩ : cutLines content ∈ Set.range (List.map Text.Utf8.encode) := by
    rw [Set.range_list_map]
    exact h
  refine ⟨String.ofList (texts.flatMap String.toList), ?_⟩
  rw [Text.Utf8.encode, String.toList_ofList, List.flatMap_assoc]
  show texts.flatMap Text.Utf8.encode = content
  rw [List.flatMap_def, htexts, (cut_cutLines content).flatten_eq]

/-- **The first line that is no text** is what a file is refused for. -/
theorem load_of_first_unreadable (uppercase : Bool) {content : List UInt8}
    {before after : List (List UInt8)} {bytes : List UInt8} {reason : Text.Utf8.Fault}
    (hlines : cutLines content = before ++ bytes :: after)
    (hbefore : ∀ earlier ∈ before, ∃ s, Text.Utf8.encode s = earlier)
    (hreason : Text.Utf8.decode bytes = .error reason) :
    load uppercase content
      = .error ⟨1 + before.flatten.count lineFeed, shownLine (.bytes bytes), .badText reason⟩ := by
  have hcount := (cut_cutLines content).count_flatten hlines
  obtain ⟨texts, rfl⟩ : before ∈ Set.range (List.map Text.Utf8.encode) := by
    rw [Set.range_list_map]
    exact hbefore
  have hshows : List.Forall₂ Line.Shows ((texts.map Text.Utf8.encode).map .bytes) texts := by
    rw [List.map_map, List.forall₂_map_left_iff, List.forall₂_same]
    exact fun s _ => .bytes s
  have hentries := entriesFrom_append_of_shows uppercase hshows 1 (.bytes bytes :: after.map .bytes)
  rw [load, entries, linesOf, hlines, List.map_append, List.map_cons, hentries, entriesFrom, entry?,
    textOf, hreason, List.length_map, hcount]

/-- **A file either spells a text**, or there is a first line that spells none. -/
theorem exists_encode_or_first_unreadable (content : List UInt8) :
    (∃ s, Text.Utf8.encode s = content)
      ∨ ∃ before bytes after, cutLines content = before ++ bytes :: after
        ∧ (∀ earlier ∈ before, ∃ s, Text.Utf8.encode s = earlier)
        ∧ ∀ s, Text.Utf8.encode s ≠ bytes := by
  rcases forall_or_exists_first (fun bytes => ∃ s, Text.Utf8.encode s = bytes) (cutLines content) with
    hall | ⟨before, bytes, after, hlines, hbefore, hbytes⟩
  · exact .inl (exists_encode_eq hall)
  · exact .inr ⟨before, bytes, after, hlines, hbefore, not_exists.mp hbytes⟩

/-- **The file of a text** has the entries of its lines. -/
theorem load_encode (uppercase : Bool) {content : String}
    (h : Cut '\n' content.toList (texts.map String.toList)) :
    load uppercase (Text.Utf8.encode content) = .ok (entries uppercase (texts.map .text)).1 := by
  rw [load, entries_of_shows (shows_linesOf h)]

/-- The lines of a text are texts. -/
theorem exists_texts (content : String) :
    ∃ texts : List String, Cut '\n' content.toList (texts.map String.toList) := by
  obtain ⟨pieces, hcut⟩ := exists_cut '\n' content.toList
  refine ⟨pieces.map String.ofList, ?_⟩
  have htoList : String.toList ∘ String.ofList = id := funext fun cs => String.toList_ofList
  rw [List.map_map, htoList, List.map_id]
  exact hcut

/-- **The entry of a line of a text** is numbered by the line feeds before the line. -/
theorem exists_text_of_mem_entries {content : String}
    (h : Cut '\n' content.toList (texts.map String.toList)) {entry : Entry}
    (hentry : entry ∈ (entries uppercase (texts.map .text)).1) :
    ∃ before s after, texts = before ++ s :: after
      ∧ entry.number = 1 + (before.flatMap String.toList).count '\n'
      ∧ entry? uppercase entry.number (.text s) = .ok (some entry) := by
  obtain ⟨before, line, after, hlines, hnumber, hown⟩ :=
    exists_line_of_mem_entriesFrom uppercase 1 hentry
  obtain ⟨before, later, rfl, rfl, hlater⟩ := List.map_eq_append_iff.mp hlines
  obtain ⟨s, after, rfl, rfl, rfl⟩ := List.map_eq_cons_iff.mp hlater
  refine ⟨before, s, after, rfl, ?_, hown⟩
  have hcount := h.count_flatten (List.map_append.trans (congrArg _ List.map_cons))
  rw [hnumber, List.length_map, List.flatMap_def, hcount, List.length_map]

/-- A file that spells a text is loaded. -/
theorem exists_load_eq_ok (uppercase : Bool) (s : String) :
    ∃ entries, load uppercase (Text.Utf8.encode s) = .ok entries := by
  obtain ⟨texts, hcut⟩ := exists_texts s
  exact ⟨_, load_encode uppercase hcut⟩

/-- **A file is refused exactly if it spells no text.** -/
theorem exists_load_eq_error_iff {content : List UInt8} :
    (∃ e, load uppercase content = .error e) ↔ ∀ s, Text.Utf8.encode s ≠ content := by
  constructor
  · rintro ⟨e, he⟩ s rfl
    obtain ⟨entries, hok⟩ := exists_load_eq_ok uppercase s
    cases hok.symm.trans he
  · intro hnone
    rcases exists_encode_or_first_unreadable content with
      ⟨s, hs⟩ | ⟨before, bytes, after, hlines, hbefore, hbytes⟩
    · exact absurd hs (hnone s)
    · obtain ⟨reason, hreason⟩ := Text.Utf8.exists_decode_eq_error_iff.mpr hbytes
      exact ⟨_, load_of_first_unreadable uppercase hlines hbefore hreason⟩

/-- **A file that is refused** has a first line that is no text, and is refused for that. -/
theorem exists_first_unreadable_of_load {content : List UInt8} {e : LoadError}
    (he : load uppercase content = .error e) :
    ∃ before bytes after reason, cutLines content = before ++ bytes :: after
      ∧ (∀ earlier ∈ before, ∃ s, Text.Utf8.encode s = earlier)
      ∧ (∀ s, Text.Utf8.encode s ≠ bytes)
      ∧ Text.Utf8.decode bytes = .error reason
      ∧ e = ⟨1 + before.flatten.count lineFeed, shownLine (.bytes bytes), .badText reason⟩ := by
  rcases exists_encode_or_first_unreadable content with
    ⟨s, hs⟩ | ⟨before, bytes, after, hlines, hbefore, hbytes⟩
  · exact absurd hs (exists_load_eq_error_iff.mp ⟨e, he⟩ s)
  · obtain ⟨reason, hreason⟩ := Text.Utf8.exists_decode_eq_error_iff.mpr hbytes
    have hrefused := load_of_first_unreadable uppercase hlines hbefore hreason
    exact ⟨before, bytes, after, reason, hlines, hbefore, hbytes, hreason,
      Except.error.inj (he.symm.trans hrefused)⟩

/-! ## (5) Texts and bytes -/

/-- **Bytes are loaded as the text that they spell.** Lines have the same entries whether they are texts or
the bytes that spell them, and a generator learns the same from them. The file of a text is cut into lines
where the text is, after each line feed and nowhere else; its entries are those of these lines, each with
one more than the number of line feeds before it. A file is refused exactly if it spells no text as a
whole, and it is refused for the first of its lines that spells none. -/
theorem loads_as_text (uppercase : Bool) :
    (∀ lines texts, List.Forall₂ Line.Shows lines texts →
      entries uppercase lines = entries uppercase (texts.map .text)
        ∧ (entries uppercase lines).2 = none
        ∧ ∀ g : Generator, g.trainLines uppercase lines = g.trainLines uppercase (texts.map .text))
      ∧ (∀ content : String, ∃ texts : List String,
        (∀ pieces, Cut '\n' content.toList pieces ↔ pieces = texts.map String.toList)
          ∧ load uppercase (Text.Utf8.encode content) = .ok (entries uppercase (texts.map .text)).1
          ∧ ∀ entry ∈ (entries uppercase (texts.map .text)).1, ∃ before s after,
            texts = before ++ s :: after
              ∧ entry.number = 1 + (before.flatMap String.toList).count '\n'
              ∧ entry? uppercase entry.number (.text s) = .ok (some entry))
      ∧ ∀ content : List UInt8, (∀ pieces, Cut lineFeed content pieces ↔ pieces = cutLines content)
        ∧ ((∃ e, load uppercase content = .error e) ↔ ∀ s, Text.Utf8.encode s ≠ content)
        ∧ ∀ e, load uppercase content = .error e → ∃ before bytes after reason,
          cutLines content = before ++ bytes :: after
            ∧ (∀ earlier ∈ before, ∃ s, Text.Utf8.encode s = earlier)
            ∧ (∀ s, Text.Utf8.encode s ≠ bytes)
            ∧ Text.Utf8.decode bytes = .error reason
            ∧ e = ⟨1 + before.flatten.count lineFeed, shownLine (.bytes bytes), .badText reason⟩ := by
  refine ⟨fun lines texts h => ?_, fun content => ?_, fun content => ?_⟩
  · refine ⟨entriesFrom_of_shows h uppercase 1, ?_, fun g => ?_⟩
    · rw [entries_of_shows h]
    · exact g.trainLinesFrom_of_shows h uppercase 1 0
  · obtain ⟨texts, hcut⟩ := exists_texts content
    exact ⟨texts, fun pieces => hcut.iff_eq, load_encode uppercase hcut,
      fun entry => exists_text_of_mem_entries hcut⟩
  · exact ⟨fun pieces => (cut_cutLines content).iff_eq, exists_load_eq_error_iff,
      fun e => exists_first_unreadable_of_load⟩

/-- A carriage return ends no line, and half a character ends the second one: the file is refused for it. -/
theorem loads_as_text_half :
    load true [0x41, 0x0D, 0x42, 0x0A, 0xC3] = .error ⟨2, "\uFFFD", .badText .unexpectedEnd⟩ := by
  have hhalf : Text.Utf8.decode [0x41, 0x0D, 0x42, 0x0A, 0xC3] = .error .unexpectedEnd := by
    decide +kernel
  obtain ⟨-, hrefused, hfirst⟩ := (loads_as_text true).2.2 [0x41, 0x0D, 0x42, 0x0A, 0xC3]
  obtain ⟨e, he⟩ := hrefused.mpr (Text.Utf8.exists_decode_eq_error_iff.mp ⟨_, hhalf⟩)
  obtain ⟨before, bytes, after, reason, hlines, hbefore, hbytes, hreason, rfl⟩ := hfirst e he
  have hcut : cutLines [0x41, 0x0D, 0x42, 0x0A, 0xC3] = [[0x41, 0x0D, 0x42, 0x0A], [0xC3]] := by
    decide +kernel
  rw [hcut] at hlines
  rw [he]
  cases before with
  | nil =>
      -- the first line is a text
      cases hlines
      have htext : Text.Utf8.encode "A\rB\n" = [0x41, 0x0D, 0x42, 0x0A] := by decide +kernel
      exact absurd htext (hbytes "A\rB\n")
  | cons first before =>
      obtain ⟨rfl, hlater⟩ := List.cons.inj hlines
      cases before with
      | nil =>
          cases hlater
          have hend : Text.Utf8.decode [0xC3] = .error .unexpectedEnd := by decide +kernel
          obtain rfl := Except.error.inj (hend.symm.trans hreason)
          decide +kernel
      | cons second before =>
          have hlength := congrArg List.length hlater
          simp at hlength

end Vocabulary
end Pseudoword
