import Mathlib
import Pseudoword.Proofs.Counting
import Pseudoword.Proofs.Moves
import Pseudoword.Proofs.Prefixes
import Pseudoword.Proofs.Retracing

/-! # The numbers of a model

The command for numbers builds a model and says how large its table is and how much of it is in use. All
of this can be told from the words of the dictionary alone: a row is in use exactly if it is that of a
window, which is what stands in the slots before some place of a word, and different windows have
different rows. So there are as many rows in use as there are different windows.

* **`slotsAt`**, **`windowsOf`** — the slots before a place of a word, and the windows of a word.
* **`Generator.windowRow`** — the row of a window, with **`Generator.contextFor_windowRow`**.
* **`Generator.Embodies.deadRows_eq`** — how many rows are dead.
* **`Invocation.leaves_stats`** — what the command for numbers reports. -/

namespace Pseudoword

open Generator Vocabulary

/-! ## (1) Windows of words -/

/-- **The slots before a place of a word**: of as many empty slots as the order says, followed by the letters
before the place, the last ones. -/
def slotsAt (order : Nat) (word : String) (place : Nat) : List (Option Char) :=
  (List.replicate order none ++ (word.toList.take place).map some).rtake order

/-- **The windows of a word**: the slots before each of its places, that of its end included. -/
def windowsOf (order : Nat) (word : String) : List (List (Option Char)) :=
  (List.range (word.length + 1)).map (slotsAt order word)

/-- **The empty slots come first.** -/
theorem slotsAt_eq (order : Nat) (word : String) (place : Nat) :
    slotsAt order word place
      = List.replicate (order - (word.toList.take place).length) none
        ++ ((word.toList.take place).rtake order).map some := by
  rw [slotsAt, rtake_replicate_append, List.length_map, List.rtake, List.rtake, List.length_map,
    List.map_drop]

/-- What stands in the slots are letters of the word. -/
theorem mem_toList_of_some_mem_slotsAt {order : Nat} {word : String} {place : Nat} {c : Char}
    (h : some c ∈ slotsAt order word place) : c ∈ word.toList := by
  rw [slotsAt_eq, List.mem_append] at h
  rcases h with hempty | hletter
  · cases List.eq_of_mem_replicate hempty
  · obtain ⟨d, hd, heq⟩ := List.mem_map.mp hletter
    obtain rfl := Option.some.inj heq
    exact List.mem_of_mem_take (List.mem_of_mem_drop hd)

/-- The windows of words are the slots before their places. -/
theorem mem_windows_iff {order : Nat} {words : List String} {window : List (Option Char)} :
    window ∈ words.flatMap (windowsOf order)
      ↔ ∃ word ∈ words, ∃ place ≤ word.length, slotsAt order word place = window := by
  simp only [windowsOf, List.mem_flatMap, List.mem_map, List.mem_range, Nat.lt_succ_iff]

namespace Alphabet

variable (a : Alphabet)

/-- The code in a slot. -/
def slotOf (slot : Option Char) : Option Int :=
  slot.map fun c => (a.letters.idxOf c : Int)

/-- A letter in a slot can be told from its code. -/
theorem bind_slotOf {slot : Option Char} (h : ∀ c, slot = some c → c ∈ a.letters) :
    (a.slotOf slot).bind a.letterAt? = slot := by
  cases slot with
  | none => rfl
  | some c =>
      have hnonneg : (0 : Int) ≤ a.letters.idxOf c := Int.natCast_nonneg _
      have hlt : a.letters.idxOf c < a.letters.length := List.idxOf_lt_length_of_mem (h c rfl)
      show a.letterAt? (a.letters.idxOf c) = some c
      rw [letterAt?, if_pos hnonneg, Int.toNat_natCast, List.getElem?_eq_getElem hlt,
        List.getElem_idxOf hlt]

/-- So can the letters of a whole window. -/
theorem map_bind_slotOf {window : List (Option Char)} (h : ∀ c, some c ∈ window → c ∈ a.letters) :
    (window.map a.slotOf).map (Option.bind · a.letterAt?) = window := by
  rw [List.map_map]
  conv_rhs => rw [← List.map_id window]
  apply List.map_congr_left
  intro slot hslot
  exact a.bind_slotOf fun c hc => h c (hc ▸ hslot)

/-- **The context at a place of a word** has the codes of the slots there. -/
theorem contextAt_codesOf (s : ContextSpace) (word : String) (place : Nat) :
    s.contextAt (a.codesOf word) place = (slotsAt s.order word place).map a.slotOf := by
  have hcodes : ((a.codesOf word).take place).map (fun code : Nat => some (code : Int))
      = ((word.toList.take place).map some).map a.slotOf := by
    rw [codesOf, ← List.map_take, List.map_map, List.map_map]
    rfl
  have hstart : List.replicate s.order (none : Option Int)
      = (List.replicate s.order (none : Option Char)).map a.slotOf := by
    rw [List.map_replicate]
    rfl
  rw [ContextSpace.contextAt, hcodes, hstart, ← List.map_append, slotsAt, List.rtake, List.rtake,
    List.length_map, List.map_drop]

end Alphabet

/-! ## (2) Rows in use -/

/-- **Numbers that are not those of members** are counted by leaving out one for each different member. -/
theorem countP_range_add_length_dedup {α : Type} [DecidableEq α] {p : Nat → Bool} {bound : Nat}
    {members : List α} {number : α → Nat}
    (hinj : ∀ a ∈ members, ∀ b ∈ members, number a = number b → a = b)
    (hlt : ∀ a ∈ members, number a < bound)
    (hp : ∀ n, p n = false ↔ ∃ a ∈ members, number a = n) :
    (List.range bound).countP p + members.dedup.length = bound := by
  -- the numbers that are left out are, in some order, those of the members without repetitions
  have hnodup : (members.dedup.map number).Nodup := by
    refine List.Nodup.map_on (fun a ha b hb => ?_) members.nodup_dedup
    exact hinj a (List.mem_dedup.mp ha) b (List.mem_dedup.mp hb)
  have hmem : ∀ n, n ∈ (List.range bound).filter (fun n => !p n) ↔ n ∈ members.dedup.map number := by
    intro n
    rw [List.mem_filter, List.mem_range, Bool.not_eq_true', hp, List.mem_map]
    constructor
    · rintro ⟨-, a, ha, hn⟩
      exact ⟨a, List.mem_dedup.mpr ha, hn⟩
    · rintro ⟨a, ha, rfl⟩
      have ha' := List.mem_dedup.mp ha
      exact ⟨hlt a ha', a, ha', rfl⟩
  have hcount : (List.range bound).countP (fun n => !p n) = members.dedup.length := by
    have hperm := (List.perm_ext_iff_of_nodup (List.nodup_range.filter _) hnodup).mpr hmem
    rw [List.countP_eq_length_filter, hperm.length_eq, List.length_map]
  have hsplit := List.length_eq_countP_add_countP p (l := List.range bound)
  rw [List.length_range] at hsplit
  simp only [Bool.not_eq_true, Bool.decide_eq_false] at hsplit
  omega

namespace Table

/-- What is said of a row is said of one of the table. -/
theorem exists_row_of_isDead {t : Table} {row : Int} {dead : Bool} (h : t.isDead row = .ok dead) :
    ∃ r : Nat, row = r ∧ t.isDeadRow r = dead := by
  unfold isDead at h
  cases hcell : t.cell row (t.columns - 1) with
  | error fault =>
      rw [hcell] at h
      cases h
  | ok cell =>
      rw [hcell] at h
      exact ⟨cell.1, congrArg Prod.fst (cell_eq_ok hcell).1, Except.ok.inj h⟩

end Table

namespace Generator

variable {g : Generator} {words learned settled : List String} {window : List (Option Char)}

/-- **The row of a window.** -/
def windowRow (g : Generator) (window : List (Option Char)) : Nat :=
  g.space.value ((window.map g.alphabet.slotOf).map g.space.digitOf)

/-- The row at a place of a word is that of its window. -/
theorem row_after_eq_windowRow {word : String} (h : g.alphabet.Spells word) (place : Nat) :
    ((Window.start g.space).after ((g.alphabet.codesOf word).take place)).row
      = g.windowRow (slotsAt g.order word place) := by
  have hcodes := g.alphabet.codesOf_lt h.2
  have hcontext := ContextSpace.isContext_contextAt (s := g.space) hcodes place
  rw [(ContextSpace.row_after_eq_iff hcodes place hcontext).mpr rfl, g.alphabet.contextAt_codesOf]
  rfl

/-- **The context of the row of a window** has the codes of its slots. -/
theorem contextFor_windowRow (hspells : ∀ word ∈ words, g.alphabet.Spells word)
    (hwindow : window ∈ words.flatMap (windowsOf g.order)) :
    g.space.contextFor (g.windowRow window) = .ok (window.map g.alphabet.slotOf) := by
  obtain ⟨word, hword, place, -, rfl⟩ := mem_windows_iff.mp hwindow
  have hcodes := g.alphabet.codesOf_lt (hspells word hword).2
  have hsound := ContextSpace.sound_after_take (s := g.space) hcodes place
  rw [← row_after_eq_windowRow (hspells word hword) place, hsound.contextFor_row,
    ContextSpace.map_slot_slots_after hcodes place, g.alphabet.contextAt_codesOf]
  rfl

/-- The row of a window is one of the table. -/
theorem windowRow_lt (hspells : ∀ word ∈ words, g.alphabet.Spells word)
    (hwindow : window ∈ words.flatMap (windowsOf g.order)) : g.windowRow window < g.space.rows := by
  obtain ⟨word, hword, place, -, rfl⟩ := mem_windows_iff.mp hwindow
  rw [← row_after_eq_windowRow (hspells word hword) place]
  exact (ContextSpace.sound_after_take (g.alphabet.codesOf_lt (hspells word hword).2) place).row_lt

/-- **Windows with the same row** are the same. -/
theorem windowRow_injective (hspells : ∀ word ∈ words, g.alphabet.Spells word)
    {window' : List (Option Char)} (hwindow : window ∈ words.flatMap (windowsOf g.order))
    (hwindow' : window' ∈ words.flatMap (windowsOf g.order))
    (heq : g.windowRow window = g.windowRow window') : window = window' := by
  have hletters : ∀ window ∈ words.flatMap (windowsOf g.order), ∀ c, some c ∈ window →
      c ∈ g.alphabet.letters := by
    intro window hwindow c hc
    obtain ⟨word, hword, place, -, rfl⟩ := mem_windows_iff.mp hwindow
    exact (hspells word hword).2 c (mem_toList_of_some_mem_slotsAt hc)
  -- the context can be read off the row, and the letters off their codes
  have hcontext := contextFor_windowRow hspells hwindow
  rw [heq, contextFor_windowRow hspells hwindow'] at hcontext
  rw [← g.alphabet.map_bind_slotOf (hletters window hwindow), ← Except.ok.inj hcontext,
    g.alphabet.map_bind_slotOf (hletters window' hwindow')]

/-- A row has a cell among those of words exactly if it is that of a window. -/
theorem exists_mem_cellsOf_iff (hspells : ∀ word ∈ words, g.alphabet.Spells word) (row : Nat) :
    (∃ column, (row, column) ∈ g.cellsOf words)
      ↔ ∃ window ∈ words.flatMap (windowsOf g.order), g.windowRow window = row := by
  constructor
  · rintro ⟨column, hcell⟩
    obtain ⟨word, hword, hmem⟩ := List.mem_flatMap.mp hcell
    obtain ⟨place, hplace, hrow, -⟩ := ContextSpace.mem_spell_iff.mp hmem
    rw [g.alphabet.length_codesOf] at hplace
    refine ⟨_, mem_windows_iff.mpr ⟨word, hword, place, hplace, rfl⟩, ?_⟩
    rw [← row_after_eq_windowRow (hspells word hword) place]
    exact hrow
  · rintro ⟨window, hwindow, rfl⟩
    obtain ⟨word, hword, place, hplace, rfl⟩ := mem_windows_iff.mp hwindow
    rw [← g.alphabet.length_codesOf] at hplace
    refine ⟨_, List.mem_flatMap.mpr ⟨word, hword, ContextSpace.mem_spell_iff.mpr
      ⟨place, hplace, row_after_eq_windowRow (hspells word hword) place, rfl⟩⟩⟩

/-- **A row is live exactly if it is that of a window** of the words settled. -/
theorem Embodies.isDeadRow_eq_false_iff (h : g.Embodies learned settled) (row : Nat) :
    g.table.isDeadRow row = false
      ↔ ∃ window ∈ settled.flatMap (windowsOf g.order), g.windowRow window = row := by
  rw [← exists_mem_cellsOf_iff h.spells_settled, ← Bool.not_eq_true, h.isDeadRow_iff, not_forall]
  simp only [not_not]

/-- There are as many live rows as there are different windows. -/
theorem Embodies.countP_isDeadRow (h : g.Embodies learned settled) :
    (List.range g.space.rows).countP g.table.isDeadRow
      + (settled.flatMap (windowsOf g.order)).dedup.length = g.space.rows :=
  countP_range_add_length_dedup
    (fun _ hwindow _ hwindow' => windowRow_injective h.spells_settled hwindow hwindow')
    (fun _ hwindow => windowRow_lt h.spells_settled hwindow) h.isDeadRow_eq_false_iff

/-- **Every row is told by its last column**, in which there is a cell for each of them. -/
theorem Embodies.cell_endColumn (h : g.Embodies learned settled) {row : Nat} (hrow : row < g.space.rows) :
    g.table.cell row (g.table.columns - 1) = .ok (row, g.space.endColumn) := by
  have hcolumns : g.table.columns - 1 = g.space.endColumn := by
    rw [h.columns_eq]
    exact Int.add_sub_cancel g.space.endColumn 1
  rw [hcolumns]
  refine Table.cell_of_contains ⟨?_, by omega⟩
  rw [h.rows_eq]
  exact_mod_cast hrow

/-- **The dead rows** are all but as many as there are different windows of the words settled. -/
theorem Embodies.deadRows_eq (h : g.Embodies learned settled) :
    ∃ dead : Nat, g.table.deadRows = .ok dead
      ∧ dead + (settled.flatMap (windowsOf g.order)).dedup.length = g.space.rows := by
  have hrows : g.table.rows = g.space.rows := h.rows_eq
  have hpos := g.space.rows_pos
  -- the last place of the first row is in the table
  have hcell : g.table.cell 0 (g.table.columns - 1) = .ok (0, g.space.endColumn) := h.cell_endColumn hpos
  refine ⟨_, ?_, h.countP_isDeadRow⟩
  rw [Table.deadRows, if_neg (by omega), hcell, hrows, Int.toNat_natCast]
  rfl

/-- **Of every row** it can be told whether it is dead. -/
theorem Embodies.isDead_eq (h : g.Embodies learned settled) {row : Nat} (hrow : row < g.space.rows) :
    g.table.isDead row = .ok (g.table.isDeadRow row) := by
  rw [Table.isDead, h.cell_endColumn hrow]
  rfl

/-- **In the context of a live row** the empty slots come first. -/
theorem Embodies.exists_contextFor_of_live (h : g.Embodies learned settled) {row : Int}
    (hlive : g.table.isDead row = .ok false) :
    ∃ (blanks : Nat) (codes : List Int),
      g.space.contextFor row = .ok (List.replicate blanks none ++ codes.map some) := by
  -- the row is that of a window, of which the context has the codes
  obtain ⟨r, rfl, hdead⟩ := Table.exists_row_of_isDead hlive
  obtain ⟨window, hwindow, rfl⟩ := (h.isDeadRow_eq_false_iff r).mp hdead
  rw [contextFor_windowRow h.spells_settled hwindow]
  obtain ⟨word, -, place, -, rfl⟩ := mem_windows_iff.mp hwindow
  refine ⟨g.order - (word.toList.take place).length,
    ((word.toList.take place).rtake g.order).map fun c => (g.alphabet.letters.idxOf c : Int), ?_⟩
  rw [slotsAt_eq, List.map_append, List.map_replicate, List.map_map, List.map_map]
  rfl

end Generator

/-! ## (3) Reporting numbers -/

namespace Console

/-- Lines are written one after the other. -/
theorem output_foldl_writeLine (c : Console) (lines : List String) :
    (lines.foldl writeLine c).output = c.output ++ resultLines lines := by
  induction lines generalizing c with
  | nil => exact String.append_empty.symm
  | cons line lines ih =>
      rw [List.foldl_cons, ih, writeLine, resultLines]
      simp only [String.append_assoc]

/-- **A table** for which there are widths is written line by line. -/
theorem table_eq {c : Console} (hquiet : c.quiet = false) {headings : List Setting}
    {rows : List (List Setting)} {widths : List Int}
    (hwidths : columnWidths? (headings.map Setting.text) (rows.map (·.map Setting.text))
      = some widths) :
    c.table headings rows []
      = some ((tableLines (headings.map Setting.text) (rows.map (·.map Setting.text)) widths).foldl
        writeLine c) := by
  simp [table, hquiet, hwidths]

end Console

namespace Command

/-- The texts of numbers under their names. -/
def statisticTexts (rows : List (String × Setting)) : List (List String) :=
  rows.map fun (name, value) => [name, value.text]

/-- The widths of a column of names and one of numbers that are as wide as they need to be: the length of
the longest text or heading, and some space. -/
def statisticWidths (rows : List (String × Setting)) : List Int :=
  [(((rows.map Prod.fst).map String.length).foldl max "Statistic".length + 2 : Nat),
    (((rows.map fun row => row.2.text).map String.length).foldl max "Value".length + 2 : Nat)]

/-- All numbers have a name and a text, so that there is a width for both columns. -/
theorem columnWidths?_statisticTexts (rows : List (String × Setting)) :
    Console.columnWidths? ["Statistic", "Value"] (statisticTexts rows)
      = some (statisticWidths rows) := by
  have hnames : (statisticTexts rows).mapM (·[0]?) = some (rows.map Prod.fst) := by
    rw [statisticTexts, List.mapM_map]
    exact List.mapM_pure
  have hvalues : (statisticTexts rows).mapM (·[1]?) = some (rows.map fun row => row.2.text) := by
    rw [statisticTexts, List.mapM_map]
    exact List.mapM_pure
  simp only [Console.columnWidths?, Console.columnWidth?, List.zipIdx, List.mapM_cons, hnames, hvalues]
  rfl

/-- **Numbers as results**: each on a line of its own. -/
theorem output_writeStatistics_of_quiet {console : Console} (hquiet : console.quiet = true)
    (dictionary : String) (rows : List (String × Setting)) :
    (writeStatistics console dictionary rows).output
      = console.output ++ resultLines (rows.map fun (name, value) => name ++ ": " ++ value.text) := by
  rw [writeStatistics, if_pos hquiet, ← Console.output_foldl_writeLine, List.foldl_map]
  rfl

/-- **Numbers as a table**, below a line that names the dictionary. -/
theorem output_writeStatistics_of_not_quiet {console : Console} (hquiet : console.quiet = false)
    (dictionary : String) (rows : List (String × Setting)) :
    (writeStatistics console dictionary rows).output
      = console.output ++ resultLines (("Model trained on " ++ dictionary ++ "\n")
        :: Console.tableLines ["Statistic", "Value"] (statisticTexts rows) (statisticWidths rows)) := by
  have hnot : ¬ console.quiet = true := by simp [hquiet]
  have hprint : console.print [.string ("Model trained on " ++ dictionary ++ "\n")]
      = console.writeLine ("Model trained on " ++ dictionary ++ "\n") := if_neg hnot
  have htexts : (rows.map fun row => [Setting.string row.1, row.2]).map (·.map Setting.text)
      = statisticTexts rows := by
    rw [List.map_map]
    rfl
  have hwidths : Console.columnWidths? ([Setting.string "Statistic", .string "Value"].map Setting.text)
      ((rows.map fun row => [Setting.string row.1, row.2]).map (·.map Setting.text))
        = some (statisticWidths rows) := by
    rw [htexts]
    exact columnWidths?_statisticTexts rows
  have htable := Console.table_eq
    (c := console.writeLine ("Model trained on " ++ dictionary ++ "\n")) hquiet hwidths
  rw [htexts] at htable
  have hwritten : writeStatistics console dictionary rows
      = (("Model trained on " ++ dictionary ++ "\n")
        :: Console.tableLines ["Statistic", "Value"] (statisticTexts rows)
          (statisticWidths rows)).foldl Console.writeLine console := by
    rw [writeStatistics, if_neg hnot, hprint]
    exact congrArg (Option.getD · _) htable
  rw [hwritten, Console.output_foldl_writeLine]

end Command

/-! ## (4) The command for numbers -/

namespace ModelRequest.Basis

variable {m : ModelRequest} {s : Surroundings} (b : m.Basis s)

/-- **The numbers of a model**, by its letters, its order and the words of the dictionary. There is a row for
each content of the slots, and a column for each letter and the end. Each word was observed once more often
than it has letters. The rows that are not dead are those of the different windows of words. -/
def numbers : List (String × Setting) :=
  [("alphabet", .string b.alphabet.symbols), ("alphabet size", .integer b.alphabet.size),
    ("context order", .integer b.order), ("rows", .integer ((b.alphabet.size + 1) ^ b.order)),
    ("columns", .integer (b.alphabet.size + 1)), ("vocabulary", .integer b.words.dedup.length),
    ("observations", .integer ((b.words.map fun word => word.length + 1).sum : Nat)),
    ("dead rows", .integer ((b.alphabet.size + 1) ^ b.order
      - (b.words.flatMap (windowsOf b.order)).dedup.length))]

/-- **The model has these numbers.** -/
theorem exists_deadRows : ∃ dead, b.trained.compile.table.deadRows = .ok dead
    ∧ Command.statistics b.trained.compile dead = b.numbers := by
  have h := b.embodies
  have hspace : b.trained.compile.space = contexts b.alphabet b.order b.order_pos :=
    b.sameMake.space_eq
  have halphabet : b.trained.compile.alphabet = b.alphabet := b.sameMake.alphabet_eq
  have horder : b.trained.compile.order = b.order := b.sameMake.order_eq
  have hpow : (b.trained.compile.space.rows : Int) = (b.alphabet.size + 1) ^ b.order := by
    rw [hspace]
    exact_mod_cast rfl
  have hcolumns : (b.trained.compile.space.columns : Int) = b.alphabet.size + 1 := by
    rw [hspace]
    rfl
  -- numbers of rows are integers in the report, so that the difference is that of integers
  obtain ⟨dead, hdead, hsum⟩ := h.deadRows_eq
  have hlast : (dead : Int) = (b.alphabet.size + 1) ^ b.order
      - (b.words.flatMap (windowsOf b.order)).dedup.length := by
    rw [← hpow, ← hsum, horder]
    omega
  refine ⟨dead, hdead, ?_⟩
  rw [Command.statistics, h.rows_eq, h.columns_eq, h.size_vocabulary, h.observations_eq_sum, hpow,
    hcolumns, hlast, halphabet, horder]
  rfl

end ModelRequest.Basis

namespace Invocation

/-- The invocation that asks for numbers. -/
def forNumbers (quiet verbose : Bool) (m : ModelRequest) : Invocation :=
  ⟨quiet, verbose, some (.stats m)⟩

/-- An invocation that asks for numbers looks for a model, and then for its dead rows. -/
theorem run_forNumbers (s : Surroundings) (quiet verbose : Bool) (m : ModelRequest) (limit : Nat) :
    (forNumbers quiet verbose m).run s limit
      = .ok (Command.runStats s (console quiet verbose) m) := rfl

/-- **What the command for numbers reports.** Without all that a model is built from, room for its table
included, the run fails and nothing is written as a result. Otherwise the numbers of the model are written, each on a line of its own
if only results are wanted and as a table if not, and the status is zero. In the context of each row that
is not dead, the empty slots come before those with letters. -/
theorem leaves_stats (s : Surroundings) (quiet verbose : Bool) (m : ModelRequest) :
    (IsEmpty (m.Basis s) → ∃ outcome : Outcome, outcome.Fails ""
        ∧ ∀ limit, (forNumbers quiet verbose m).run s limit = .ok outcome)
      ∧ ∀ b : m.Basis s, ∃ (model : Model) (written : Console),
        m.build s (console quiet verbose) = .ok model
        ∧ (∀ limit, (forNumbers quiet verbose m).run s limit = .ok (.finished 0 written))
        ∧ (quiet = true → written.output
          = resultLines (b.numbers.map fun (name, value) => name ++ ": " ++ value.text))
        ∧ (quiet = false → written.output
          = resultLines (("Model trained on " ++ m.dictionary ++ "\n")
            :: Console.tableLines ["Statistic", "Value"] (Command.statisticTexts b.numbers)
              (Command.statisticWidths b.numbers)))
        ∧ ∀ row, model.generator.table.isDead row = .ok false →
          ∃ (blanks : Nat) (codes : List Int), model.generator.space.contextFor row
            = .ok (List.replicate blanks none ++ codes.map some) := by
  refine ⟨fun hnone => ?_, fun b => ?_⟩
  · obtain ⟨outcome, hbuild, hfails⟩ :=
      (m.build_cases s (console quiet verbose)).resolve_left (not_nonempty_iff.mpr hnone)
    refine ⟨outcome, hfails, fun limit => ?_⟩
    rw [run_forNumbers, Command.runStats, hbuild]
  · obtain ⟨dead, hdead, hnumbers⟩ := b.exists_deadRows
    have hbuild := b.build_eq (console quiet verbose)
    have hrun : Command.runStats s (console quiet verbose) m
        = .finished 0 (Command.writeStatistics (b.model (console quiet verbose)).console m.dictionary
          b.numbers) := by
      have hmodel : (b.model (console quiet verbose)).generator = b.trained.compile := rfl
      rw [Command.runStats, hbuild]
      dsimp only
      rw [hmodel, hdead]
      dsimp only
      rw [hnumbers]
    -- the reports of how the model was built are no results
    have hquiet : (b.model (console quiet verbose)).console.quiet = quiet := by
      simp [ModelRequest.Basis.model, console, Console.blank]
    have hblank : (b.model (console quiet verbose)).console.output = "" := by
      simp [ModelRequest.Basis.model, console, Console.blank]
    refine ⟨_, _, hbuild, fun limit => congrArg Except.ok hrun, fun hon => ?_, fun hoff => ?_,
      fun row hlive => b.embodies.exists_contextFor_of_live hlive⟩
    · rw [Command.output_writeStatistics_of_quiet (hquiet.trans hon), hblank, String.empty_append]
    · rw [Command.output_writeStatistics_of_not_quiet (hquiet.trans hoff), hblank, String.empty_append]

/-- `AB` is learned twice, once from small letters, and `A` once; with two slots there are three windows,
which leaves six of nine rows dead. -/
theorem leaves_stats_threeLines :
    let m : ModelRequest := ⟨"words.txt", some "AB", some 2, some 7⟩
    let content : List UInt8 := [0x41, 0x42, 0x0A, 0x61, 0x62, 0x0A, 0x0A, 0x41]
    let s : Surroundings := {
      document := .ok (.table []), homes := fun _ => none, directory := "/", links := .none,
      read := fun _ => .ok content, capacity := 27, engine := .standard, entropy := 0 }
    ∃ written, (∀ limit, (forNumbers true false m).run s limit = .ok (.finished 0 written))
      ∧ written.output = "alphabet: AB\nalphabet size: 2\ncontext order: 2\nrows: 9\ncolumns: 3\n"
        ++ "vocabulary: 2\nobservations: 8\ndead rows: 6\n" := by
  intro m content s
  let b : m.Basis s := {
    document := .table []
    document_eq := rfl
    alphabet := .ofAB
    alphabet_eq := rfl
    order := 2
    order_pos := Nat.two_pos
    order_eq := rfl
    fits := by decide +kernel
    seed := .number 7
    seed_eq := rfl
    content := content
    content_eq := by decide +kernel
    usable := by decide +kernel }
  obtain ⟨model, written, -, hrun, hquiet, -⟩ := (leaves_stats s true false m).2 b
  refine ⟨written, hrun, ?_⟩
  rw [hquiet rfl]
  decide +kernel

end Invocation
end Pseudoword
