import Mathlib
import Pseudoword.Proofs.Levels
import Pseudoword.Proofs.Trials
import Pseudoword.Proofs.Walks

/-! # Relative frequencies

What is sampled depends on the words learned only by how often each came, compared to the others. If two
lists have all of their words in one ratio, so are the cells of the words, and as levels are quotients of
numbers of cells, the levels are the same. The order of words does not matter either, nor do repetitions
of the whole list.

* **`InRatio m n words words'`** — lists that have all members in one ratio.
* **`InRatio.mul_countP_flatMap`** — what is derived from the members is in that ratio, too.
* **`Table.levelOf_eq_of_mul_eq`** — hence the levels agree.
* **`Generator.Interchangeable g g'`** — generators that sampling cannot tell apart.
* **`Generator.interchangeable_run`** — training in one ratio leads to such generators. -/

namespace Pseudoword

/-! ## (1) Lists in one ratio -/

/-- **Lists that have all members in one ratio**: `m` times as often in the first as `n` times in the
second. -/
def InRatio {α : Type} [DecidableEq α] (m n : Nat) (members members' : List α) : Prop :=
  ∀ a, m * members.count a = n * members'.count a

section InRatio

variable {α β : Type} [DecidableEq α] {m n : Nat} {members members' : List α}

/-- Repeated as the ratio says, both lists have the same members equally often. -/
theorem InRatio.perm (h : InRatio m n members members') :
    (List.replicate m members).flatten.Perm (List.replicate n members').flatten := by
  rw [List.perm_iff_count]
  intro a
  simpa [List.count_flatten] using h a

/-- **What is derived from the members is in the same ratio**, counted by any property. -/
theorem InRatio.mul_countP_flatMap (h : InRatio m n members members') (f : α → List β)
    (p : β → Bool) : m * (members.flatMap f).countP p = n * (members'.flatMap f).countP p := by
  have hcount : ∀ k (l : List α), ((List.replicate k l).flatten.flatMap f).countP p
      = k * (l.flatMap f).countP p := by
    intro k l
    induction k with
    | zero => simp
    | succ k ih =>
        rw [List.replicate_succ, List.flatten_cons, List.flatMap_append, List.countP_append, ih,
          Nat.succ_mul, Nat.add_comm]
  -- repeated as the ratio says, the two lists are the same up to order
  rw [← hcount, ← hcount]
  exact (h.perm.flatMap_right f).countP_eq p

/-- Lists in one ratio have the same members. -/
theorem InRatio.mem_iff (h : InRatio m n members members') (hm : 0 < m) (hn : 0 < n) {a : α} :
    a ∈ members' ↔ a ∈ members := by
  rw [← List.count_pos_iff, ← List.count_pos_iff, ← Nat.mul_pos_iff_of_pos_left hn, ← h a,
    Nat.mul_pos_iff_of_pos_left hm]

/-- **A list that repeats another one, in any order**, has its members in the ratio of the repetitions. -/
theorem InRatio.of_perm {k : Nat} (h : members'.Perm (List.replicate k members).flatten) :
    InRatio k 1 members members' := by
  intro a
  rw [h.count_eq a, List.count_flatten, List.map_replicate, List.sum_replicate, Nat.one_mul]
  rfl

end InRatio

/-! ## (2) Tables -/

namespace Table

variable {t t' : Table} {cells cells' : List Cell}

/-- **Levels agree if the cells of each row are in one ratio.** -/
theorem levelOf_eq_of_mul_eq {m n : Nat} (hm : 0 < m) (hn : 0 < n)
    (h : ∀ p : Cell → Bool, m * cells.countP p = n * cells'.countP p) (row column : Nat) :
    levelOf cells' row column = levelOf cells row column := by
  have hbefore : m * before cells row (column + 1) = n * before cells' row (column + 1) := h _
  have hvisits : m * visits cells row = n * visits cells' row := h _
  rw [levelOf, levelOf, ← Binary64.ofRatio_mul_left hn, ← hbefore, ← hvisits,
    Binary64.ofRatio_mul_left hm]

/-- **Samples agree if the levels do.** -/
theorem Samples.pick?_eq_of_levelOf_eq (h : t.Samples cells) (h' : t'.Samples cells')
    (hlevel : ∀ row column, levelOf cells' row column = levelOf cells row column) (row : Nat)
    (u : Draw) : t'.pick? row u = t.pick? row u := by
  have hreached : ∀ column, Reached cells' row u column ↔ Reached cells row u column :=
    fun column => reached_congr (hlevel row column)
  apply Option.ext
  intro column
  rw [h.pick?_eq_some_iff, h'.pick?_eq_some_iff]
  simp only [hreached]

/-- Tables with the same dimensions have the same places. -/
theorem cell_congr (hrows : t'.rows = t.rows) (hcolumns : t'.columns = t.columns) (row column : Int) :
    t'.cell row column = t.cell row column := by
  rw [cell, cell, hrows, hcolumns]

/-- Tables with the same places are sampled alike if their rows are. -/
theorem sample_congr (hrows : t'.rows = t.rows) (hcolumns : t'.columns = t.columns)
    (hpick : ∀ row u, t'.pick? row u = t.pick? row u) (row : Int) (u : Draw) :
    t'.sample row u = t.sample row u := by
  simp only [sample, cell_congr hrows hcolumns, hpick]

/-- How many rows are dead is told by the rows that are. -/
theorem deadRows_congr (hrows : t'.rows = t.rows) (hcolumns : t'.columns = t.columns)
    (hdead : t'.isDeadRow = t.isDeadRow) : t'.deadRows = t.deadRows := by
  simp only [deadRows, cell_congr hrows hcolumns, hrows, hcolumns, hdead]

/-- All levels are told by those of the rows. -/
theorem allLevels_congr (hrows : t'.rows = t.rows) (hcolumns : t'.columns = t.columns)
    (hlevels : t'.levelsOf = t.levelsOf) : t'.allLevels = t.allLevels := by
  simp only [allLevels, flat, hrows, hcolumns, hlevels]

/-- The counts before a column, one by one. -/
theorem Tallies.before_eq_sum (h : t.Tallies cells) (row column : Nat) :
    before cells row column = ∑ j ∈ Finset.range column, t.count row j := by
  induction column with
  | zero => simp
  | succ column ih => rw [before_succ, Finset.sum_range_succ, ih, h.count_eq]

/-- **Each level after compiling is the rounded quotient** of the counts up to its column and all counts
of the row; without any count it is zero. -/
theorem Tallies.exists_level_settle (h : t.Tallies cells) {row column : Nat}
    (hcolumn : column < t.columns.toNat) :
    ∃ level, (t.settle.levelsOf row)[column]? = some level
      ∧ (0 < t.total row → Binary64.IsRounding (∑ j ∈ Finset.range (column + 1), t.count row j)
          (t.total row) level)
      ∧ (t.total row = 0 → level = Binary64.zero) := by
  have hget : (t.settle.levelsOf row)[column]? = some (levelOf cells row column) := by
    rw [← Array.getElem?_toList, h.toList_levelsOf_settle, List.getElem?_map,
      List.getElem?_range hcolumn]
    rfl
  refine ⟨_, hget, fun hpos => ?_, fun hzero => ?_⟩
  · rw [← h.before_eq_sum, h.total_eq, levelOf]
    rw [h.total_eq] at hpos
    exact Binary64.isRounding_ofRatio _ hpos
  · rw [h.total_eq] at hzero
    exact levelOf_eq_zero hzero column

end Table

/-! ## (3) Generators -/

/-- **Walks agree if samples do.** -/
theorem Window.walk_congr {s : ContextSpace} {t t' : Table}
    (hsample : ∀ row u, t'.sample row u = t.sample row u) (w : Window s) (draws : List Draw) :
    w.walk t' draws = w.walk t draws := by
  induction draws generalizing w with
  | nil => rfl
  | cons u us ih =>
      rw [walk, walk, hsample]
      simp only [ih]

namespace Generator

variable {g g' : Generator} {learned learned' settled settled' : List String}

/-- **Generators that sampling cannot tell apart**: their levels are the same, as are their dead rows
and the words that they know, and so is each outcome of sampling. -/
structure Interchangeable (g g' : Generator) : Prop where
  /-- The levels of each row are the same. -/
  levelsOf_eq : ∀ row, g'.table.levelsOf row = g.table.levelsOf row
  /-- All levels are the same. -/
  allLevels_eq : g'.table.allLevels = g.table.allLevels
  /-- The same rows are dead. -/
  isDeadRow_eq : ∀ row, g'.table.isDeadRow row = g.table.isDeadRow row
  /-- Equally many rows are dead. -/
  deadRows_eq : g'.table.deadRows = g.table.deadRows
  /-- The same words are known. -/
  knows_eq : ∀ word, g'.knows word = g.knows word
  /-- They are listed in the same order. -/
  vocabulary_eq : g'.vocabulary.toList = g.vocabulary.toList
  /-- One word is sampled alike. -/
  generate_eq : ∀ accepts budget draws,
    g'.generate accepts budget draws = g.generate accepts budget draws
  /-- Several words are sampled alike. -/
  generateMany_eq : ∀ accepts budget count draws,
    g'.generateMany accepts budget count draws = g.generateMany accepts budget count draws

/-- Several words are sampled alike if one word is. -/
theorem generateMany_congr {accepts : Judge} {budget : Option Int}
    (h : ∀ draws, g'.generate accepts budget draws = g.generate accepts budget draws) (count : Nat)
    (draws : List Draw) :
    g'.generateMany accepts budget count draws = g.generateMany accepts budget count draws := by
  induction count generalizing draws with
  | zero => rfl
  | succ count ih =>
      rw [generateMany, generateMany, h]
      simp only [ih]

/-- An outcome seen in full is the outcome. -/
theorem Sample.seenBy_id (sample : Sample) : sample.seenBy id = sample := by
  cases sample with
  | mk result rest => cases result <;> rfl

/-- **Generators of one make try alike** if their tables are sampled alike and they know the same words. -/
theorem SameMake.triesLike (hmake : g.SameMake g')
    (hsample : ∀ row u, g'.table.sample row u = g.table.sample row u)
    (hknows : ∀ word, g'.knows word = g.knows word) : TriesLike id g g' := by
  have hwalk : ∀ draws, g'.walk draws = g.walk draws := by
    intro draws
    rw [walk, walk, hmake.space_eq]
    exact Window.walk_congr hsample _ draws
  have htrial : ∀ draws, g'.trial draws = g.trial draws := by
    intro draws
    simp only [trial, wordOf, hwalk, hmake.alphabet_eq]
  exact ⟨fun draws => by rw [htrial], fun draws => by rw [htrial], hknows, hmake.patience_eq⟩

/-- Generators that try alike, faults seen in full, sample alike. -/
theorem TriesLike.generate_eq (h : TriesLike id g g') (accepts : Judge) (budget : Option Int)
    (draws : List Draw) : g'.generate accepts budget draws = g.generate accepts budget draws := by
  have hseen := h.generate accepts budget draws
  rwa [Sample.seenBy_id, Sample.seenBy_id] at hseen

/-- **Words learned in one ratio are sampled alike** by generators of one make. -/
theorem Embodies.interchangeable_compile (h : g.Embodies learned settled)
    (h' : g'.Embodies learned' settled') (hmake : g.SameMake g') {m n : Nat} (hm : 0 < m)
    (hn : 0 < n) (hratio : InRatio m n learned learned') :
    Interchangeable g.compile g'.compile := by
  have hlevel : ∀ row column, Table.levelOf (g'.cellsOf learned') row column
      = Table.levelOf (g.cellsOf learned) row column := by
    rw [hmake.cellsOf_eq]
    exact Table.levelOf_eq_of_mul_eq hm hn fun p => hratio.mul_countP_flatMap _ p
  have hrows : g'.table.rows = g.table.rows := by rw [h.rows_eq, h'.rows_eq, hmake.space_eq]
  have hcolumns : g'.table.columns = g.table.columns := by
    rw [h.columns_eq, h'.columns_eq, hmake.space_eq]
  have hpick : ∀ row u, g'.compile.table.pick? row u = g.compile.table.pick? row u :=
    h.compile.samples.pick?_eq_of_levelOf_eq h'.compile.samples hlevel
  have hlevels : g'.compile.table.levelsOf = g.compile.table.levelsOf := by
    funext row
    have htoList := h.tallies.toList_levelsOf_settle row
    have htoList' := h'.tallies.toList_levelsOf_settle row
    rw [hcolumns, List.map_congr_left fun column _ => hlevel row column, ← htoList] at htoList'
    exact Array.toList_inj.mp htoList'
  have hdead : g'.compile.table.isDeadRow = g.compile.table.isDeadRow := by
    funext row
    rw [Table.isDeadRow_eq_isNone_pick? _ row .negative,
      Table.isDeadRow_eq_isNone_pick? _ row .negative, hpick]
  have hknows : ∀ word, g'.compile.knows word = g.compile.knows word := by
    intro word
    rw [Bool.eq_iff_iff, h.compile.knows_iff, h'.compile.knows_iff, hratio.mem_iff hm hn]
  have hsample : ∀ row u, g'.compile.table.sample row u = g.compile.table.sample row u :=
    Table.sample_congr hrows hcolumns hpick
  have hmake' : g.compile.SameMake g'.compile :=
    ⟨hmake.alphabet_eq, hmake.order_eq, hmake.patience_eq⟩
  have hgenerate := (hmake'.triesLike hsample hknows).generate_eq
  exact ⟨fun row => congrFun hlevels row, Table.allLevels_congr hrows hcolumns hlevels,
    fun row => congrFun hdead row, Table.deadRows_congr hrows hcolumns hdead, hknows,
    (Std.TreeSet.Equiv.of_forall_contains_eq hknows).toList_eq, hgenerate,
    fun accepts budget => generateMany_congr (hgenerate accepts budget)⟩

/-! ## (4) Every run -/

/-- A dictionary that is learned as a whole, and then made available. -/
def dictionaryRun (words : List String) : List Operation :=
  [.trainAll words, .compile]

/-- Words that can be spelled are learned as a whole. -/
theorem learnedIn_trainAll {alphabet : Alphabet} (order : Nat) (order_pos : 0 < order)
    (patience : Setting) {words : List String} (hwords : ∀ word ∈ words, alphabet.Spells word) :
    (untrained alphabet order order_pos patience).learnedIn [.trainAll words] = words := by
  rw [learnedIn_untrained, List.flatMap_singleton]
  exact List.takeWhile_eq_self_iff.mpr fun word hword => decide_eq_true (hwords word hword)

/-- **Only relative frequencies matter.** After any two runs in which the words were learned in one
ratio, and a last compilation, the generators cannot be told apart by sampling. Their levels are rounded
quotients of counts; and a dictionary of words that can be spelled may be put in any order, or repeated. -/
theorem interchangeable_run (alphabet : Alphabet) (order : Nat) (order_pos : 0 < order)
    (patience : Setting) :
    let space := contexts alphabet order order_pos
    let blank := untrained alphabet order order_pos patience
    (∀ operations operations' m n, 0 < m → 0 < n →
        InRatio m n (blank.learnedIn operations) (blank.learnedIn operations') →
        Interchangeable (blank.run (operations ++ [.compile])) (blank.run (operations' ++ [.compile])))
      ∧ (∀ operations, let table := (blank.run (operations ++ [.compile])).table
        ∀ row, ∀ column < space.columns, ∃ level, (table.levelsOf row)[column]? = some level
          ∧ (0 < table.total row → Binary64.IsRounding
              (∑ j ∈ Finset.range (column + 1), table.count row j) (table.total row) level)
          ∧ (table.total row = 0 → level = Binary64.zero))
      ∧ ∀ words words' k, 0 < k → (∀ word ∈ words, alphabet.Spells word) →
        words'.Perm (List.replicate k words).flatten →
        Interchangeable (blank.run (dictionaryRun words)) (blank.run (dictionaryRun words')) := by
  intro space blank
  have hratio : ∀ operations operations' m n, 0 < m → 0 < n →
      InRatio m n (blank.learnedIn operations) (blank.learnedIn operations') →
      Interchangeable (blank.run (operations ++ [.compile]))
        (blank.run (operations' ++ [.compile])) := by
    intro operations operations' m n hm hn hratio
    have h := embodies_run alphabet order order_pos patience operations
    have h' := embodies_run alphabet order order_pos patience operations'
    have hmake := (sameMake_run blank operations).symm.trans (sameMake_run blank operations')
    rw [run_concat, run_concat]
    exact h.interchangeable_compile h' hmake hm hn hratio
  refine ⟨hratio, fun operations => ?_, fun words words' k hk hwords hperm => ?_⟩
  · intro table row column hcolumn
    have h := embodies_run alphabet order order_pos patience operations
    have hspace := (sameMake_run blank operations).space_eq
    have hlt : column < (blank.run operations).table.columns.toNat := by
      rw [h.columns_eq, hspace, Int.toNat_natCast]
      exact hcolumn
    simp only [table, run_concat]
    exact h.tallies.exists_level_settle hlt
  · have hwords' : ∀ word ∈ words', alphabet.Spells word := by
      intro word hword
      obtain ⟨copy, hcopy, hmem⟩ := List.mem_flatten.mp (hperm.subset hword)
      exact hwords word (List.eq_of_mem_replicate hcopy ▸ hmem)
    refine hratio [.trainAll words] [.trainAll words'] k 1 hk Nat.one_pos ?_
    rw [learnedIn_trainAll order order_pos patience hwords,
      learnedIn_trainAll order order_pos patience hwords']
    exact .of_perm hperm

/-- A run that learns `AB` three times, `BAA` and `A`, and another one that learns each of them twice
as often. -/
theorem interchangeable_mixedRun :
    let blank := untrained .ofAB 1 Nat.one_pos (.integer 1000)
    let words := ["AB", "AB", "BAA", "AB", "A"]
    blank.learnedIn mixedRun = words ∧ blank.learnedIn [.trainAll (words ++ words)] = words ++ words
      ∧ Interchangeable (blank.run (mixedRun ++ [.compile]))
        (blank.run ([.trainAll (words ++ words)] ++ [.compile])) := by
  intro blank words
  have hlearned : (untrained .ofAB 1 Nat.one_pos (.integer 1000)).learnedIn mixedRun
      = ["AB", "AB", "BAA", "AB", "A"] := by decide +kernel
  have hlearned' : blank.learnedIn [.trainAll (words ++ words)] = words ++ words := by
    rw [learnedIn_untrained]
    decide +kernel
  refine ⟨hlearned, hlearned', ?_⟩
  refine (interchangeable_run .ofAB 1 Nat.one_pos (.integer 1000)).1 mixedRun _ 2 1 Nat.two_pos
    Nat.one_pos ?_
  rw [hlearned, hlearned']
  intro word
  rw [List.count_append, Nat.two_mul, Nat.one_mul]

end Generator
end Pseudoword
