import Pseudoword.Generator

/-! # Walks

A walk spells a candidate: starting from the empty context, each draw selects a letter or the end of
the word in the row of the context so far. A walk is told by the cells that it went through, which are
those in which its word would be observed in training.

* `Walk`, `Walk.Ending` — the cells of a walk, how it ended, and the draws that it left over.
* `Window.walk` — the walk that draws select, from a window on.
* `Generator.walk`, `Generator.wordOf` — the walk from the start, and the word that a walk spells.
* `Window.length_rest_walk_lt` — a walk uses up draws, if there are any.
-/

namespace Pseudoword

/-- How a walk ended. -/
inductive Walk.Ending where
  /-- The end of the word was selected. -/
  | complete
  /-- Nothing could be selected in a row. -/
  | dead (row : Nat)
  /-- There was no draw left. -/
  | outOfDraws
  /-- A check inside the library failed. -/
  | broken (fault : InternalFault)
  deriving DecidableEq, Repr

/-- A walk through a table. -/
structure Walk where
  /-- The cells that were selected, in order. -/
  cells : List Cell
  /-- How the walk ended. -/
  ending : Walk.Ending
  /-- The draws that were not used. -/
  rest : List Draw
  deriving DecidableEq, Repr

/-- The walk with a cell before the others. -/
def Walk.after (cell : Cell) (walk : Walk) : Walk :=
  { walk with cells := cell :: walk.cells }

/-- The codes of the letters that a complete walk selected. -/
def Walk.codes (walk : Walk) : List Nat :=
  (walk.cells.map Prod.snd).dropLast

/-- The walk that draws select, from a window on. -/
def Window.walk {s : ContextSpace} (t : Table) (w : Window s) : List Draw → Walk
  | [] => ⟨[], .outOfDraws, []⟩
  | u :: us =>
    match t.sample w.row u with
    -- the draw is used up even though the row is dead
    | .error (.deadRow _) => ⟨[], .dead w.row, us⟩
    | .error fault => ⟨[], .broken (.table fault), us⟩
    | .ok column =>
      if column = s.endColumn then
        match w.finish with
        | .error fault => ⟨[(w.row, column)], .broken (.context fault), us⟩
        | .ok _ => ⟨[(w.row, column)], .complete, us⟩
      else
        match w.push column with
        | .error fault => ⟨[(w.row, column)], .broken (.context fault), us⟩
        | .ok next => (next.walk t us).after (w.row, column)

theorem Window.length_rest_walk_le {s : ContextSpace} (t : Table) (w : Window s)
    (draws : List Draw) : (w.walk t draws).rest.length ≤ draws.length - 1 := by
  induction draws generalizing w with
  | nil => exact Nat.le_refl _
  | cons u us ih =>
    rw [walk]
    split
    · exact Nat.le_refl _
    · exact Nat.le_refl _
    · split
      · split <;> exact Nat.le_refl _
      · split
        · exact Nat.le_refl _
        · exact Nat.le_trans (ih _) (Nat.sub_le _ _)

/-- A walk that is complete has used a draw. -/
theorem Window.length_rest_walk_lt {s : ContextSpace} {t : Table} {w : Window s}
    {draws : List Draw} (h : (w.walk t draws).ending = .complete) :
    (w.walk t draws).rest.length < draws.length := by
  cases draws with
  | nil => cases h
  | cons u us => exact Nat.lt_succ_of_le (w.length_rest_walk_le t (u :: us))

namespace Generator

variable (g : Generator)

/-- The walk that draws select, from the start of a word. -/
def walk (draws : List Draw) : Walk :=
  (Window.start g.space).walk g.table draws

/-- The word that a complete walk spells, provided that each of its codes is that of a letter. -/
def wordOf (walk : Walk) : Except Alphabet.CodeFault String :=
  g.alphabet.decodeCodes (walk.codes.map Int.ofNat)

theorem length_rest_walk_lt {draws : List Draw} (h : (g.walk draws).ending = .complete) :
    (g.walk draws).rest.length < draws.length :=
  Window.length_rest_walk_lt h

end Generator
end Pseudoword
