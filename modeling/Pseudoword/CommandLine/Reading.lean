import Pseudoword.CommandLine.Argument

/-! # Reading arguments

A command has options, which may stand anywhere, and places, which values fill in order. A run of
values fills as many places as it can, so that an optional place after one that is filled counts as
filled as well. Each option and each place has an effect on what was read so far, or puts an end to
the reading.

* `Place`, `Place.take?` — what fills a place.
* `Grammar` — the options and places of a command, and their effects.
* `Grammar.read` — what arguments say, or why reading came to an end.
-/

namespace Pseudoword.CommandLine

/-- How many arguments fill a place. -/
inductive Place where
  /-- One value. -/
  | one
  /-- One value or none. -/
  | optional
  /-- One value and all arguments after it. -/
  | rest
  deriving DecidableEq, Repr

/-- Why reading came to an end. -/
inductive Stop where
  /-- Help was asked for. -/
  | help
  /-- The version was asked for. -/
  | version
  /-- The arguments are wrong. -/
  | misuse
  deriving DecidableEq, Repr

/-- An argument, and the text that it was written as. -/
structure Written (ω : Type) where
  /-- The argument. -/
  argument : Argument ω
  /-- The text. -/
  text : String

namespace Written

variable {ω : Type}

/-- Whether an argument is an option. -/
def isOption (w : Written ω) : Bool :=
  w.argument.isOption

/-- Whether an argument is the mark after which all arguments are values. -/
def isMark (w : Written ω) : Bool :=
  match w.argument with
  | .mark => true
  | _ => false

/-- The value that an argument is, if it is one. -/
def value? (w : Written ω) : Option String :=
  match w.argument with
  | .value text => some text
  | _ => none

end Written

/-- The texts that fill a place and the arguments after them, if the place can be filled. The mark
goes to a place next to it and is dropped from its texts, unless the place takes all arguments. -/
def Place.take? {ω : Type} (place : Place) (args : List (Written ω)) :
    Option (List String × List (Written ω)) :=
  let marks := args.takeWhile Written.isMark
  let after := args.dropWhile Written.isMark
  let isValue := (after.head?.bind Written.value?).isSome
  match place with
  | .rest => if isValue then some (args.map Written.text, []) else none
  | .one => if isValue then some (single marks after) else none
  | .optional =>
    if isValue then some (single marks after) else some ((marks.map Written.text).erase "--", after)
where
  /-- One argument, with the marks on both sides of it. -/
  single (marks after : List (Written ω)) : List String × List (Written ω) :=
    let others := after.tail
    (((marks ++ after.take 1 ++ others.takeWhile Written.isMark).map Written.text).erase "--",
      others.dropWhile Written.isMark)

/-- The options and places of a command. -/
structure Grammar (ω π σ : Type) where
  /-- The options, once for each name. -/
  switches : List (Switch ω)
  /-- The places, in order. -/
  places : List (π × Place)
  /-- The effect of an option, with its value if it has one. -/
  apply : σ → ω → Option String → Except Stop σ
  /-- The effect of filling a place with texts. -/
  fill : σ → π → List String → Except Stop σ

namespace Grammar

variable {ω π σ : Type} (g : Grammar ω π σ)

/-- How far reading has come. -/
structure Progress (π σ : Type) where
  /-- What was read. -/
  state : σ
  /-- The places that are not filled. -/
  places : List (π × Place)
  /-- Whether there was an argument that fits nowhere. -/
  surplus : Bool

/-- What one argument with options says. -/
structure Expansion (ω : Type) where
  /-- The options, with their values. -/
  options : List (ω × Option String)
  /-- Whether the argument after it is a value of the last option. -/
  usesNext : Bool

/-- An option with nothing attached. A value that belongs to it is the next argument. -/
def expandPlain (next : Option String) (s : Switch ω) : Except Stop (Expansion ω) :=
  if s.takesValue then
    match next with
    | some value => .ok ⟨[(s.meaning, some value)], true⟩
    | none => .error .misuse
  else .ok ⟨[(s.meaning, none)], false⟩

/-- An option with something attached: its value, or for a short option without value the letters of
further options, the last of which may have its own value attached. -/
def expandAttached (next : Option String) (s : Switch ω) (attached : List Char) :
    Except Stop (Expansion ω) :=
  if s.takesValue then .ok ⟨[(s.meaning, some (String.ofList attached))], false⟩
  else if s.name.toList[1]? = some '-' then .error .misuse
  else
    match attached with
    | [] => .error .misuse
    | c :: cs =>
      match Argument.named? g.switches ['-', c] with
      | none => .error .misuse
      | some other =>
        let more := if cs.isEmpty then expandPlain next other else expandAttached next other cs
        more.map fun e => { e with options := (s.meaning, none) :: e.options }

/-- The options that a mention stands for. -/
def expand (next : Option String) (m : Mention ω) : Except Stop (Expansion ω) :=
  match m.attached with
  | none => expandPlain next m.switch
  | some attached => g.expandAttached next m.switch attached

/-- The effects of options, in order. -/
def applyAll (state : σ) : List (ω × Option String) → Except Stop σ
  | [] => .ok state
  | (meaning, value) :: options =>
    match g.apply state meaning value with
    | .error stop => .error stop
    | .ok state => applyAll state options

/-- Fill as many places as arguments can. -/
def fillPlaces (state : σ) (args : List (Written ω)) :
    List (π × Place) → Except Stop (σ × List (π × Place) × List (Written ω))
  | [] => .ok (state, [], args)
  | (name, place) :: places =>
    match place.take? args with
    | none => .ok (state, (name, place) :: places, args)
    | some (texts, args) =>
      match g.fill state name texts with
      | .error stop => .error stop
      | .ok state => fillPlaces state args places

/-- Read arguments to their end. As long as options remain, a run of values fills places, and values
that fill none are surplus. -/
def readOn (p : Progress π σ) (args : List (Written ω)) : Except Stop (Progress π σ) :=
  if args.any Written.isOption then
    match args with
    | [] => .ok p   -- unreachable: there is an option
    | w :: rest =>
      match w.argument with
      | .mention m =>
        match g.expand (rest.head?.bind Written.value?) m with
        | .error stop => .error stop
        | .ok e =>
          match g.applyAll p.state e.options with
          | .error stop => .error stop
          | .ok state =>
            readOn { p with state } (if e.usesNext then rest.tail else rest)
      | .unknown => readOn { p with surplus := true } rest
      | _ =>
        match g.fillPlaces p.state (w :: rest) p.places with
        | .error stop => .error stop
        | .ok (state, places, left) =>
          -- values that fill no place are surplus up to the next option
          if left.length < (w :: rest).length then readOn { p with state, places } left
          else
            readOn ⟨state, places, true⟩ (rest.dropWhile (!·.isOption))
  else
    match g.fillPlaces p.state args p.places with
    | .error stop => .error stop
    | .ok (state, places, left) => .ok ⟨state, places, p.surplus || !left.isEmpty⟩
termination_by args.length
decreasing_by
  · simp only [List.length_cons]
    split
    · exact Nat.lt_succ_of_le (by simp)
    · exact Nat.lt_succ_self _
  · exact Nat.lt_succ_self _
  · assumption
  · exact Nat.lt_succ_of_le (List.dropWhile_sublist _).length_le

/-- What arguments say to a command. An argument that fits nowhere is as wrong as a place left open
that wants a value. -/
def read (start : σ) (texts : List String) : Except Stop σ :=
  match Argument.classify g.switches texts with
  | none => .error .misuse
  | some arguments =>
    match g.readOn ⟨start, g.places, false⟩ (arguments.zipWith Written.mk texts) with
    | .error stop => .error stop
    | .ok p =>
      if p.surplus || p.places.any fun (_, place) => place == .one then .error .misuse
      else .ok p.state

end Grammar
end Pseudoword.CommandLine
