import Pseudoword.Pattern.Fault

/-! # Tokens of a pattern

A pattern is read token by token: a token is a character, or a backslash with the character after
it. The list of tokens ends with a mark that says where the text stops; a lone backslash at the end
is a mark of its own, and reading up to it is an error.

* `Pattern.Token.tokenize` — the tokens of a text.
* `Pattern.Reading` — results of reading, with the tokens that are left.
* `Pattern.advance`, `Pattern.accept`, `Pattern.takeWhile`, `Pattern.takeName` — the ways of consuming tokens.
-/

namespace Pseudoword.Pattern

/-- What a token holds. -/
inductive TokenKind where
  /-- A character that stands for itself or is an operator. -/
  | plain (c : Char)
  /-- A character after a backslash. -/
  | escaped (c : Char)
  /-- A backslash with nothing after it. -/
  | dangling
  /-- The end of the text. -/
  | stop
  deriving DecidableEq, Repr

/-- A token with its position in the text. -/
structure Token where
  /-- The position of its first character. -/
  start : Nat
  /-- What it holds. -/
  kind : TokenKind
  deriving DecidableEq, Repr

namespace Token

/-- Whether the token is a given plain character. -/
def is (t : Token) (c : Char) : Bool :=
  t.kind == .plain c

/-- The characters of a token. -/
def chars (t : Token) : List Char :=
  match t.kind with
  | .plain c => [c]
  | .escaped c => ['\\', c]
  | .dangling => ['\\']
  | .stop => []

/-- The text of a token. -/
def text (t : Token) : String :=
  String.ofList t.chars

/-- The tokens of a text that starts at a position. -/
def tokenize (start : Nat) : List Char → List Token
  | [] => [⟨start, .stop⟩]
  | ['\\'] => [⟨start, .dangling⟩]
  | '\\' :: c :: cs => ⟨start, .escaped c⟩ :: tokenize (start + 2) cs
  | c :: cs => ⟨start, .plain c⟩ :: tokenize (start + 1) cs

end Token

/-- The outcome of reading a part of a pattern. -/
abbrev Reading := Except PatternError

/-- Stop with a fault at a position. -/
def fail {α : Type} (fault : Fault) (position : Nat) : Reading α :=
  .error (.malformed fault (some position))

/-- The position of the next token. -/
def position : List Token → Nat
  | [] => 0
  | t :: _ => t.start

/-- Refuse tokens that start with a lone backslash. -/
def refuseDangling : List Token → Reading Unit
  | ⟨start, .dangling⟩ :: _ => fail .danglingBackslash start
  | _ => .ok ()

/-- Drop the next token. The end of the text stays. -/
def advance : List Token → Reading (List Token)
  | [] => .ok []
  | ⟨start, .stop⟩ :: rest => .ok (⟨start, .stop⟩ :: rest)
  | _ :: rest => do
    refuseDangling rest
    return rest

/-- Drop the next token if it is a given plain character. -/
def accept (c : Char) (ts : List Token) : Reading (Option (List Token)) :=
  match ts with
  | t :: _ => if t.is c then (advance ts).map some else .ok none
  | [] => .ok none

/-- Take plain characters that pass a test, up to a number of them. -/
def takeWhile (p : Char → Bool) : Nat → List Token → Reading (List Char × List Token)
  | 0, ts => .ok ([], ts)
  | _ + 1, [] => .ok ([], [])
  | n + 1, t :: rest =>
    match t.kind with
    | .plain c =>
      if p c then do
        refuseDangling rest
        let (cs, rest) ← takeWhile p n rest
        return (c :: cs, rest)
      else .ok ([], t :: rest)
    | _ => .ok ([], t :: rest)

/-- Take all plain characters that pass a test. -/
def takeAll (p : Char → Bool) (ts : List Token) : Reading (List Char × List Token) :=
  takeWhile p ts.length ts

/-- Take a name up to its terminator, which is dropped. The characters taken so far are listed in
reverse. -/
def takeNameOnto (terminator : Char) (what : String) (taken : List Char) :
    List Token → Reading (String × List Token)
  | [] => .ok ("", [])
  | t :: rest =>
    match t.kind with
    | .stop =>
      if taken.isEmpty then fail (.missingName what) t.start
      else fail (.unterminatedName terminator) (t.start - taken.length)
    | _ => do
      refuseDangling rest
      if t.is terminator then
        if taken.isEmpty then fail (.missingName what) t.start
        else return (String.ofList taken.reverse, rest)
      else takeNameOnto terminator what (t.chars.reverse ++ taken) rest

/-- Take a name up to its terminator, which is dropped. -/
def takeName (terminator : Char) (what : String) (ts : List Token) :
    Reading (String × List Token) :=
  takeNameOnto terminator what [] ts

end Pseudoword.Pattern
