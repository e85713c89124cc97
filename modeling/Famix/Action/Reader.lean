/-
Readers of tokens. A reader stands at a token; it reads on, or finds that what it looks for
is not there, or meets a mistake, which ends the reading. Of alternatives the first one
that reads something counts, and each starts where the one before it started.

Text is read twice at most. The first time a mistake is met only where no reading is
possible at all; the second time the readers are `advising` and look for known mistakes
where they would simply not go on. What a phrase amounts to at a place is kept, so that no
alternative reads it again.
-/
import Famix.Action.Token
import Std.Data.HashMap

set_option autoImplicit false

namespace Famix.Action

/-- The parts of expressions that are read in more than one place. -/
inductive Phrase where
  | expression
  /-- An expression whose own mistakes are left alone. -/
  | unadvised
  | starExpression
  | disjunction
  | conjunction
  | inversion
  | bitOr
  | bitXor
  | bitAnd
  | shift
  | sum
  | term
  | factor
  | awaited
  | primary
  | arguments
  | bindingMistake
  | target
  | innerTarget
  | targetOwner
deriving DecidableEq, Repr, Hashable

/-- What a phrase amounts to at a place: an expression and the place behind it, or nothing. -/
abbrev Memory := Std.HashMap (Phrase × Nat) (Option (Expr × Nat))

/-- Where a reader stands, and what it knows. -/
structure Progress where
  place : Nat := 0
  advising : Bool
  memory : Memory := {}

/-- A reader. -/
def Reader (α : Type) : Type :=
  Array Token → Progress → Except Mistake (Option α × Progress)

namespace Reader

variable {α β : Type}

/-- Reads nothing and finds a value. -/
def succeed (value : α) : Reader α := fun _ progress => .ok (some value, progress)

/-- Reads with one reader and goes on with another. -/
def andThen (reader : Reader α) (next : α → Reader β) : Reader β := fun tokens progress =>
  match reader tokens progress with
  | .error mistake => .error mistake
  | .ok (none, progress) => .ok (none, progress)
  | .ok (some value, progress) => next value tokens progress

instance : Monad Reader where
  pure := succeed
  bind := andThen

/-- Finds nothing. -/
def absent : Reader α := fun _ progress => .ok (none, progress)

/-- Meets a mistake. -/
def mistaken (mistake : Mistake) : Reader α := fun _ _ => .error mistake

/-- Meets a mistake if there is one. -/
def settle (outcome : Except Mistake α) : Reader α := fun _ progress =>
  outcome.map fun value => (some value, progress)

/-- What a reader finds, or nothing, without moving if there is nothing. -/
def optional (reader : Reader α) : Reader (Option α) := fun tokens progress =>
  match reader tokens progress with
  | .error mistake => .error mistake
  | .ok (none, after) => .ok (some none, { after with place := progress.place })
  | .ok (some value, after) => .ok (some (some value), after)

/-- The first of the alternatives that reads something. -/
def firstOf : List (Reader α) → Reader α
  | [] => absent
  | reader :: readers => do
    match ← optional reader with
    | some value => succeed value
    | none => firstOf readers

/-- As many readings as are possible in a number of rounds. -/
def repeated (reader : Reader α) : Nat → Reader (List α)
  | 0 => succeed []
  | rounds + 1 => do
    match ← optional reader with
    | none => succeed []
    | some value => do
      let values ← repeated reader rounds
      succeed (value :: values)

/-- As many readings as are possible. There are no more than tokens. -/
def many (reader : Reader α) : Reader (List α) := fun tokens =>
  repeated reader tokens.size tokens

/-- One reading or more. -/
def oneOrMore (reader : Reader α) : Reader (List α) := do
  let value ← reader
  let values ← many reader
  succeed (value :: values)

/-- Readings with a separator between them. -/
def separated (reader : Reader α) (separator : Reader Unit) : Reader (List α) := do
  let value ← reader
  let values ← many (do separator; reader)
  succeed (value :: values)

/-- Looks whether a reader would find something, without moving. -/
def ahead (reader : Reader α) : Reader Bool := fun tokens progress =>
  match reader tokens progress with
  | .error mistake => .error mistake
  | .ok (found, after) => .ok (some found.isSome, { after with place := progress.place })

/-- Goes on only if a condition holds. -/
def require (condition : Bool) : Reader Unit := if condition then succeed () else absent

/-- Goes on only if a reader would find something. -/
def followedBy (reader : Reader α) : Reader Unit := do
  let found ← ahead reader
  require found

/-- Goes on only if a reader would find nothing. -/
def notFollowedBy (reader : Reader α) : Reader Unit := do
  let found ← ahead reader
  require !found

/-- The token at which a reader stands, if it is accepted. -/
def accept (accepts : Lexeme → Option α) : Reader α := fun tokens progress =>
  match tokens[progress.place]? with
  | none => .ok (none, progress)
  | some token =>
    match token.lexeme with
    | .blocked mistake => .error mistake
    | lexeme =>
      match accepts lexeme with
      | some value => .ok (some value, { progress with place := progress.place + 1 })
      | none => .ok (none, progress)

/-- A token that is known beforehand. -/
def token (lexeme : Lexeme) : Reader Unit :=
  accept fun other => if other = lexeme then some () else none

/-- A symbol. -/
def symbol (text : String) : Reader Unit := token (.symbol text.toList)

/-- A word that is no name. -/
def keyword (word : String) : Reader Unit := token (.keyword word.toList)

/-- A name. -/
def name : Reader Text :=
  accept fun
    | .name word => some word
    | _ => none

/-- A quotation. -/
def quotation : Reader Quotation :=
  accept fun
    | .quotation quotation => some quotation
    | _ => none

/-- A numeral. -/
def numeral : Reader Text :=
  accept fun
    | .numeral numeral => some numeral
    | _ => none

/-- Whether a bracket is open behind the token that was read last. -/
def insideBrackets : Reader Bool := fun tokens progress =>
  .ok (some ((tokens[progress.place - 1]?).any (0 < ·.depth)), progress)

/-- A reader for known mistakes, which reads only when readers are advising. -/
def advising (reader : Reader α) : Reader α := fun tokens progress =>
  if progress.advising then reader tokens progress else .ok (none, progress)

/-- Reads without advising. -/
def unadvising (reader : Reader α) : Reader α := fun tokens progress =>
  match reader tokens { progress with advising := false } with
  | .error mistake => .error mistake
  | .ok (found, after) => .ok (found, { after with advising := progress.advising })

/-- Reads a phrase unless it is known what it amounts to. -/
def remembered (phrase : Phrase) (reader : Reader Expr) : Reader Expr := fun tokens progress =>
  match progress.memory[(phrase, progress.place)]? with
  | some (some (expr, place)) => .ok (some expr, { progress with place })
  | some none => .ok (none, progress)
  | none =>
    match reader tokens progress with
    | .error mistake => .error mistake
    | .ok (found, after) =>
      let known := found.map fun expr => (expr, after.place)
      .ok (found, { after with memory := after.memory.insert (phrase, progress.place) known })

end Reader

end Famix.Action
