/-
Regular patterns and matching by derivatives: the derivative of a pattern by a character
matches what may follow that character, so a text matches if the derivative by all its
characters allows the empty text.
-/
import Famix.Text.Basic

set_option autoImplicit false

namespace Famix

/-- A regular pattern over classes of characters. -/
inductive Pattern where
  | nothing
  | empty
  | char (belongs : Char → Bool)
  | seq (first second : Pattern)
  | either (left right : Pattern)
  | star (pattern : Pattern)

namespace Pattern

/-- Whether the empty text matches. -/
def nullable : Pattern → Bool
  | nothing => false
  | empty => true
  | char _ => false
  | seq first second => nullable first && nullable second
  | either left right => nullable left || nullable right
  | star _ => true

/-- Two patterns in a row, without needless parts. -/
def join : Pattern → Pattern → Pattern
  | nothing, _ => nothing
  | _, nothing => nothing
  | empty, second => second
  | first, second => seq first second

/-- Either of two patterns, without needless parts. -/
def union : Pattern → Pattern → Pattern
  | nothing, right => right
  | left, nothing => left
  | left, right => either left right

/-- What may follow the character. -/
def derive (c : Char) : Pattern → Pattern
  | nothing => nothing
  | empty => nothing
  | char belongs => if belongs c then empty else nothing
  | seq first second =>
    union (join (derive c first) second) (if nullable first then derive c second else nothing)
  | either left right => union (derive c left) (derive c right)
  | star pattern => join (derive c pattern) (star pattern)

/-- Whether a whole text matches. -/
def isMatch (pattern : Pattern) (text : Text) : Bool :=
  (text.foldl (fun p c => derive c p) pattern).nullable

/-! ## Forms -/

/-- Exactly a text. -/
def word (text : Text) : Pattern :=
  text.foldr (fun c rest => seq (char (· == c)) rest) empty

/-- One of several patterns. -/
def anyOf (patterns : List Pattern) : Pattern := patterns.foldr either nothing

/-- One of several texts. -/
def anyWord (words : List String) : Pattern := anyOf (words.map fun w => word w.toList)

/-- A character of a text. -/
def among (text : String) : Pattern := char fun c => text.toList.contains c

/-- A pattern or nothing. -/
def maybe (pattern : Pattern) : Pattern := either pattern empty

/-- A pattern once or more. -/
def plus (pattern : Pattern) : Pattern := seq pattern (star pattern)

/-- Several patterns in a row. -/
def row (patterns : List Pattern) : Pattern := patterns.foldr seq empty

/-- A decimal digit. -/
def digit : Pattern := char Char.isDigit

end Pattern

end Famix
