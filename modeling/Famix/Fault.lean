/-
Why a reader may stop without an answer. A fault is not a mismatch: a mismatch lets the
surrounding parsers try something else, a fault ends them all at once.
-/
import Famix.Text.Basic

set_option autoImplicit false

namespace Famix

/-- The shape of a value that a parser has produced. -/
inductive Shape where
  | text
  | flag
  | number
  | absent
  | tuple
  | list
  /-- An entity, with the name of its kind. -/
  | record (kind : Text)
deriving DecidableEq, Repr

/-- The word for a shape in messages. -/
def Shape.word : Shape → Text
  | text => "str".toList
  | flag => "bool".toList
  | number => "int".toList
  | absent => "NoneType".toList
  | tuple => "tuple".toList
  | list => "list".toList
  | record kind => kind

/-- What a mapping function wants to do with a value. -/
inductive Use where
  | doubling
  | measuring
  | indexing
  | listing
deriving DecidableEq, Repr

/-- What can be asked of a part of a description, and is understood by parsers alone. -/
inductive Demand where
  | map
  | skip
  | take
  | zeroOrMore
  | parse
  | run
deriving DecidableEq, Repr

/-- The word for a demand in messages. -/
def Demand.word : Demand → Text
  | map => "map".toList
  | skip => "skip".toList
  | take => "take".toList
  | zeroOrMore => "zero_or_more".toList
  | parse => "parse".toList
  | run => "run".toList

/-- What is said of a thing that is no parser and is asked to do what parsers do. -/
def Demand.refusal (demand : Demand) (shape : Shape) : Text :=
  "'".toList ++ shape.word ++ "' object has no attribute '".toList ++ demand.word ++ "'".toList

/-- The reasons for which reading stops altogether. -/
inductive Fault where
  /-- A numeral with more digits than a number may be written with. -/
  | tooManyDigits (count : Nat)
  /-- A numeral without a digit. -/
  | noDigits
  /-- An index that points at no element of a text, tuple or list. -/
  | indexOutside (shape : Shape)
  /-- A value of a shape that the mapping function cannot treat. -/
  | unsuited (use : Use) (shape : Shape)
  /-- A thing that is no parser is to read. -/
  | cannot (shape : Shape) (demand : Demand)
  /-- A number with more digits than a number may be written with is to be written. -/
  | tooLarge
  /-- A repetition that was still going when its allowance of rounds was used up. -/
  | endless
deriving DecidableEq, Repr

/-- The longest numeral that is read as a number, or written. -/
def maxDigits : Nat := 4300

/-- Whether a number can be written: its numeral has at most `maxDigits` digits. -/
def isWritableNumber (value : Int) : Bool := (Text.ofNat value.natAbs).length ≤ maxDigits

/-- A fault in words. -/
def Fault.message : Fault → Text
  | tooManyDigits count =>
    "Exceeds the limit (".toList ++ Text.ofNat maxDigits ++
      " digits) for integer string conversion: value has ".toList ++ Text.ofNat count ++
      " digits; use sys.set_int_max_str_digits() to increase the limit".toList
  | noDigits => "invalid literal for int() with base 10: ''".toList
  | indexOutside .text => "string index out of range".toList
  | indexOutside shape => shape.word ++ " index out of range".toList
  | unsuited .doubling shape =>
    "unsupported operand type(s) for *: '".toList ++ shape.word ++ "' and 'int'".toList
  | unsuited .measuring shape =>
    "object of type '".toList ++ shape.word ++ "' has no len()".toList
  | unsuited .indexing shape => "'".toList ++ shape.word ++ "' object is not subscriptable".toList
  | unsuited .listing shape => "'".toList ++ shape.word ++ "' object is not iterable".toList
  | cannot shape demand => demand.refusal shape
  | tooLarge =>
    "Exceeds the limit (".toList ++ Text.ofNat maxDigits ++
      " digits) for integer string conversion; ".toList ++
      "use sys.set_int_max_str_digits() to increase the limit".toList
  | endless => "the repetition does not end".toList

end Famix
