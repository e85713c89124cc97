/-
Numerals: whole numbers in four notations, and decimal numbers with a point, an exponent or
the letter of an imaginary number. Underscores may stand between digits. Every function
here takes what lies ahead and gives what lies behind the part that it reads.

A numeral may be followed directly by a word such as `and`, but by no other letter.
-/
import Famix.Action.Mistake
import Famix.Text.Name

set_option autoImplicit false

namespace Famix.Action.Numeral

/-- Whether a character would go on with a word. Characters beyond ASCII are taken for
letters here. -/
def goesOn (c : Char) : Bool := c.isAlphanum || c == '_' || 127 < c.toNat

/-- The words that may follow a numeral directly. -/
def followers : List String := ["and", "else", "for", "or", "not"]

/-- The beginnings of words that may follow a numeral directly. -/
def followerBeginnings : List String := ["if", "in", "is"]

/-- Whether a word that may follow a numeral lies ahead. -/
def followerAhead (ahead : Text) : Bool :=
  (followers.any fun word => word.toList == ahead.takeWhile goesOn) ||
    followerBeginnings.any fun word => word.toList.isPrefixOf ahead

/-- The end of a numeral. Only letters of ASCII are not allowed behind it. -/
def finish (kind : NumeralKind) (ahead : Text) : Except Mistake Text :=
  if followerAhead ahead then .ok ahead
  else if ahead.head?.any fun c => c.isAlphanum || c == '_' then .error (.badNumeral kind)
  else .ok ahead

/-- Whether a digit lies ahead. -/
def digitAhead (ahead : Text) : Bool := ahead.head?.any Char.isDigit

/-- The rest of a run of decimal digits. -/
def digits : Text → Except Mistake Text
  | [] => .ok []
  | c :: ahead =>
    if c.isDigit then digits ahead
    else if c != '_' then .ok (c :: ahead)
    else if digitAhead ahead then digits ahead
    else .error (.badNumeral .decimal)

/-- The letter of an imaginary number, if it is there, and the end. -/
def unit : Text → Except Mistake Text
  | [] => finish .decimal []
  | c :: ahead =>
    if c == 'j' || c == 'J' then finish .imaginary ahead else finish .decimal (c :: ahead)

/-- An exponent, if it is there, and what follows it. -/
def exponent : Text → Except Mistake Text
  | [] => unit []
  | c :: ahead =>
    if c != 'e' && c != 'E' then unit (c :: ahead)
    else if digitAhead ahead then digits ahead >>= unit
    else
      match ahead with
      | '+' :: ahead | '-' :: ahead =>
        if digitAhead ahead then digits ahead >>= unit else .error (.badNumeral .decimal)
      | _ => finish .decimal (c :: ahead)

/-- The digits behind a point, and what follows them. -/
def fraction (ahead : Text) : Except Mistake Text :=
  if digitAhead ahead then digits ahead >>= exponent else exponent ahead

/-- What follows the digits before a point. -/
def point : Text → Except Mistake Text
  | '.' :: ahead => fraction ahead
  | ahead => exponent ahead

/-- The digits of a whole number in another notation than the decimal one; `needed` says
whether a digit must come next. -/
def others (kind : NumeralKind) (belongs : Char → Bool) : (needed : Bool) → Text →
    Except Mistake Text
  | needed, [] => if needed then .error (.badNumeral kind) else finish kind []
  | needed, c :: ahead =>
    if belongs c then others kind belongs false ahead
    else if c == '_' && !needed then others kind belongs true ahead
    else if c.isDigit then .error (.badDigit c kind)
    else if needed then .error (.badNumeral kind)
    else finish kind (c :: ahead)

/-- A whole number behind the letter of its notation, which an underscore may follow. -/
def inNotation (kind : NumeralKind) (belongs : Char → Bool) : Text → Except Mistake Text
  | '_' :: ahead => others kind belongs true ahead
  | ahead => others kind belongs true ahead

/-- The zeros at the beginning of a numeral. -/
def zeros : Text → Except Mistake Text
  | [] => .ok []
  | c :: ahead =>
    if c == '0' then zeros ahead
    else if c != '_' then .ok (c :: ahead)
    else if digitAhead ahead then zeros ahead
    else .error (.badNumeral .decimal)

/-- A decimal number that begins with zeros; a whole one holds nothing else. -/
def behindZero (ahead : Text) : Except Mistake Text := do
  let ahead ← zeros ahead
  if digitAhead ahead then
    let ahead ← digits ahead
    if ahead.head?.any fun c => ['.', 'e', 'E', 'j', 'J'].contains c then point ahead
    else .error .leadingZeros
  else point ahead

/-- What lies behind the numeral with which a text begins. -/
def behind : Text → Except Mistake Text
  | '.' :: ahead => fraction ahead
  | '0' :: 'x' :: ahead | '0' :: 'X' :: ahead =>
    inNotation .hexadecimal
      (fun c => c.isDigit || ('a' ≤ c && c ≤ 'f') || ('A' ≤ c && c ≤ 'F')) ahead
  | '0' :: 'o' :: ahead | '0' :: 'O' :: ahead =>
    inNotation .octal (fun c => '0' ≤ c && c ≤ '7') ahead
  | '0' :: 'b' :: ahead | '0' :: 'B' :: ahead =>
    inNotation .binary (fun c => c == '0' || c == '1') ahead
  | '0' :: ahead => behindZero ahead
  | ahead => digits ahead >>= point

/-- Whether a numeral writes an imaginary number. -/
def isImaginary (numeral : Text) : Bool := numeral.getLast?.any fun c => c == 'j' || c == 'J'

/-- The count of digits of a whole decimal number that is too long to be read. -/
def excess? (numeral : Text) : Option Nat :=
  let written := numeral.filter (· != '_')
  if written.all Char.isDigit ∧ 4300 < written.length then some written.length else none

end Famix.Action.Numeral
