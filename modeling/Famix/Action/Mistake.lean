/-
What can be wrong with the way in which arguments are written: first of all with the
characters, then with the brackets, then with the order of the tokens.
-/
import Famix.Action.Expr
import Famix.Text.Quoted

set_option autoImplicit false

namespace Famix.Action

/-- The notations of numbers. -/
inductive NumeralKind where
  | decimal
  | hexadecimal
  | octal
  | binary
  | imaginary
deriving DecidableEq, Repr

/-- The word for a notation. -/
def NumeralKind.word : NumeralKind → Text
  | decimal => "decimal".toList
  | hexadecimal => "hexadecimal".toList
  | octal => "octal".toList
  | binary => "binary".toList
  | imaginary => "imaginary".toList

/-- What can be wrong with an escape in a quotation. -/
inductive EscapeFlaw where
  /-- Fewer hexadecimal digits than the letter of the escape asks for. -/
  | tooShort (letter : Char) (digits : Nat)
  | noCharacter
  | noName
deriving DecidableEq, Repr

/-- A flaw of an escape in words. -/
def EscapeFlaw.message : EscapeFlaw → Text
  | tooShort letter digits =>
    "truncated \\".toList ++ letter :: List.replicate digits 'X' ++ " escape".toList
  | noCharacter => "illegal Unicode character".toList
  | noName => "malformed \\N character escape".toList

/-- What can be wrong with the way in which arguments are written. -/
inductive Mistake where
  /-- A quotation without its end, which was missed in a line. -/
  | openQuotation (line : Nat)
  /-- A quotation in triple quotes without its end, which was missed in a line. -/
  | openLongQuotation (line : Nat)
  | badNumeral (kind : NumeralKind)
  | badDigit (digit : Char) (kind : NumeralKind)
  | leadingZeros
  | strangeCharacter (c : Char)
  | invisibleCharacter (c : Char)
  | strayBackslash
  | unexpectedEnd
  | tooDeep
  | unopened (closing : Char)
  /-- A closing bracket of another shape than the one that it closes. `line` is the line of
  the opening one if that is another line. -/
  | mismatched (closing opening : Char) (line : Option Nat)
  | unclosed (opening : Char)
  | tooManyDigits (count : Nat)
  | badEscape (flaw : EscapeFlaw) (first last : Nat)
  | badByteEscape (position : Nat)
  | characterInBytes
  | mixedQuotations
  | invalid
  | forgottenComma
  | missingElse
  | missingParentheses (name : Text)
  | singleEquals
  | singleEqualsAt (kind : ExprKind)
  | badBinding (kind : ExprKind)
  | badAssignment (kind : ExprKind)
  | assignmentInArgument
  | starredHere
  | doubleStarredHere
  | starredValue
  | missingValue
  | missingColon
  | starredInGenerator
  | bareGeneratorTarget
  | unpackedInGenerator
  | bareGenerator
  | starredBehindUnpacked
  | plainBehindKeyword
  | plainBehindUnpacked
deriving DecidableEq, Repr

/-- The number of a character, with four hexadecimal digits at least. -/
def characterNumber (c : Char) : Text := "U+".toList ++ (Text.hexDigits 4 c.toNat).map Char.toUpper

/-- A mistake in words. -/
def Mistake.message : Mistake → Text
  | openQuotation line =>
    "unterminated string literal (detected at line ".toList ++ Text.ofNat line ++ ")".toList
  | openLongQuotation line =>
    "unterminated triple-quoted string literal (detected at line ".toList ++ Text.ofNat line ++
      ")".toList
  | badNumeral kind => "invalid ".toList ++ kind.word ++ " literal".toList
  | badDigit digit kind =>
    "invalid digit '".toList ++ digit :: "' in ".toList ++ kind.word ++ " literal".toList
  | leadingZeros =>
    "leading zeros in decimal integer literals are not permitted; ".toList ++
      "use an 0o prefix for octal integers".toList
  | strangeCharacter c =>
    "invalid character '".toList ++ c :: "' (".toList ++ characterNumber c ++ ")".toList
  | invisibleCharacter c => "invalid non-printable character ".toList ++ characterNumber c
  | strayBackslash => "unexpected character after line continuation character".toList
  | unexpectedEnd => "unexpected EOF while parsing".toList
  | tooDeep => "too many nested parentheses".toList
  | unopened closing => "unmatched '".toList ++ closing :: "'".toList
  | mismatched closing opening line =>
    "closing parenthesis '".toList ++ closing :: "' does not match opening parenthesis '".toList ++
      opening :: "'".toList ++
      match line with
      | some line => " on line ".toList ++ Text.ofNat line
      | none => []
  | unclosed opening => "'".toList ++ opening :: "' was never closed".toList
  | tooManyDigits count =>
    "Exceeds the limit (4300 digits) for integer string conversion: value has ".toList ++
      Text.ofNat count ++
      " digits; use sys.set_int_max_str_digits() to increase the limit".toList ++
      " - Consider hexadecimal for huge integer literals to avoid decimal conversion limits.".toList
  | badEscape flaw first last =>
    "(unicode error) 'unicodeescape' codec can't decode bytes in position ".toList ++
      Text.ofNat first ++ '-' :: Text.ofNat last ++ ": ".toList ++ flaw.message
  | badByteEscape position =>
    "(value error) invalid \\x escape at position ".toList ++ Text.ofNat position
  | characterInBytes => "bytes can only contain ASCII literal characters".toList
  | mixedQuotations => "cannot mix bytes and nonbytes literals".toList
  | invalid => "invalid syntax".toList
  | forgottenComma => "invalid syntax. Perhaps you forgot a comma?".toList
  | missingElse => "expected 'else' after 'if' expression".toList
  | missingParentheses name =>
    "Missing parentheses in call to '".toList ++ name ++ "'. Did you mean ".toList ++ name ++
      "(...)?".toList
  | singleEquals => "invalid syntax. Maybe you meant '==' or ':=' instead of '='?".toList
  | singleEqualsAt kind =>
    "cannot assign to ".toList ++ kind.words ++
      " here. Maybe you meant '==' instead of '='?".toList
  | badBinding kind => "cannot use assignment expressions with ".toList ++ kind.words
  | badAssignment kind => "cannot assign to ".toList ++ kind.words
  | assignmentInArgument =>
    "expression cannot contain assignment, perhaps you meant \"==\"?".toList
  | starredHere => "cannot use starred expression here".toList
  | doubleStarredHere => "cannot use double starred expression here".toList
  | starredValue => "cannot use a starred expression in a dictionary value".toList
  | missingValue => "expression expected after dictionary key and ':'".toList
  | missingColon => "':' expected after dictionary key".toList
  | starredInGenerator => "iterable unpacking cannot be used in comprehension".toList
  | bareGeneratorTarget =>
    "did you forget parentheses around the comprehension target?".toList
  | unpackedInGenerator => "dict unpacking cannot be used in dict comprehension".toList
  | bareGenerator => "Generator expression must be parenthesized".toList
  | starredBehindUnpacked =>
    "iterable argument unpacking follows keyword argument unpacking".toList
  | plainBehindKeyword => "positional argument follows keyword argument".toList
  | plainBehindUnpacked => "positional argument follows keyword argument unpacking".toList

end Famix.Action
