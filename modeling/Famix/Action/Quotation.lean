/-
Quotations: text between single or triple quotes. Letters in front of the quotes give the
form: plain text, bytes, raw text in which backslashes mean nothing, text with expressions
in it. Quotations side by side make one value; they must all be bytes or none of them.
-/
import Famix.Action.Mistake

set_option autoImplicit false

namespace Famix.Action

/-- A quotation: its form, and what stands between the quotes. -/
structure Quotation where
  bytes : Bool
  raw : Bool
  formatted : Bool
  body : Text
deriving DecidableEq, Repr

namespace Quotation

/-- The letters in front of quotes, and what lies behind them, if quotes follow. -/
def opening? (text : Text) : Option (Text × Text) :=
  let letters := text.takeWhile fun c => c != '\'' && c != '"'
  let small := letters.map Char.toLower
  let known := ["", "b", "r", "u", "f", "br", "rb", "fr", "rf"].any fun form => form.toList == small
  let ahead := text.drop letters.length
  if known && !ahead.isEmpty then some (small, ahead) else none

/-- The body of a quotation in single quotes, and what lies behind it. A backslash takes the
next character with it. -/
def shortBody (quote : Char) : Text → Option (Text × Text)
  | [] => none
  | ['\\'] => none
  | '\\' :: c :: ahead =>
    (shortBody quote ahead).map fun (body, ahead) => ('\\' :: c :: body, ahead)
  | c :: ahead =>
    if c == quote then some ([], ahead)
    else if c == '\n' then none
    else (shortBody quote ahead).map fun (body, ahead) => (c :: body, ahead)

/-- The body of a quotation in triple quotes, and what lies behind it. -/
def longBody (quote : Char) : Text → Option (Text × Text)
  | [] => none
  | ['\\'] => none
  | '\\' :: c :: ahead =>
    (longBody quote ahead).map fun (body, ahead) => ('\\' :: c :: body, ahead)
  | c :: ahead =>
    if [quote, quote, quote].isPrefixOf (c :: ahead) then some ([], ahead.drop 2)
    else (longBody quote ahead).map fun (body, ahead) => (c :: body, ahead)

/-- The lines that a quotation without its end touches: to the end of its line, or of the
text. -/
def missedIn (line : Nat) (quote : Char) : Text → Nat
  | [] => line
  | ['\\'] => line
  | '\\' :: c :: ahead => missedIn (if c == '\n' then line + 1 else line) quote ahead
  | '\n' :: _ => line
  | _ :: ahead => missedIn line quote ahead

/-- The quotation in a line that begins with its quotes, and what lies behind it. -/
def read (letters : Text) (line : Nat) : Text → Except Mistake (Quotation × Text)
  | [] => .error (.openQuotation line)
  | quote :: ahead =>
    let form := fun body =>
      (⟨letters.contains 'b', letters.contains 'r', letters.contains 'f', body⟩ : Quotation)
    if [quote, quote].isPrefixOf ahead then
      match longBody quote (ahead.drop 2) with
      | some (body, ahead) => .ok (form body, ahead)
      | none => .error (.openLongQuotation (line + ahead.count '\n'))
    else
      match shortBody quote ahead with
      | some (body, ahead) => .ok (form body, ahead)
      | none => .error (.openQuotation (missedIn line quote ahead))

/-! ## Escapes -/

/-- How many places a character takes up where a flaw of an escape is located. -/
def places (c : Char) : Nat := if c.toNat < 128 then 1 else 10

/-- The hexadecimal digits that a letter asks for behind a backslash. -/
def digitCount : Char → Nat
  | 'x' => 2
  | 'u' => 4
  | 'U' => 8
  | _ => 0

/-- Whether a character is a hexadecimal digit. -/
def isHexDigit (c : Char) : Bool :=
  c.isDigit || ('a' ≤ c && c ≤ 'f') || ('A' ≤ c && c ≤ 'F')

/-- The number that hexadecimal digits write. -/
def hexValue (digits : Text) : Nat := Nat.ofDigitChars 16 digits 0

/-- The flaw of the escape of a character by its number, which begins at a place. -/
def numberFlaw? (place : Nat) (letter : Char) (ahead : Text) : Option Mistake :=
  let count := digitCount letter
  let digits := (ahead.take count).takeWhile isHexDigit
  if digits.length < count then
    some (.badEscape (.tooShort letter count) place (place + 1 + digits.length))
  else if 0x10ffff < hexValue digits then
    some (.badEscape .noCharacter place (place + 1 + digits.length))
  else none

/-- The flaw of the escape of a character by its name, which begins at a place. -/
def nameFlaw? (place : Nat) : Text → Option Mistake
  | '{' :: ahead =>
    let name := ahead.takeWhile (· != '}')
    if name.length == ahead.length || name.isEmpty then
      some (.badEscape .noName place (name.foldl (fun last c => last + places c) (place + 2)))
    else none
  | _ => some (.badEscape .noName place (place + 1))

/-- The first flaw in the escapes of a text. -/
def flaw? (place : Nat) : Text → Option Mistake
  | [] => none
  | ['\\'] => none
  | '\\' :: c :: ahead =>
    let found :=
      if c == 'x' || c == 'u' || c == 'U' then numberFlaw? place c ahead
      else if c == 'N' then nameFlaw? place ahead
      else none
    found.or (flaw? (place + places c + if c.toNat < 128 then 1 else 6) ahead)
  | c :: ahead => flaw? (place + places c) ahead

/-- The first flaw in the escapes of bytes. -/
def byteFlaw? (place : Nat) : Text → Option Mistake
  | [] => none
  | ['\\'] => none
  | '\\' :: c :: ahead =>
    if c == 'x' && ((ahead.take 2).takeWhile isHexDigit).length < 2 then
      some (.badByteEscape place)
    else byteFlaw? (place + 2) ahead
  | _ :: ahead => byteFlaw? (place + 1) ahead

/-- What is wrong with a quotation by itself. -/
def mistake? (quotation : Quotation) : Option Mistake :=
  if quotation.bytes && quotation.body.any fun c => 127 < c.toNat then some .characterInBytes
  else if quotation.raw || quotation.formatted then none
  else if quotation.bytes then byteFlaw? 0 quotation.body
  else flaw? 0 quotation.body

/-- The value of quotations side by side. `bytes` says whether those before are bytes, if
there are any. -/
def joinFrom (bytes : Option Bool) : List Quotation → Except Mistake Expr
  | [] => .ok (.constant .text)
  | quotation :: quotations =>
    match quotation.mistake? with
    | some mistake => .error mistake
    | none =>
      if bytes.any (· != quotation.bytes) then .error .mixedQuotations
      else do
        let value ← joinFrom (some quotation.bytes) quotations
        .ok (if quotation.formatted then .other .formattedText else value)

/-- The value of quotations side by side. -/
def join (quotations : List Quotation) : Except Mistake Expr := joinFrom none quotations

end Quotation

end Famix.Action
