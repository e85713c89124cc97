/-
One value as a YAML scalar in block context. Texts are written plain where a plain
scalar is allowed and would be read back as a text; otherwise they are quoted.

The style of a text depends on it alone: plain if `plainAllowed` and not
`readsAsOther`; else double quotes if it holds a single quote or a newline, or something
that only double quotes can show; else single quotes.
-/
import Famix.Text.Pattern
import Famix.Text.Quoted

set_option autoImplicit false

namespace Famix.Yaml

/-! ## Characters -/

/-- The characters that end a line in YAML, the newline among them. -/
def isBreak (c : Char) : Bool :=
  c == '\n' || c == '\u0085' || c == '\u2028' || c == '\u2029'

/-- The characters that separate tokens. -/
def isSpace (c : Char) : Bool :=
  c == '\x00' || c == ' ' || c == '\t' || c == '\r' || isBreak c

/-- Whether a character may stand for itself in double quotes, apart from the quote, the
backslash and the line ends: printable ASCII and everything from the no-break space on
but the byte order mark and the two last code points of the first plane. -/
def isShown (c : Char) : Bool :=
  (' ' ≤ c && c ≤ '~') ||
    (0xa0 ≤ c.toNat && c.toNat != 0xfeff && c.toNat != 0xfffe && c.toNat != 0xffff)

/-- The characters that only an escape can show. -/
def isSpecial (c : Char) : Bool := !(isShown c || c == '\n' || c == '\u0085')

/-! ## Plain texts -/

/-- The characters that have a meaning of their own at the beginning of a scalar. -/
def isIndicator (c : Char) : Bool := "#,[]\x7b\x7d&*!|>'\"%@\x60".toList.contains c

/-- Whether a space or the end follows. -/
def beforeSpace : Text → Bool
  | [] => true
  | c :: _ => isSpace c

/-- Whether the rest of a scalar holds a mark that would end it: a colon before a space,
or a number sign after one. `afterSpace` tells whether a space came just before. -/
def holdsMark (afterSpace : Bool) : Text → Bool
  | [] => false
  | c :: rest =>
    (c == ':' && beforeSpace rest) || (c == '#' && afterSpace) || holdsMark (isSpace c) rest

/-- Whether a text begins in a way that no plain scalar may. -/
def badStart (text : Text) : Bool :=
  "---".toList.isPrefixOf text || "...".toList.isPrefixOf text ||
    match text with
    | [] => true
    | c :: rest =>
      c == ' ' || isIndicator c || ((c == '?' || c == ':' || c == '-') && beforeSpace rest)

/-- Whether a plain scalar may spell the text. -/
def plainAllowed (text : Text) : Bool :=
  !(badStart text || holdsMark true text || text.getLast? == some ' ' ||
    text.any isBreak || text.any isSpecial)

/-! ## Plain scalars that are no texts -/

section

open Famix.Pattern

/-- The plain scalars that are read as something other than a text, each with the
characters that it may begin with. -/
def otherTypes : List (String × Pattern) :=
  let sign := maybe (among "-+")
  let exponent := row [among "eE", maybe (among "-+"), plus digit]
  let twoDigits := row [digit, digit]
  let oneOrTwo := row [digit, maybe digit]
  let fraction := row [char (· == '.'), star digit]
  let zone := row [star (among " \t"),
    either (char (· == 'Z'))
      (row [among "-+", oneOrTwo, maybe (row [char (· == ':'), twoDigits])])]
  let year := row [twoDigits, twoDigits]
  let dash := char (· == '-')
  let colon := char (· == ':')
  let point := char (· == '.')
  let grouped := among "0123456789_"
  [("tTfF", anyWord ["true", "True", "TRUE", "false", "False", "FALSE"]),
    ("~nN", anyWord ["~", "null", "Null", "NULL"]),
    ("<=", anyWord ["<<", "="]),
    -- whole numbers in bases two, eight, ten and sixteen
    ("-+0123456789", row [sign, word "0b".toList, plus (among "01_")]),
    ("-+0123456789", row [sign, char (· == '0'), maybe (char (· == 'o')),
      plus (among "01234567_")]),
    ("-+0123456789", row [sign, plus grouped]),
    ("-+0123456789", row [sign, word "0x".toList, plus (among "0123456789abcdefABCDEF_")]),
    -- numbers with a point or an exponent
    ("-+0123456789.", row [sign, digit, star grouped, point, star grouped, maybe exponent]),
    ("-+0123456789.", row [sign, digit, star grouped, exponent]),
    ("-+0123456789.", row [sign, point, plus grouped,
      maybe (row [among "eE", among "-+", plus digit])]),
    ("-+0123456789.", row [sign, point, anyWord ["inf", "Inf", "INF"]]),
    ("-+0123456789.", row [point, anyWord ["nan", "NaN", "NAN"]]),
    -- dates, and dates with a time
    ("0123456789", row [year, dash, twoDigits, dash, twoDigits]),
    ("0123456789", row [year, dash, oneOrTwo, dash, oneOrTwo,
      either (among "Tt") (plus (among " \t")),
      oneOrTwo, colon, twoDigits, colon, twoDigits, maybe fraction, maybe zone])]

end

/-- Whether a plain scalar of this spelling would be read as something other than a
text. -/
def readsAsOther (text : Text) : Bool :=
  otherTypes.any fun (starts, pattern) =>
    -- a pattern is tried only if the first character may begin it
    (match text with
      | [] => false
      | c :: _ => starts.toList.contains c) && pattern.isMatch text

/-! ## Quoted texts -/

/-- A number in capital hexadecimal digits. -/
def hexCapitals (places n : Nat) : Text := (Text.hexDigits places n).map Char.toUpper

/-- A character as it stands between double quotes. -/
def escape (c : Char) : Text :=
  match c with
  | '"' => "\\\"".toList
  | '\\' => "\\\\".toList
  | '\x00' => "\\0".toList
  | '\x07' => "\\a".toList
  | '\x08' => "\\b".toList
  | '\t' => "\\t".toList
  | '\n' => "\\n".toList
  | '\x0b' => "\\v".toList
  | '\x0c' => "\\f".toList
  | '\r' => "\\r".toList
  | '\x1b' => "\\e".toList
  | '\u0085' => "\\N".toList
  | '\u2028' => "\\L".toList
  | '\u2029' => "\\P".toList
  | c => if isShown c then [c] else Text.codeEscape hexCapitals c

/-- A text in double quotes. -/
def doubleQuoted (text : Text) : Text := '"' :: text.flatMap escape ++ ['"']

/-- The indentation of the lines of a scalar that goes over several lines. -/
def scalarIndent : Text := List.replicate 6 ' '

/-- The inside of single quotes. After a run of line ends the next line is indented; the
indentation is no part of the text. -/
def singleBody : Text → Text
  | [] => []
  | c :: rest =>
    -- the run of line ends is over
    if isBreak c && !(rest.head?.any isBreak) then c :: (scalarIndent ++ singleBody rest)
    else c :: singleBody rest

/-- A text in single quotes. -/
def singleQuoted (text : Text) : Text := '\'' :: singleBody text ++ ['\'']

/-- Whether a space stands right before the end of a line or right behind it. Such a space
would be lost in single quotes. -/
def spaceAtBreak : Text → Bool
  | c :: d :: rest =>
    (c == ' ' && isBreak d) || (isBreak c && d == ' ') || spaceAtBreak (d :: rest)
  | _ => false

/-! ## Styles -/

/-- The ways to write a text. -/
inductive ScalarStyle where
  | plain
  | single
  | double
deriving DecidableEq, Repr

/-- The way in which a text is written. -/
def ScalarStyle.of (text : Text) : ScalarStyle :=
  -- the empty text would be no scalar at all
  if text.isEmpty then .single
  else if plainAllowed text && !readsAsOther text then .plain
  else if text.contains '\'' || text.contains '\n' then .double
  -- what single quotes cannot show, or would lose
  else if text.any isSpecial || spaceAtBreak text then .double
  else .single

/-- A text as a scalar. -/
def scalar (text : Text) : Text :=
  match ScalarStyle.of text with
  | .plain => text
  | .single => singleQuoted text
  | .double => doubleQuoted text

end Famix.Yaml
