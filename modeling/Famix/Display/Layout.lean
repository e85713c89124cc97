/-
Lines on a terminal: which characters are printed at all, what tabulators stand for, how a
line is filled up with blanks to a given number of columns, and how a text is broken into
lines of a number of columns.

Every line of a text is broken between words where it would get too long. A word that is
too long for any line is either chopped or, where nothing may be chopped, cut off behind an
ellipsis. How many columns a text would like to have is measured before its tabulators are
expanded, and some separators that do not end a line on the terminal end it for the
measure; so even a text that is given the columns that it asks for may be broken.
-/
import Famix.Text.Character
import Famix.Text.Width

set_option autoImplicit false

namespace Famix.Display

/-! ## Lines -/

/-- The width of the terminal in columns. -/
def terminalWidth : Nat := 200

/-- Controls that would move the cursor or ring; they are left out of every output. -/
def isDropped (c : Char) : Bool :=
  c == '\x07' || c == '\x08' || c == '\x0b' || c == '\x0c' || c == '\r'

/-- A text without the controls that are left out. -/
def visible (text : Text) : Text := text.filter fun c => !isDropped c

/-- Blanks. -/
def blanks (count : Nat) : Text := List.replicate count ' '

/-- The parts of a line between its tabulators, put together again. A tabulator becomes a
blank and as many more as lead to the next multiple of eight columns. `column` is the
column at which the first part begins. -/
def joinParts (column : Nat) : List Text → Text
  | [] => []
  | [part] => part
  | part :: parts =>
    let reached := column + Text.width (part ++ [' '])
    -- a tabulator is one column wide at least
    let spare := (8 - reached % 8) % 8
    part ++ blanks (spare + 1) ++ joinParts (reached + spare) parts

/-- A line with blanks for its tabulators. -/
def expandTabs (line : Text) : Text := joinParts 0 (Text.splitOn '\t' line)

/-- A line filled up on the right. -/
def padRight (columns : Nat) (line : Text) : Text := line ++ blanks (columns - Text.width line)

/-- A line filled up on the left. -/
def padLeft (columns : Nat) (line : Text) : Text := blanks (columns - Text.width line) ++ line

/-- A line in the middle of the columns; an odd blank goes to the right. -/
def centred (columns : Nat) (line : Text) : Text :=
  let spare := columns - Text.width line
  blanks (spare / 2) ++ line ++ blanks (spare - spare / 2)

/-- The columns of the widest of several lines. -/
def widest (lines : List Text) : Nat := (lines.map Text.width).foldl max 0

/-! ## Breaking lines -/

/-- What becomes of a word that is too long for a line. -/
inductive Overflow where
  | chop
  | ellipsis
deriving DecidableEq, Repr

/-- The pieces of a word that begin lines of their own. -/
def piecesOf (overflow : Overflow) (columns : Nat) (word : Text) : List Text :=
  if overflow = .chop ∧ columns < Text.width (Text.stripEnd word) then Text.chop columns word
  else [word]

/-- Puts words on lines. `line` is the line begun, `taken` the columns that it takes.
Blanks behind a word may stand out over the end of a line. -/
def placeWords (overflow : Overflow) (columns : Nat) :
    (line : Text) → (taken : Nat) → List Text → List Text
  | line, _, [] => [line]
  | line, taken, word :: words =>
    -- blanks at the end of a word do not count, as they may be cut off
    if taken + Text.width (Text.stripEnd word) ≤ columns then
      placeWords overflow columns (line ++ word) (taken + Text.width word) words
    else
      -- the word begins a line; of its pieces only the last one may be followed by another word
      let pieces := piecesOf overflow columns word
      let last := pieces.getLastD []
      (if line.isEmpty then [] else [line]) ++ pieces.dropLast ++
        placeWords overflow columns last (Text.width last) words

/-- A line in pieces that may stand out over the columns by blanks or by a long word. -/
def breakLine (overflow : Overflow) (columns : Nat) (line : Text) : List Text :=
  match Text.words line with
  | [] => [line]
  | words => placeWords overflow columns [] 0 words

/-- A line without as many of the blanks at its end as it has characters too many. -/
def trimExcess (columns : Nat) (line : Text) : Text :=
  let blankEnd := line.length - (Text.stripEnd line).length
  -- only blanks are taken, and no more than are needed
  line.take (line.length - min blankEnd (line.length - columns))

/-- A line that takes no more than the columns. -/
def cutOff (overflow : Overflow) (columns : Nat) (line : Text) : Text :=
  if Text.width line ≤ columns then line
  else
    match overflow with
    | .chop => Text.crop columns line
    -- one column is left for the ellipsis
    | .ellipsis => Text.crop (columns - 1) line ++ ['…']

/-- The lines that a text takes in a number of columns. -/
def wrap (overflow : Overflow) (columns : Nat) (text : Text) : List Text :=
  -- controls go first, so that they take no columns, and tabulators are expanded line by line
  (Text.lines (visible text)).flatMap fun line =>
    (breakLine overflow columns (expandTabs line)).map fun piece =>
      cutOff overflow columns (trimExcess columns piece)

/-! ## Measuring -/

/-- The characters that end a line when a text is measured. -/
def endsMeasure (c : Char) : Bool :=
  c == '\n' || c == '\x1c' || c == '\x1d' || c == '\x1e' || c == '\u0085' ||
    c == '\u2028' || c == '\u2029'

/-- The columns that a text would like to have. -/
def measure (text : Text) : Nat :=
  widest (Text.splitOn '\n' ((visible text).map fun c => if endsMeasure c then '\n' else c))

/-! ## Printing -/

/-- A text printed: each of its lines with a newline. -/
def print (text : Text) : Text := (wrap .chop terminalWidth text).flatMap (· ++ ['\n'])

end Famix.Display
