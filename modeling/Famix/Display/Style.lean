/-
Styles as they are written in marks, and the one form in which they are compared.

A style is a row of words: emphases such as `bold`, each perhaps with `not` before it, a
colour, `on` with a background, and `link` with an address. The last word on a matter
decides. In the compared form every emphasis has its long name, and the parts stand in a
fixed order; what is no style is compared as it is written, in small letters.
-/
import Famix.Display.Color
import Famix.Text.Character

set_option autoImplicit false

namespace Famix.Display

/-- The emphases of a style, in the order of the compared form. -/
inductive Emphasis where
  | bold
  | dim
  | italic
  | underline
  | blink
  | blink2
  | reverse
  | conceal
  | strike
  | underline2
  | frame
  | encircle
  | overline
deriving DecidableEq, Repr

namespace Emphasis

/-- All emphases. -/
def all : List Emphasis :=
  [bold, dim, italic, underline, blink, blink2, reverse, conceal, strike, underline2, frame,
    encircle, overline]

/-- The words for an emphasis, the long name first. -/
def wordsFor : Emphasis → List String
  | bold => ["bold", "b"]
  | dim => ["dim", "d"]
  | italic => ["italic", "i"]
  | underline => ["underline", "u"]
  | blink => ["blink"]
  | blink2 => ["blink2"]
  | reverse => ["reverse", "r"]
  | conceal => ["conceal", "c"]
  | strike => ["strike", "s"]
  | underline2 => ["underline2", "uu"]
  | frame => ["frame"]
  | encircle => ["encircle"]
  | overline => ["overline", "o"]

/-- The emphasis that a word stands for. -/
def ofWord? (word : Text) : Option Emphasis :=
  all.find? fun emphasis => emphasis.wordsFor.any fun name => name.toList == word

/-- The long name. -/
def name (emphasis : Emphasis) : Text := (emphasis.wordsFor.headD "").toList

end Emphasis

/-- A style. -/
structure Style where
  /-- What is said of emphases, the latest first. -/
  emphases : List (Emphasis × Bool) := []
  color : Option Text := none
  background : Option Text := none
  link : Option Text := none

/-- Why words are no style. -/
inductive StyleError where
  | noStyle
  /-- A number in a colour cannot be read. -/
  | number (cause : Fault)
deriving DecidableEq, Repr

namespace Style

/-- A word for a colour, in small letters. -/
def readColor (word : Text) : Except StyleError Text :=
  let small := Text.inSmallLetters word
  match isColor small with
  | .ok true => .ok small
  | .ok false => .error .noStyle
  | .error cause => .error (.number cause)

/-- A style with one more word that stands on its own. -/
def addWord (style : Style) (word : Text) : Except StyleError Style :=
  match Emphasis.ofWord? (Text.inSmallLetters word) with
  | some emphasis => .ok { style with emphases := (emphasis, true) :: style.emphases }
  | none => do
    let color ← readColor word
    .ok { style with color := some color }

/-- The words that need another word behind them. -/
inductive Opener where
  | background
  | negation
  | link

/-- The opener that a word is. -/
def Opener.ofWord? (word : Text) : Option Opener :=
  let small := Text.inSmallLetters word
  if small = "on".toList then some .background
  else if small = "not".toList then some .negation
  else if small = "link".toList then some .link
  else none

/-- A style with one more pair of words. -/
def addPair (style : Style) (opener : Opener) (word : Text) : Except StyleError Style :=
  match opener with
  | .background => do
    let color ← readColor word
    .ok { style with background := some color }
  | .negation =>
    -- in this place an emphasis has to be written in small letters
    match Emphasis.ofWord? word with
    | some emphasis => .ok { style with emphases := (emphasis, false) :: style.emphases }
    | none => .error .noStyle
  | .link => .ok { style with link := some word }

/-- A style with more words. -/
def addWords (style : Style) : List Text → Except StyleError Style
  | [] => .ok style
  -- an opener needs a word behind it
  | [word] =>
    match Opener.ofWord? word with
    | some _ => .error .noStyle
    | none => style.addWord word
  | word :: next :: rest =>
    match Opener.ofWord? word with
    | some opener => do
      let style ← style.addPair opener next
      style.addWords rest
    | none => do
      let style ← style.addWord word
      style.addWords (next :: rest)

/-- The style that a text writes. -/
def ofText (text : Text) : Except StyleError Style :=
  -- the word for no style is one only if it stands alone
  if Text.strip text = "none".toList then .ok {} else addWords {} (Text.fields text)

/-- The parts of the compared form. -/
def parts (style : Style) : List Text :=
  let emphases := Emphasis.all.filterMap fun emphasis =>
    (style.emphases.lookup emphasis).map fun holds =>
      if holds then emphasis.name else "not ".toList ++ emphasis.name
  emphases ++ style.color.toList ++
    (style.background.map fun color => "on ".toList ++ color).toList ++
    (style.link.map fun address => "link ".toList ++ address).toList

/-- The compared form of a style. -/
def title (style : Style) : Text :=
  match style.parts with
  | [] => "none".toList
  | parts => List.intercalate [' '] parts

/-- The compared form of what is written for a style. -/
def normalForm (text : Text) : Except Fault Text :=
  match ofText text with
  | .ok style => .ok style.title
  -- what is no style is a name that the program may know by itself
  | .error .noStyle => .ok (Text.inSmallLetters (Text.strip text))
  | .error (.number cause) => .error cause

/-- Fails if a number in the colours of a style cannot be read. -/
def checkNumbers (text : Text) : Except Fault Unit :=
  match ofText text with
  | .error (.number cause) => .error cause
  | _ => .ok ()

end Style

end Famix.Display
