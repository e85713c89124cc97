/-
Messages with style marks, and what is left of them when they are printed.

A mark is a bracketed word such as `[bold red]` whose first character is a small letter,
`#`, `/` or `@`; it ends at the first closing bracket, and no opening one stands before
that. All other brackets are plain text. Of the backslashes right in front of a mark two
stand for one, and an odd one makes the mark plain text. A backslash in front of any other
opening bracket is dropped.

A mark begins a style; one that begins with a slash ends the style that it names, or the
latest one if it names none. A style whose name begins with `@` asks for an action. Marks
leave no trace in what is printed. Between the marks a name between two colons stands for
its pictograph. The name may end in `-text` or `-emoji`, which asks for the plain or the
coloured form, and one that is not known stays as it is written.

Messages that have a file name put into them may so hold marks that nobody meant, and
ending a style that was never begun is an error.
-/
import Famix.Action.Basic
import Famix.Display.Style
import Famix.Text.Character
import Famix.Text.Emoji
import Famix.Text.Width

set_option autoImplicit false

namespace Famix.Markup

/-! ## Pieces -/

/-- Whether a bracket with this first character can be a mark. -/
def startsMark (c : Char) : Bool :=
  ('a' ≤ c && c ≤ 'z') || c == '#' || c == '/' || c == '@'

/-- The content of a bracket up to the first closing one, if no other opens before. -/
def bracketBody : Text → Option Text
  | [] => none
  | ']' :: _ => some []
  | '[' :: _ => none
  | c :: rest => (bracketBody rest).map (c :: ·)

/-- The content of the mark with which a text begins. -/
def mark? : Text → Option Text
  | '[' :: c :: rest =>
    if startsMark c then (bracketBody rest).map (c :: ·) else none
  | _ => none

/-- A stretch of a message. -/
inductive Piece where
  /-- What stands between two marks. -/
  | plain (text : Text)
  /-- What backslashes in front of a mark have made plain. -/
  | escaped (text : Text)
  /-- A mark, and the place of its opening bracket. -/
  | mark (content : Text) (position : Nat)
deriving DecidableEq, Repr

/-- One more plain character in front of pieces. -/
def Piece.addPlain (c : Char) : List Piece → List Piece
  | .plain text :: pieces => .plain (c :: text) :: pieces
  | pieces => .plain [c] :: pieces

/-- The pieces that begin with a run of backslashes before a mark, and how many
characters they take. -/
def marked? (position : Nat) (text : Text) : Option (List Piece × Nat) :=
  let slashes := (text.takeWhile (· == '\\')).length
  (mark? (text.drop slashes)).map fun content =>
    let lead := List.replicate (slashes / 2) '\\'
    let found :=
      -- of the backslashes two stand for one, and one that is left makes the mark plain text
      if slashes % 2 = 1 then [.escaped (lead ++ '[' :: content ++ [']'])]
      else [.escaped lead, .mark content (position + slashes)]
    (found, slashes + content.length + 2)

/-- The pieces of a message. `covered` counts the characters ahead that belong to pieces
already found. -/
def pieces : (position covered : Nat) → Text → List Piece
  | _, _, [] => []
  | position, covered + 1, _ :: rest => pieces (position + 1) covered rest
  -- the marks are tried at every character, since backslashes in front belong to them
  | position, 0, c :: rest =>
    match marked? position (c :: rest) with
    | some (found, length) => found ++ pieces (position + 1) (length - 1) rest
    | none =>
      -- a backslash in front of a bracket that is no mark is dropped
      if c == '\\' && rest.head? == some '[' then pieces (position + 1) 0 rest
      else Piece.addPlain c (pieces (position + 1) 0 rest)

end Famix.Markup

namespace Famix.Display

/-! ## Pictographs by name -/

/-- The character that asks for the one before it to be shown as plain text. -/
def textSelector : Char := '\ufe0e'

/-- The name before an ending, if a text ends so. -/
def beforeEnding (ending : String) (text : Text) : Option Text :=
  if ending.toList.isSuffixOf text then some (text.take (text.length - ending.length)) else none

/-- A name, and the selector that its ending asks for. -/
def splitVariant (code : Text) : Text × Text :=
  match beforeEnding "-emoji" code, beforeEnding "-text" code with
  -- the two endings cannot both stand at the end
  | some name, _ => (name, [Text.pictographSelector])
  | none, some name => (name, [textSelector])
  | none, none => (code, [])

/-- What stands for a code between colons. -/
def expandCode (code : Text) : Text :=
  let (name, selector) := splitVariant code
  match Text.emoji? (Text.inSmallLetters name) with
  | some emoji => emoji ++ selector
  | none => ':' :: code ++ [':']

/-- Puts the parts between colons together again. A part without blanks between two colons
is a code, and both colons belong to it. -/
def joinCodes : List Text → Text
  | [] => []
  | [part] => part
  | [part, last] => part ++ ':' :: last
  | part :: code :: next :: parts =>
    -- the second colon may begin a code, the first one does not
    if code.any Text.isBlank then part ++ ':' :: joinCodes (code :: next :: parts)
    else part ++ expandCode code ++ joinCodes (next :: parts)

/-- A text with pictographs for their names. -/
def expandCodes (text : Text) : Text := joinCodes (Text.splitOn ':' text)

end Famix.Display

namespace Famix

/-! ## Printing -/

/-- Why a message with marks cannot be printed. -/
inductive MarkupError where
  /-- A mark ends a style that is not in force. -/
  | unmatched (mark : Text) (position : Nat)
  /-- A mark ends the latest style where none is in force. -/
  | nothingToClose (position : Nat)
  /-- A number in the colour of a style cannot be read. -/
  | number (cause : Fault)
  /-- A mark asks for an action in a way that means nothing. -/
  | action (cause : ActionError)
deriving DecidableEq, Repr

/-- A markup error in words. -/
def MarkupError.message : MarkupError → Text
  | unmatched mark position =>
    "closing tag '[".toList ++ mark ++ "]' at position ".toList ++ Text.ofNat position ++
      " doesn't match any open tag".toList
  | nothingToClose position =>
    "closing tag '[/]' at position ".toList ++ Text.ofNat position ++
      " has nothing to close".toList
  | number cause => cause.message
  | action cause => cause.message

namespace Markup

/-- A style that a mark has begun: its name as it is compared, and what stands behind the
equals sign. -/
structure Opened where
  name : Text
  parameters : Option Text
deriving DecidableEq, Repr

/-- The compared form of a style's name. -/
def compared (name : Text) : Except MarkupError Text :=
  match Display.Style.normalForm name with
  | .ok name => .ok name
  | .error cause => .error (.number cause)

/-- What a mark begins. -/
def opened (content : Text) : Except MarkupError Opened := do
  -- what is behind the equals sign is no part of the name
  let name ← compared (content.takeWhile (· != '='))
  .ok ⟨name, (content.dropWhile (· != '=')).tail?⟩

/-- What a mark ends, if it ends a style: the name behind the slash. -/
def closing? (content : Text) : Option Text :=
  match content.takeWhile (· != '=') with
  | '/' :: name => some (Text.strip name)
  | _ => none

/-- Fails if a number in the colours of a style cannot be read. -/
def Opened.check (style : Opened) : Except MarkupError Unit :=
  let written :=
    match style.parameters with
    | some parameters => style.name ++ ' ' :: parameters
    | none => style.name
  match Display.Style.checkNumbers written with
  | .ok () => .ok ()
  | .error cause => .error (.number cause)

/-- Fails if a style that ends asks for an action in a way that means nothing. -/
def Opened.act (style : Opened) : Except MarkupError Unit :=
  match style.name, style.parameters with
  | '@' :: _, some (c :: written) =>
    match Action.check ⟨c :: written⟩ with
    | .ok () => .ok ()
    | .error cause => .error (.action cause)
  | _, _ => .ok ()

/-- The styles that stay in force when the mark at a place ends the one with a name. -/
def close (styles : List Opened) (name content : Text) (position : Nat) :
    Except MarkupError (List Opened) := do
  -- a slash alone ends the latest style
  if name.isEmpty then
    match styles with
    | [] => .error (.nothingToClose position)
    | style :: styles =>
      style.act
      .ok styles
  else
    let name ← compared name
    match styles.find? (·.name == name) with
    | none => .error (.unmatched content position)
    -- of several styles of one name the latest one ends, whatever was begun after it
    | some style =>
      style.act
      .ok (styles.eraseP (·.name == name))

/-- The text of pieces, given the styles in force, the latest first. -/
def plainFrom : (styles : List Opened) → List Piece → Except MarkupError Text
  | _, [] => .ok []
  | styles, .plain text :: pieces => do
    let rest ← plainFrom styles pieces
    .ok (Display.expandCodes text ++ rest)
  | styles, .escaped text :: pieces => do
    let rest ← plainFrom styles pieces
    .ok (Display.expandCodes text ++ rest)
  | styles, .mark content position :: pieces =>
    match closing? content with
    | some name => do
      let styles ← close styles name content position
      plainFrom styles pieces
    | none => do
      -- a style is checked for its colours after everything behind it, as they are looked up last
      let style ← opened content
      let text ← plainFrom (style :: styles) pieces
      style.check
      .ok text

/-- What is left of a message without its marks. -/
def plain (message : Text) : Except MarkupError Text := plainFrom [] (pieces 0 0 message)

end Markup

end Famix
