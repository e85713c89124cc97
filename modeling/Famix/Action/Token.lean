/-
The tokens of an expression: words, numerals, quotations and symbols. Brackets must match
already here; every token knows how many brackets are open behind it.

The end of the text is a token too. If a bracket is still open there, nobody may look at
it, and nobody may look behind a stray backslash.
-/
import Famix.Action.Numeral
import Famix.Action.Quotation
import Famix.Text.Quoted

set_option autoImplicit false

namespace Famix.Action

/-- What a token is. -/
inductive Lexeme where
  | name (word : Text)
  | keyword (word : Text)
  | numeral (numeral : Text)
  | quotation (quotation : Quotation)
  | symbol (text : Text)
  | lineEnd
  | finish
  /-- Looking here is a mistake. -/
  | blocked (mistake : Mistake)
deriving DecidableEq, Repr

/-- A token, and the count of brackets that are open behind it. -/
structure Token where
  lexeme : Lexeme
  depth : Nat
deriving DecidableEq, Repr

namespace Token

/-- The words that are no names. -/
def keywords : List String :=
  ["False", "None", "True", "and", "as", "assert", "async", "await", "break", "class",
    "continue", "def", "del", "elif", "else", "except", "finally", "for", "from", "global", "if",
    "import", "in", "is", "lambda", "nonlocal", "not", "or", "pass", "raise", "return", "try",
    "while", "with", "yield"]

/-- The symbols of more than one character, longer ones first. -/
def longSymbols : List String :=
  ["**=", "//=", ">>=", "<<=", "...", "!=", "%=", "&=", "**", "*=", "+=", "-=", "->", "//", "/=",
    ":=", "<<", "<=", "<>", "==", ">=", ">>", "@=", "^=", "|="]

/-- The symbol with which a text that is not empty begins. -/
def symbolAhead (ahead : Text) : Text :=
  match longSymbols.find? fun symbol => symbol.toList.isPrefixOf ahead with
  | some symbol => symbol.toList
  | none => ahead.take 1

/-- An open bracket, and its line. -/
structure Bracket where
  opening : Char
  line : Nat
deriving DecidableEq, Repr

/-- The most brackets that may be open at a time. -/
def deepest : Nat := 200

/-- The bracket that a closing one closes. -/
def openingOf : Char → Option Char
  | ')' => some '('
  | '}' => some '{'
  | _ => none

/-- The brackets that are open behind a symbol, the latest first. -/
def behindSymbol (brackets : List Bracket) (line : Nat) : Text → Except Mistake (List Bracket)
  | [c] =>
    if c == '(' || c == '{' then
      if deepest ≤ brackets.length then .error .tooDeep else .ok (⟨c, line⟩ :: brackets)
    else
      match openingOf c, brackets with
      | none, _ => if Text.isPrintable c then .ok brackets else .error (.invisibleCharacter c)
      | some _, [] => .error (.unopened c)
      | some opening, bracket :: brackets =>
        if bracket.opening = opening then .ok brackets
        else
          .error (.mismatched c bracket.opening
            (if bracket.line = line then none else some bracket.line))
  | _ => .ok brackets

/-- The first character of a word that cannot stand where it stands. -/
def misplaced? : Text → Option Char
  | [] => none
  | c :: rest =>
    if !Text.beginsName c then some c else rest.find? fun c => !Text.isNameCharacter c

/-- The token that a word is. -/
def ofWord (word : Text) : Except Mistake Lexeme :=
  match misplaced? word with
  | some c => .error (if Text.isPrintable c then .strangeCharacter c else .invisibleCharacter c)
  | none =>
    .ok (if keywords.any fun keyword => keyword.toList == word then .keyword word else .name word)

/-- Whether a character begins a word. Characters beyond ASCII are taken for letters
here. -/
def beginsWord (c : Char) : Bool := c.isAlpha || c == '_' || 127 < c.toNat

/-- The lexeme with which a text begins, and what lies behind it. -/
def lexemeAhead (line : Nat) (ahead : Text) : Except Mistake (Lexeme × Text) :=
  match ahead with
  | [] => .ok (.finish, [])
  | c :: next =>
    match Quotation.opening? ahead with
    | some (letters, ahead) => do
      let (quotation, ahead) ← Quotation.read letters line ahead
      .ok (.quotation quotation, ahead)
    | none =>
      if beginsWord c then do
        let word := ahead.takeWhile Numeral.goesOn
        let lexeme ← ofWord word
        .ok (lexeme, ahead.drop word.length)
      else if c.isDigit || (c == '.' && Numeral.digitAhead next) then do
        let behind ← Numeral.behind ahead
        .ok (.numeral (ahead.take (ahead.length - behind.length)), behind)
      else
        let symbol := symbolAhead ahead
        .ok (.symbol symbol, ahead.drop symbol.length)

/-- What happens at the end of a text, given the brackets that are open there. -/
def atEnd (closed : Lexeme) : List Bracket → Lexeme
  | [] => closed
  | bracket :: _ => .blocked (.unclosed bracket.opening)

/-- The tokens of a text. Every round takes at least one character, so as many rounds as
there are characters, and one for the end, are enough. -/
def readFrom (rounds line : Nat) (brackets : List Bracket) (ahead : Text) :
    Except Mistake (List Token) :=
  match rounds, ahead with
  | 0, _ | _, [] => .ok [⟨atEnd .finish brackets, brackets.length⟩]
  | rounds + 1, c :: next =>
    if c == ' ' || c == '\t' || c == '\x0c' then readFrom rounds line brackets next
    else if c == '#' then readFrom rounds line brackets (next.dropWhile (· != '\n'))
    else if c == '\n' then do
      let tokens ← readFrom rounds (line + 1) brackets next
      .ok (if brackets.isEmpty then ⟨.lineEnd, 0⟩ :: tokens else tokens)
    else if c == '\\' then
      match next with
      | ['\n'] => .ok [⟨atEnd (.blocked .unexpectedEnd) brackets, brackets.length⟩]
      | '\n' :: next => readFrom rounds (line + 1) brackets next
      | _ => .ok [⟨.blocked .strayBackslash, brackets.length⟩]
    else do
      let (lexeme, behind) ← lexemeAhead line ahead
      let brackets ←
        match lexeme with
        | .symbol symbol => behindSymbol brackets line symbol
        | _ => .ok brackets
      let read := ahead.take (ahead.length - behind.length)
      let tokens ← readFrom rounds (line + read.count '\n') brackets behind
      .ok (⟨lexeme, brackets.length⟩ :: tokens)

/-- The tokens of a text. -/
def read (text : Text) : Except Mistake (List Token) := readFrom (text.length + 1) 1 [] text

end Token

end Famix.Action
