/-
The parser type, the parsers that look at the characters themselves, and the ways in which
parsers are put together.

A parser looks at a source text from an offset on and replies with a verdict and the
offset at which it left off. An offset is a place of the source, and only a parser that
leaps backwards can reach a negative one. There are three verdicts: it accepts with a
value, it rejects, or it meets a fault that no surrounding parser may recover from. The
reply carries an offset in all three cases, so that a parser which moves and then rejects can
be described as well as one that cleans up after itself.

Sequencing is where cleaning up happens: if a later step rejects, the whole sequence
rejects at the offset it started from (`run_bind_reject`). A fault keeps the offset at
which it arose.

Four parsers look at the characters: a fixed text, a run of characters of a class, everything
up to a delimiter, and a number. Beyond the end of the source nothing matches, not even the
empty text; only a run of characters may still be empty there. Before the beginning there is
no character to look at, which is a fault.

An optional part, a choice of alternatives and a repetition try something and take it back.
Repetition commits to each element as soon as it is accepted. A separator that no element
follows is given back, and a round in which neither element nor separator moved is the last
one, so repeating a parser of empty matches ends as well.

Repetition is the one construct that may go on for ever, and only with steps that move
backwards or beyond the end of the source. A run is therefore given an allowance of
rounds for each repetition, and using it up is the fault `Fault.endless`. "The parser
stops" then means: some allowance yields a reply other than that fault.
-/
import Famix.Fault
import Famix.Text.Basic

set_option autoImplicit false

namespace Famix

/-- What a parser makes of the text before it. -/
inductive Verdict (α : Type) where
  | accept (value : α)
  | reject
  | fault (cause : Fault)
deriving Repr

/-- A verdict together with the offset at which the parser left off. -/
structure Reply (α : Type) where
  verdict : Verdict α
  offset : Int
deriving Repr

namespace Reply

variable {α : Type}

/-- A rejection is moved back to `start`; acceptances and faults stay where they are. -/
def rollback (reply : Reply α) (start : Int) : Reply α :=
  match reply.verdict with
  | .reject => ⟨.reject, start⟩
  | _ => reply

@[simp] theorem rollback_accept (value : α) (offset start : Int) :
    rollback ⟨.accept value, offset⟩ start = ⟨.accept value, offset⟩ := rfl

@[simp] theorem rollback_reject (offset start : Int) :
    rollback (α := α) ⟨.reject, offset⟩ start = ⟨.reject, start⟩ := rfl

@[simp] theorem rollback_fault (cause : Fault) (offset start : Int) :
    rollback (α := α) ⟨.fault cause, offset⟩ start = ⟨.fault cause, offset⟩ := rfl

end Reply

/-- A parser: from the allowance of rounds for each repetition, the source text and an
offset into it to a reply. -/
@[ext] structure Parser (α : Type) where
  run : (rounds : Nat) → (source : Text) → (offset : Int) → Reply α

namespace Parser

variable {α β : Type}

/-! ## Sequencing -/

/-- Stops at once with a fault. -/
def stop (cause : Fault) : Parser α := ⟨fun _ _ offset => ⟨.fault cause, offset⟩⟩

/-- Accepts without reading anything. -/
protected def pure (value : α) : Parser α := ⟨fun _ _ offset => ⟨.accept value, offset⟩⟩

/-- One parser after another. Whichever of the two rejects, the sequence rejects at the
offset where it started. -/
protected def bind (first : Parser α) (next : α → Parser β) : Parser β :=
  ⟨fun rounds source offset =>
    match first.run rounds source offset with
    | ⟨.accept value, reached⟩ => ((next value).run rounds source reached).rollback offset
    | ⟨.reject, _⟩ => ⟨.reject, offset⟩
    | ⟨.fault cause, reached⟩ => ⟨.fault cause, reached⟩⟩

instance : Monad Parser where
  pure := Parser.pure
  bind := Parser.bind

/-- Several parsers in a row, with the list of their values. -/
def sequence : List (Parser α) → Parser (List α)
  | [] => pure []
  | part :: parts => do
    let value ← part
    let values ← sequence parts
    pure (value :: values)

/-- Treats the value of an accepting parser further. The reading position stays where
the parser left it, whatever becomes of the value. -/
def transform (parser : Parser α) (treat : α → Verdict β) : Parser β :=
  ⟨fun rounds source offset =>
    match parser.run rounds source offset with
    | ⟨.accept value, reached⟩ => ⟨treat value, reached⟩
    | ⟨.reject, reached⟩ => ⟨.reject, reached⟩
    | ⟨.fault cause, reached⟩ => ⟨.fault cause, reached⟩⟩

/-! ## Running in sequence -/

section

variable (rounds : Nat) (source : Text) (offset : Int)

@[simp] theorem run_pure (value : α) :
    (pure value : Parser α).run rounds source offset = ⟨.accept value, offset⟩ := rfl

/-- After an acceptance the next parser goes on from the offset reached. -/
theorem run_bind_accept {first : Parser α} {next : α → Parser β} {value : α} {reached : Int}
    (h : first.run rounds source offset = ⟨.accept value, reached⟩) :
    (first >>= next).run rounds source offset =
      ((next value).run rounds source reached).rollback offset := by
  show (Parser.bind first next).run rounds source offset = _
  simp only [Parser.bind, h]

/-- A rejecting first parser leaves the sequence where it started. -/
theorem run_bind_reject {first : Parser α} {next : α → Parser β} {reached : Int}
    (h : first.run rounds source offset = ⟨.reject, reached⟩) :
    (first >>= next).run rounds source offset = ⟨.reject, offset⟩ := by
  show (Parser.bind first next).run rounds source offset = _
  simp only [Parser.bind, h]

/-- A fault of the first parser is the fault of the sequence, at the same place. -/
theorem run_bind_fault {first : Parser α} {next : α → Parser β} {cause : Fault} {reached : Int}
    (h : first.run rounds source offset = ⟨.fault cause, reached⟩) :
    (first >>= next).run rounds source offset = ⟨.fault cause, reached⟩ := by
  show (Parser.bind first next).run rounds source offset = _
  simp only [Parser.bind, h]

end

/-! ## Looking at characters -/

/-- Exactly the given text. -/
def literal (text : Text) : Parser Text :=
  ⟨fun _ source offset =>
    match Text.unread source offset with
    | some ahead =>
      if text.isPrefixOf ahead then ⟨.accept text, offset + text.length⟩
      else ⟨.reject, offset⟩
    -- beyond the end not even the empty text is there
    | none => ⟨.reject, offset⟩⟩

/-- The longest run of characters of a class, which may be empty. It never rejects. The
value is the piece of the source between its two ends. -/
def takeWhile (belongs : Char → Bool) : Parser Text :=
  ⟨fun _ source offset =>
    match Text.onward source offset with
    | some ahead =>
      -- from an offset that counts from the end the run may go on at the beginning, so the value is
      -- taken between the two offsets and not from the characters met
      let reached := offset + (ahead.takeWhile belongs).length
      ⟨.accept (Text.slice source offset reached), reached⟩
    | none => ⟨.fault (.indexOutside .text), offset⟩⟩

/-- Everything up to and including the first occurrence of a delimiter. -/
def through (delimiter : Text) : Parser Text :=
  ⟨fun _ source offset =>
    match (Text.unread source offset).bind (Text.upThrough delimiter) with
    -- the delimiter is found by its place in the source, so a negative offset is left behind
    | some piece => ⟨.accept piece, Text.position source offset + piece.length⟩
    | none => ⟨.reject, offset⟩⟩

/-- The longest run of decimal digits as a number. No digit is a mismatch; more than
`maxDigits` of them, leading zeros included, are a fault at the place of the first. -/
def number : Parser Nat :=
  ⟨fun _ source offset =>
    match Text.onward source offset with
    | some ahead =>
      let run := ahead.takeWhile Char.isDigit
      let reached := offset + run.length
      let numeral := Text.slice source offset reached
      -- digits were met, but the piece between the two offsets may be empty all the same
      if run.isEmpty then ⟨.reject, offset⟩
      else if maxDigits < numeral.length then ⟨.fault (.tooManyDigits numeral.length), offset⟩
      else if numeral.isEmpty then ⟨.fault .noDigits, offset⟩
      else ⟨.accept (Text.decimalValue numeral), reached⟩
    | none => ⟨.fault (.indexOutside .text), offset⟩⟩

/-- Exactly the given text, of which only the presence matters. -/
def token (text : Text) : Parser Unit := do
  let _ ← literal text

/-! ## Trying and taking back -/

/-- The value of the parser, or nothing if it rejects; then nothing has been read. -/
def optional (parser : Parser α) : Parser (Option α) :=
  ⟨fun rounds source offset =>
    match parser.run rounds source offset with
    | ⟨.accept value, reached⟩ => ⟨.accept (some value), reached⟩
    | ⟨.reject, _⟩ => ⟨.accept none, offset⟩
    | ⟨.fault cause, reached⟩ => ⟨.fault cause, reached⟩⟩

/-- The first alternative that does not reject, each tried from the same offset. Without
alternatives it rejects. -/
def oneOf : List (Parser α) → Parser α
  | [] => ⟨fun _ _ offset => ⟨.reject, offset⟩⟩
  | alternative :: others =>
    ⟨fun rounds source offset =>
      match alternative.run rounds source offset with
      -- wherever the alternative has left off
      | ⟨.reject, _⟩ => (oneOf others).run rounds source offset
      | reply => reply⟩

/-- The rounds of a repetition. `committed` is the end of the last accepted element,
`head` the place where the next one is looked for, and `found` holds the values so far,
the latest first. -/
def manyFrom (element : Parser α) (separator : Parser β) (rounds : Nat) (source : Text) :
    (left : Nat) → (committed head : Int) → (found : List α) → Reply (List α)
  -- no rounds are left, though the repetition has not come to an end
  | 0, _, head, _ => ⟨.fault .endless, head⟩
  | left + 1, committed, head, found =>
    match element.run rounds source head with
    | ⟨.reject, _⟩ => ⟨.accept found.reverse, committed⟩
    | ⟨.fault cause, reached⟩ => ⟨.fault cause, reached⟩
    | ⟨.accept value, reached⟩ =>
      match separator.run rounds source reached with
      -- the separator is given back
      | ⟨.reject, _⟩ => ⟨.accept (value :: found).reverse, reached⟩
      | ⟨.fault cause, stop⟩ => ⟨.fault cause, stop⟩
      | ⟨.accept _, after⟩ =>
        -- neither element nor separator has moved: another round would be the same
        if after = head then ⟨.accept (value :: found).reverse, reached⟩
        else manyFrom element separator rounds source left reached after (value :: found)

/-- Zero or more elements with a separator between them. It never rejects. -/
def many (element : Parser α) (separator : Parser β) : Parser (List α) :=
  ⟨fun rounds source offset =>
    manyFrom element separator rounds source rounds offset offset []⟩

/-! ## Whole texts -/

/-- Rounds enough for every repetition that ends, as long as no step moves backwards: the
places where a round starts grow, and beyond the end of the source all places are alike. -/
def allowance (source : Text) (offset : Int) : Nat := source.length + offset.natAbs + 2

/-- The parser with another allowance, which depends on the one given. -/
def granting (grant : Nat → Nat) (parser : Parser α) : Parser α :=
  ⟨fun rounds source offset => parser.run (grant rounds) source offset⟩

/-- The reply of a parser at an offset of a source. -/
def replyAt (parser : Parser α) (source : Text) (offset : Int) : Reply α :=
  parser.run (allowance source offset) source offset

end Parser

end Famix
