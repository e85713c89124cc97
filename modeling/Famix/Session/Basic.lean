/-
A reading session: lines are fed one by one, ordinary lines pile up in a buffer, and
after each of them the whole buffer is read. As soon as it yields a record, a round is
complete: the records are handed over and the buffer starts afresh.

Feeding returns the session afterwards in every case. If reading meets a fault, the line
has been counted and stays in the buffer.

A line can be a command instead of a piece of a model. It is one if, without the blanks
around it and without regard to case, it is the command's word. Case is disregarded for the
ASCII letters only, and that is enough: the one character outside ASCII whose small form is
a letter of ASCII by itself is the Kelvin sign, and no command has a `k`.
-/
import Famix.Grammar.Model
import Famix.Text.Character

set_option autoImplicit false

namespace Famix

/-! ## Commands -/

/-- The commands of a reading session. -/
inductive Command where
  | quit
  | sample
  | reset
  | help
deriving DecidableEq, Repr

namespace Command

/-- The word of a command. -/
def word : Command → Text
  | quit => ":q".toList
  | sample => "example".toList
  | reset => "reset".toList
  | help => "help".toList

/-- All commands. -/
def all : List Command := [quit, sample, reset, help]

/-- The command that a line is, if it is one. -/
def ofLine? (line : Text) : Option Command :=
  all.find? fun command => command.word == Text.lower (Text.strip line)

end Command

/-! ## Sessions -/

/-- What reads the buffer, and the text that the sample command puts into it. -/
structure Engine (α : Type) where
  parser : Parser (List α)
  sampleText : Text

/-- The state of a session. -/
structure Session (α : Type) where
  /-- The text typed since the last complete round. -/
  buffer : Text := []
  /-- The items of the last complete round. -/
  items : List α := []
  /-- How many rounds have been completed. -/
  rounds : Nat := 0
  /-- How many lines have been fed, commands included. -/
  linesRead : Nat := 0

namespace Session

variable {α : Type}

/-- Adds a line and its newline to the buffer. -/
def appendLine (session : Session α) (line : Text) : Session α :=
  { session with buffer := session.buffer ++ line ++ ['\n'] }

/-- Forgets buffer and items. -/
def clear (session : Session α) : Session α := { session with buffer := [], items := [] }

end Session

/-- What became of one line. -/
structure Fed (α : Type) where
  command : Option Command := none
  reading : Reading α := {}
  roundComplete : Bool := false

namespace Engine

variable {α : Type}

/-- Reads the buffer and completes a round if it yields something. -/
def attempt (engine : Engine α) (command : Option Command) (session : Session α) :
    Session α × Except Fault (Fed α) :=
  match engine.parser.read session.buffer with
  | .error cause => (session, .error cause)
  | .ok reading =>
    -- a match without records completes no round either, and stays in the buffer
    if reading.items.isEmpty then (session, .ok ⟨command, reading, false⟩)
    else
      ({ session with
          buffer := []
          items := reading.items
          rounds := session.rounds + 1 },
        .ok ⟨command, reading, true⟩)

/-- Feeds one line to a session. -/
def feed (engine : Engine α) (before : Session α) (line : Text) :
    Session α × Except Fault (Fed α) :=
  -- commands count as lines too, and so do lines that meet a fault
  let session := { before with linesRead := before.linesRead + 1 }
  match Command.ofLine? line with
  | some .quit => (session, .ok ⟨some .quit, {}, false⟩)
  | some .help => (session, .ok ⟨some .help, {}, false⟩)
  | some .reset => (session.clear, .ok ⟨some .reset, {}, false⟩)
  -- the sample takes the place of what was typed before
  | some .sample => engine.attempt (some .sample) { session with buffer := engine.sampleText }
  | none => engine.attempt none (session.appendLine line)

/-- A line that was fed, with its outcome. -/
structure Call (α : Type) where
  line : Text
  outcome : Except Fault (Fed α)

end Engine

end Famix
