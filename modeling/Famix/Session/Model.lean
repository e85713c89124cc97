/-
The session that reads models: its engine, with a small model to show what the syntax looks
like, and what it notes in the log. The sample reads as eleven records with nothing left
over.
-/
import Famix.Session.Basic

set_option autoImplicit false

namespace Famix.Grammar

/-! ## The sample -/

/-- The lines of the sample model. -/
def sampleLines : List Text := [
  "((FAMIX.Namespace (id: 1)".toList,
  "    (name 'aNamespace'))".toList,
  "  (FAMIX.Package (id: 201)".toList,
  "    (name 'aPackage'))".toList,
  "  (FAMIX.Package (id: 202)".toList,
  "    (name 'anotherPackage')".toList,
  "    (parentPackage (ref: 201)))".toList,
  "  (FAMIX.Package (id: 203)".toList,
  "    (name 'anotherPackage')".toList,
  "    (parentPackage (ref: 201)))".toList,
  "  (FAMIX.Class (id: 2)".toList,
  "    (name 'ClassA')".toList,
  "    (container (ref: 1))".toList,
  "    (parentPackage (ref: 201)))".toList,
  "  (FAMIX.Method".toList,
  "    (name 'methodA1')".toList,
  "    (signature 'methodA1()')".toList,
  "    (parentType (ref: 2))".toList,
  "    (LOC 2))".toList,
  "  (FAMIX.Method".toList,
  "    (name 'methodA2')".toList,
  "    (signature 'methodA2()')".toList,
  "    (parentType (ref: 3))".toList,
  "    (LOC 3))".toList,
  "  (FAMIX.Method".toList,
  "    (name 'methodA3')".toList,
  "    (signature 'methodA3()')".toList,
  "    (parentType (ref: 4))".toList,
  "    (LOC 4))".toList,
  "  (FAMIX.Attribute".toList,
  "    (name 'attributeA1')".toList,
  "    (parentType (ref: 2)))".toList,
  "  (FAMIX.Class (id: 3)".toList,
  "    (name 'ClassB')".toList,
  "    (container (ref: 1))".toList,
  "    (parentPackage (ref: 202)))".toList,
  "  (FAMIX.Inheritance".toList,
  "    (subclass (ref: 3))".toList,
  "    (superclass (ref: 2))))".toList]

/-- The sample model. -/
def sampleText : Text := List.intercalate ['\n'] sampleLines

end Famix.Grammar

namespace Famix

/-! ## The engine and its log -/

/-- The engine that reads models. -/
def modelEngine : Engine Entity := ⟨Grammar.model, Grammar.sampleText⟩

/-- How important a log line is. -/
inductive LogLevel where
  | debug
  | info
deriving DecidableEq, Repr

/-- A line of the log. -/
structure LogLine where
  level : LogLevel
  /-- The part of the program that speaks. -/
  speaker : Text
  message : Text
deriving DecidableEq, Repr

namespace LogLine

/-- A log line as it is written. -/
def render (line : LogLine) : Text :=
  (match line.level with
    | .debug => "DEBUG ".toList
    | .info => "INFO ".toList) ++ line.speaker ++ ": ".toList ++ line.message ++ ['\n']

/-- A line of the reader. -/
def ofReader (level : LogLevel) (message : Text) : LogLine :=
  ⟨level, "famixparse.engine".toList, message⟩

/-- What the log says about reading a text. -/
def ofReading {α : Type} (text : Text) (reading : Reading α) : LogLine :=
  ofReader .debug <|
    if reading.matched then
      "Matched ".toList ++ Text.ofNat reading.items.length ++ " entities, ".toList ++
        Text.ofNat reading.remainder.length ++ " chars left".toList
    else
      "No match over ".toList ++ Text.ofNat text.length ++
        " chars; buffer kept for more input".toList

/-- What the log says about a line fed to a session, which is given as it is afterwards. A
text that did not match is still its buffer. -/
def ofFed {α : Type} (session : Session α) (fed : Fed α) : List LogLine :=
  match fed.command with
  | some .quit | some .help => []
  | some .reset => [ofReader .info "Session reset".toList]
  | some .sample | none =>
    ofReading session.buffer fed.reading ::
      if fed.roundComplete then
        [ofReader .info <|
          "Round ".toList ++ Text.ofNat session.rounds ++ " complete: ".toList ++
            Text.ofNat fed.reading.items.length ++ " entities".toList]
      else []

end LogLine

end Famix
