/-
The whole program: from the arguments, the input and the file system to what is shown,
what goes to the two standard outputs, how it ends, and the file system afterwards.
-/
import Famix.CommandLine.Dialogue
import Famix.CommandLine.FileRun

set_option autoImplicit false

namespace Famix.CommandLine

/-- What a run of the program is given. -/
structure Surroundings where
  arguments : List Text
  /-- The lines of the input. -/
  input : List Text := []
  inputEnd : InputEnd := .endOfFile
  files : FileSystem := {}

/-- What a run of the program leaves behind. -/
structure Outcome where
  /-- What the terminal shows. -/
  shown : Text := []
  /-- What goes to the standard output past the terminal: help and version. -/
  told : Text := []
  /-- What goes to the error output: refusals and the log. -/
  complaints : Text := []
  ending : Ending
  files : FileSystem

/-- The lines of an input text. The last line need not end in a newline. -/
def inputLines (text : Text) : List Text :=
  let pieces := Text.lines text
  if pieces.getLast? = some [] then pieces.dropLast else pieces

/-- The first line of the log. -/
def commandLog (request : Request) : LogLine :=
  ⟨.debug, "famixparse.cli".toList, "Command: ".toList ++
    match request with
    | .interactive _ => "repl".toList
    | .file _ => "parse".toList⟩

/-- The log as it is written, if it is wanted. -/
def writtenLog (verbose : Bool) (log : List LogLine) : Text :=
  if verbose then log.flatMap LogLine.render else []

/-- Does what an invocation asks for. -/
def Invocation.run (invocation : Invocation) (given : Surroundings) : Outcome :=
  let start := commandLog invocation.request
  match invocation.request with
  | .interactive policy =>
    let transcript := Dialogue.run policy given.inputEnd given.input
    { shown := transcript.shown
      complaints := writtenLog invocation.verbose (start :: transcript.log)
      ending := transcript.ending
      files := given.files }
  | .file request =>
    let run := request.run given.files
    { shown := run.shown
      complaints := writtenLog invocation.verbose (start :: run.log)
      ending := run.ending
      files := run.files }

/-- A run of the program. -/
def runProgram (given : Surroundings) : Outcome :=
  match readInvocation given.arguments with
  | .ok invocation => invocation.run given
  | .error (.tell text) => { told := text, ending := .exit 0, files := given.files }
  | .error (.refuse text) => { complaints := text, ending := .exit 2, files := given.files }

/-- A run from the shell, where an interrupt ends the program with a notice. -/
def runFromShell (given : Surroundings) : Outcome :=
  let outcome := runProgram given
  match outcome.ending with
  | .escape .interrupt =>
    { outcome with
      shown := outcome.shown ++ "\nTerminated by user.\n".toList
      ending := .exit 1 }
  | _ => outcome

end Famix.CommandLine
