/-
What the program takes, and how a run of it ends.

It has three interfaces: its own, and those of its two commands. Without a command it reads
interactively. A run ends with an exit code, or by something that the program does not
handle and that leaves it.
-/
import Famix.CommandLine.Arguments
import Famix.Display.Markup
import Famix.File.Export

set_option autoImplicit false

namespace Famix.CommandLine

/-! ## Interfaces -/

/-- When the interactive reader draws the chart of a round. -/
inductive ChartPolicy where
  | never
  | always
  /-- If the user wants it. -/
  | ask
deriving DecidableEq, Repr

/-- What is to be done with one file. -/
structure FileRequest where
  path : Text
  /-- Where to write the snapshot; an empty text stands for none. -/
  exportTo : Text := []
  chart : Bool := false
  strict : Bool := false
deriving DecidableEq, Repr

/-- What the program is asked to do. -/
inductive Request where
  | interactive (policy : ChartPolicy)
  | file (request : FileRequest)
deriving DecidableEq, Repr

/-- A request, and whether the log is wanted. -/
structure Invocation where
  verbose : Bool
  request : Request
deriving DecidableEq, Repr

/-- Several lines, each with a newline. -/
def textOfLines (lines : List String) : Text := lines.flatMap fun line => line.toList ++ ['\n']

/-! ## The options -/

/-- The options of the program itself. -/
inductive MainSetting where
  | verbose
deriving DecidableEq, Repr

/-- The options of the interactive reader. -/
inductive InteractiveSetting where
  | noChart
  | yes
deriving DecidableEq, Repr

/-- The options of the file command. -/
inductive FileSetting where
  | exportTo (path : Text)
  | chart
  | strict
deriving DecidableEq, Repr

/-- The option that shows the help, which every interface has. -/
def helpOption {α : Type} : OptionSpec α := ⟨["-h".toList, "--help".toList], .showHelp⟩

/-- The interface of the program itself. -/
def mainInterface : Interface MainSetting where
  program := "famixparse".toList
  usage := textOfLines ["usage: famixparse [-h] [--version] [-v] Command ..."]
  description := textOfLines [
    "",
    "FamixParse - Incremental FAMIX model reader",
    "",
    "positional arguments:",
    "  Command",
    "    repl         Read FAMIX text line by line",
    "    parse        Parse a FAMIX file",
    "",
    "options:",
    "  -h, --help     show this help message and exit",
    "  --version      show program's version number and exit",
    "  -v, --verbose  Enable debug logging"]
  options := [
    helpOption,
    ⟨["--version".toList], .showVersion⟩,
    ⟨["-v".toList, "--verbose".toList], .set .verbose⟩]
  operands := .rest
  version := textOfLines ["famixparse v0.1.0"]

/-- The interface of the interactive reader. -/
def interactiveInterface : Interface InteractiveSetting where
  program := "famixparse repl".toList
  usage := textOfLines ["usage: famixparse repl [-h] [--no-chart] [-y]"]
  description := textOfLines [
    "",
    "options:",
    "  -h, --help  show this help message and exit",
    "  --no-chart  Never offer the kind chart",
    "  -y, --yes   Show the kind chart without asking"]
  options := [
    helpOption,
    ⟨["--no-chart".toList], .set .noChart⟩,
    ⟨["-y".toList, "--yes".toList], .set .yes⟩]
  operands := .nothing

/-- The interface of the file command. -/
def fileInterface : Interface FileSetting where
  program := "famixparse parse".toList
  usage := textOfLines ["usage: famixparse parse [-h] [--export OUT] [--chart] [--strict] path"]
  description := textOfLines [
    "",
    "positional arguments:",
    "  path          Path to a FAMIX text file",
    "",
    "options:",
    "  -h, --help    show this help message and exit",
    "  --export OUT  Write the entities to a YAML file",
    "  --chart       Render the kind frequency chart",
    "  --strict      Fail if any input is left unparsed"]
  options := [
    helpOption,
    ⟨["--export".toList], .take .exportTo⟩,
    ⟨["--chart".toList], .set .chart⟩,
    ⟨["--strict".toList], .set .strict⟩]
  operands := .one

/-! ## Requests -/

/-- The policy that the options of the interactive reader ask for. Not drawing wins. -/
def policyOf (settings : List InteractiveSetting) : ChartPolicy :=
  if settings.contains .noChart then .never
  else if settings.contains .yes then .always
  else .ask

/-- A file request with one more option. -/
def applySetting (request : FileRequest) : FileSetting → FileRequest
  | .exportTo path => { request with exportTo := path }
  | .chart => { request with chart := true }
  | .strict => { request with strict := true }

/-- The request of the interactive command, and the arguments that it does not want. -/
def readInteractive (arguments : List Text) : Except Stop (Request × List Text) := do
  let read ← interactiveInterface.read arguments
  .ok (.interactive (policyOf read.settings), read.extras)

/-- The request of the file command, and the arguments that it does not want. -/
def readFileCommand (arguments : List Text) : Except Stop (Request × List Text) := do
  let read ← fileInterface.read arguments
  match read.operands with
  | [] => .error (fileInterface.refusal "the following arguments are required: path".toList)
  | path :: _ => .ok (.file (read.settings.foldl applySetting { path }), read.extras)

/-- The request of a command with its arguments. -/
def readCommand : List Text → Except Stop (Request × List Text)
  | [] => .ok (.interactive .ask, [])
  | name :: arguments =>
    if name = "repl".toList then readInteractive arguments
    else if name = "parse".toList then readFileCommand arguments
    else
      .error (mainInterface.refusal ("argument Command: invalid choice: ".toList ++
        Text.quoted name ++ " (choose from 'repl', 'parse')".toList))

/-- What the arguments of the program ask for. -/
def readInvocation (arguments : List Text) : Except Stop Invocation := do
  let read ← mainInterface.read arguments
  let (request, extras) ← readCommand read.operands
  match read.extras ++ extras with
  | [] => .ok ⟨read.settings.contains .verbose, request⟩
  | unwanted =>
    .error (mainInterface.refusal ("unrecognized arguments: ".toList ++
      List.intercalate [' '] unwanted))

/-! ## Ends of a run -/

/-- What can leave the program unhandled. -/
inductive Escape where
  | fault (cause : Fault)
  /-- The input ended where an answer was expected. -/
  | endOfInput
  | interrupt
  | markup (cause : MarkupError)
  | unwritable (cause : ExportError)
  /-- The system cannot be asked for a path. -/
  | impassable
deriving DecidableEq, Repr

/-- What an escape says. -/
def Escape.message : Escape → Text
  | fault cause => cause.message
  | endOfInput => "EOF when reading a line".toList
  | interrupt => []
  | markup cause => cause.message
  | unwritable cause => cause.message
  | impassable => "embedded null byte".toList

/-- The end of a run. -/
inductive Ending where
  | exit (code : Nat)
  | escape (cause : Escape)
deriving DecidableEq, Repr

/-- What comes after the last line of the input. -/
inductive InputEnd where
  | endOfFile
  | interrupt
deriving DecidableEq, Repr

end Famix.CommandLine
