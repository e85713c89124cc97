/-
The program on a real terminal and disk. Everything that is decided is decided elsewhere;
this module fetches the files that a request may touch, hands lines of the input to the
dialogue as they come, prints what comes of it, and puts the files back that have changed.
-/
import Famix.CommandLine.Program

set_option autoImplicit false

namespace Famix.Shell

open Famix.CommandLine

/-! ## Printing -/

/-- Prints a text at once. Nothing is done for the empty text. -/
def printTo (stream : IO.FS.Stream) (text : Text) : IO Unit := do
  unless text.isEmpty do
    stream.putStr (String.ofList text)
    stream.flush

/-- Prints how a run ended and gives its exit code. -/
def finish : Ending → IO UInt32
  | .exit code => pure (UInt32.ofNat code)
  | .escape cause => do
    printTo (← IO.getStderr) (cause.message ++ ['\n'])
    pure 1

/-! ## Files -/

/-- The system's number for the refusal to read a directory. -/
def directoryCode : UInt32 := 21

/-- A location as the system writes it. -/
def systemName (location : Location) : String :=
  String.ofList ('/' :: List.intercalate ['/'] location)

/-- What stands at a location on disk. -/
def fetchNode (location : Location) : IO (Option Node) := do
  if location.isEmpty then return some .directory
  try
    let bytes ← IO.FS.readBinFile (systemName location)
    return some (.file bytes.toList)
  catch
    | .inappropriateType _ code _ =>
      return if code = directoryCode then some .directory else none
    | _ => return none

/-- Adds what stands on disk at a location and along the parts that lead on from it. -/
def fetchAlong (files : FileSystem) (place : Location) (parts : List Text) : IO FileSystem := do
  let files := match ← fetchNode place with
    | some node => files.put place node
    | none => files
  match parts with
  | [] => pure files
  | part :: parts => fetchAlong files (FileSystem.step place part) parts

/-- Adds what stands on disk along a path. -/
def fetch (files : FileSystem) (path : Path) : IO FileSystem :=
  fetchAlong files (if path.anchor = .here then files.current else []) path.parts

/-- The part of the file system on disk that a file request may touch. -/
def filesFor (request : FileRequest) : IO FileSystem := do
  let current := (Path.ofText (← IO.currentDir).toString.toList).parts
  let mut files : FileSystem := { current }
  let target := Path.ofText request.exportTo
  for path in [Path.ofText request.path, target] ++ (target.sibling? temporarySuffix).toList do
    if path.isPassable then files ← fetch files path
  pure files

/-- Puts a file on disk, by way of a temporary file beside it. -/
def storeFile (location : Location) (content : Utf8.Bytes) : IO Unit := do
  let name := systemName location
  let temporary := name ++ String.ofList temporarySuffix
  IO.FS.writeBinFile temporary ⟨content.toArray⟩
  IO.FS.rename temporary name

/-- Makes the disk agree with a file system that was fetched from it and then changed. -/
def store (fetched final : FileSystem) : IO Unit := do
  for (location, node) in fetched.nodes do
    if (final.node? location).isNone && node != .directory then
      IO.FS.removeFile (systemName location)
  for (location, node) in final.nodes do
    if let .file content := node then
      if fetched.node? location != some node then storeFile location content

/-! ## Running -/

/-- Reads lines until one ends the dialogue or no more come. -/
partial def converse (verbose : Bool) (dialogue : Dialogue) : IO Ending := do
  match (← (← IO.getStdin).getLine).toList with
  | [] => return dialogue.atEnd .endOfFile
  | line =>
    let turn := dialogue.take (if line.getLast? = some '\n' then line.dropLast else line)
    printTo (← IO.getStderr) (writtenLog verbose turn.log)
    printTo (← IO.getStdout) turn.shown
    match turn.next with
    | .error ending => return ending
    | .ok next => converse verbose next

/-- Holds a dialogue from the greeting on. -/
def runInteractive (invocation : Invocation) (policy : ChartPolicy) : IO Ending := do
  printTo (← IO.getStderr) (writtenLog invocation.verbose [commandLog invocation.request])
  printTo (← IO.getStdout) Display.welcome
  converse invocation.verbose { policy }

/-- Runs the program on arguments that ask for a file, or for nothing that can be done. -/
def runAtOnce (arguments : List Text) (files : FileSystem) : IO Ending := do
  let outcome := runFromShell { arguments, files }
  printTo (← IO.getStderr) outcome.complaints
  printTo (← IO.getStdout) (outcome.told ++ outcome.shown)
  store files outcome.files
  pure outcome.ending

/-- Runs the program on its arguments and gives its exit code. -/
def run (arguments : List Text) : IO UInt32 := do
  let ending ← match readInvocation arguments with
    | .ok invocation =>
      match invocation.request with
      | .interactive policy => runInteractive invocation policy
      | .file request => do runAtOnce arguments (← filesFor request)
    | .error _ => runAtOnce arguments {}
  finish ending

end Famix.Shell

/-! ## The command line -/

/-- The program: its arguments say what to do, and its exit code whether it was done. -/
def main (arguments : List String) : IO UInt32 :=
  Famix.Shell.run (arguments.map String.toList)
