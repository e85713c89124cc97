/-
Reading one file: the table of its records, what is left over, the chart and the
snapshot, as far as they are asked for.

Paths that the user gave go into messages as they are, so a path may hold a style mark
that makes a message impossible to print; then the run is left by that error.
-/
import Famix.CommandLine.Interfaces
import Famix.Display.Screens
import Famix.File.Read
import Famix.Session.Model

set_option autoImplicit false

namespace Famix.CommandLine

/-- The course of a run on a file: what was shown and logged, how it ended, and the file
system afterwards. -/
structure FileRun where
  shown : Text := []
  log : List LogLine := []
  ending : Ending
  files : FileSystem

namespace FileRun

/-- A run that has shown something before. -/
def after (shown : Text) (log : List LogLine) (run : FileRun) : FileRun :=
  { run with shown := shown ++ run.shown, log := log ++ run.log }

/-- Prints a message with style marks and goes on, unless the marks are wrong. -/
def say (files : FileSystem) (message : Text) (print : Text → Text) (next : FileRun) : FileRun :=
  match Markup.plain message with
  | .ok plain => next.after (print plain) []
  | .error cause => { ending := .escape (.markup cause), files }

/-- The end of a run. -/
def done (files : FileSystem) (code : Nat) : FileRun := { ending := .exit code, files }

end FileRun

namespace FileRequest

/-- The error message for a file that cannot be read. -/
def unreadableMessage (request : FileRequest) (cause : ReadError) : Text :=
  "[bold red]Error:[/bold red] Cannot read '".toList ++ request.path ++ "': ".toList ++
    cause.message

/-- The message for a file that holds no list of records. -/
def noListMessage (request : FileRequest) : Text :=
  "[bold red]No FAMIX list found in ".toList ++ request.path ++ "[/bold red]\n".toList ++
    "The input may be incomplete or malformed.".toList

/-- The message after a snapshot has been written. -/
def exportedMessage (count : Nat) (target : Path) : Text :=
  "[bold green]Exported ".toList ++ Text.ofNat count ++ " entities to ".toList ++
    target.toText ++ "[/bold green]".toList

/-- The message after a snapshot could not be written. -/
def notExportedMessage (cause : ExportError) : Text :=
  "[bold red]Error:[/bold red] ".toList ++ cause.message

/-- The notice that something was left over where nothing may be. -/
def strictNotice : Text := "Strict mode: input left unparsed.\n".toList

/-- The log line of the exporter. -/
def exportedLog (target : Path) : LogLine :=
  ⟨.info, "famixparse.exporter".toList, "Exported entities to ".toList ++ target.toText⟩

/-- The table, the rest if it is not blank, and the chart if it is wanted. -/
def report (request : FileRequest) (reading : Reading Entity) : Text :=
  Display.recordTable reading.items ++
    -- blanks that are left over are not shown, and count as nothing in strict mode too
    (if Text.allBlank reading.remainder then [] else Display.rest reading.remainder) ++
    if request.chart then Display.chart reading.items else []

/-- The last step: in strict mode nothing may be left over. -/
def conclude (request : FileRequest) (reading : Reading Entity) (files : FileSystem) : FileRun :=
  if request.strict && !reading.complete then (FileRun.done files 1).after strictNotice []
  else FileRun.done files 0

/-- Writes the snapshot and goes on to the last step. -/
def writeSnapshot (request : FileRequest) (reading : Reading Entity) (files : FileSystem) :
    FileRun :=
  let target := Path.ofText request.exportTo
  match files.exportRecords none reading.items target with
  | (files, .ok ()) =>
    (FileRun.say files (exportedMessage reading.items.length target) Display.print
      (request.conclude reading files)).after [] [exportedLog target]
  -- these three causes are no errors of the system, and nothing here deals with them
  | (files, .error (.emptyName path)) =>
    { ending := .escape (.unwritable (.emptyName path)), files }
  | (files, .error .impassable) => { ending := .escape .impassable, files }
  | (files, .error (.unwritten cause)) => { ending := .escape (.fault cause), files }
  | (files, .error cause) =>
    FileRun.say files (notExportedMessage cause) Display.print (FileRun.done files 1)

/-- The run on a file whose text has been read. -/
def runOnText (request : FileRequest) (files : FileSystem) (text : Text) : FileRun :=
  match readModel text with
  | .error cause => { ending := .escape (.fault cause), files }
  | .ok reading =>
    let log := [LogLine.ofReading text reading]
    if !reading.matched then
      -- nothing else is shown, and neither is the snapshot written
      (FileRun.say files request.noListMessage
        (Display.fittedPanel none)
        (FileRun.done files 1)).after [] log
    else
      -- an empty target is the same as none
      (if request.exportTo.isEmpty then request.conclude reading files
        else request.writeSnapshot reading files).after (request.report reading) log

/-- The run on a file. -/
def run (request : FileRequest) (files : FileSystem) : FileRun :=
  match files.readText (Path.ofText request.path) with
  | .ok text => request.runOnText files text
  | .error .impassable => { ending := .escape .impassable, files }
  | .error cause =>
    FileRun.say files (request.unreadableMessage cause) Display.print (FileRun.done files 1)

end FileRequest

end Famix.CommandLine
