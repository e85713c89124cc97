/-
Writing a snapshot so that no failure leaves a half-written file at the target: the text
goes to a temporary sibling first, which then takes the target's place.

A mishap can be put into either of the two steps, to say what would happen then.
-/
import Famix.File.System
import Famix.Yaml.Snapshot

set_option autoImplicit false

namespace Famix

/-- What appended to the target's name gives the name of the temporary sibling. -/
def temporarySuffix : Text := ".famixparse.tmp".toList

/-- A failure of the system from outside. -/
inductive Mishap where
  /-- Writing stops after some bytes. -/
  | whileWriting (written : Nat) (kind : FileErrorKind)
  | whileMoving (kind : FileErrorKind)

/-- Why nothing was exported. -/
inductive ExportError where
  /-- There is no text to be exported. -/
  | unwritten (cause : Fault)
  /-- The target has no name to which the suffix could be appended. -/
  | emptyName (target : Path)
  /-- The system cannot be asked for the path at all. -/
  | impassable
  | failed (target : Path) (cause : FileError)
  /-- After a failure the temporary file could not be found or removed. -/
  | stuck (cause : FileError)
deriving DecidableEq, Repr

/-- An export error in words. -/
def ExportError.message : ExportError → Text
  | unwritten cause => cause.message
  | emptyName target => "PosixPath(".toList ++ target.quoted ++ ") has an empty name".toList
  | impassable => "embedded null byte".toList
  | failed target cause =>
    "Export to ".toList ++ target.toText ++ " failed: ".toList ++ cause.message
  | stuck cause => cause.message

namespace FileSystem

/-- Writes a file, or a part of it if a mishap strikes. A mishap comes only after the file
could be opened. -/
def writeFileWith (mishap : Option Mishap) (files : FileSystem) (path : Path)
    (content : Utf8.Bytes) : FileSystem × Except FileError Unit :=
  match mishap with
  | some (.whileWriting written kind) =>
    -- the file is there by now, with what has been written of it
    match files.writeFile path (content.take written) with
    | .ok after => (after, .error { kind, path })
    | .error cause => (files, .error cause)
  | _ =>
    match files.writeFile path content with
    | .ok after => (after, .ok ())
    | .error cause => (files, .error cause)

/-- Moves a file, unless a mishap strikes. -/
def moveFileWith (mishap : Option Mishap) (files : FileSystem) (path target : Path) :
    Except FileError FileSystem :=
  match mishap with
  | some (.whileMoving kind) => .error { kind, path, target := some target }
  | _ => files.moveFile path target

/-- After a failure: removes what stands at the temporary path. -/
def giveUp (files : FileSystem) (temporary target : Path) (cause : FileError) :
    FileSystem × Except ExportError Unit :=
  match files.holds temporary with
  | .error worse => (files, .error (.stuck worse))
  | .ok false => (files, .error (.failed target cause))
  | .ok true =>
    -- the sibling may be someone else's directory, which is not removed
    match files.removeFile temporary with
    | .ok after => (after, .error (.failed target cause))
    | .error worse => (files, .error (.stuck worse))

/-- Puts a text into the target file by way of a temporary sibling. -/
def replaceFile (mishap : Option Mishap) (files : FileSystem) (target : Path) (text : Text) :
    FileSystem × Except ExportError Unit :=
  match target.sibling? temporarySuffix with
  | none => (files, .error (.emptyName target))
  | some temporary =>
    if !temporary.isPassable then (files, .error .impassable)
    else
      match files.writeFileWith mishap temporary (Utf8.encode text) with
      -- the sibling may have been created, so it is looked for
      | (after, .error cause) => after.giveUp temporary target cause
      | (after, .ok ()) =>
        match after.moveFileWith mishap temporary target with
        | .ok moved => (moved, .ok ())
        -- the text is complete, but not in its place
        | .error cause => after.giveUp temporary target cause

/-- Writes the snapshot of records to the target file. -/
def exportRecords (mishap : Option Mishap) (files : FileSystem) (entities : List Entity)
    (target : Path) : FileSystem × Except ExportError Unit :=
  match Yaml.document entities with
  -- without a text the files are not touched at all, whatever stands at the sibling
  | .error cause => (files, .error (.unwritten cause))
  | .ok text => files.replaceFile mishap target text

end FileSystem

end Famix
