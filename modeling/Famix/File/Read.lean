/-
Reading a model from a text file. Such a file may begin with a mark, from behind which the
bytes are counted in an error, and its lines may end in more than one way.
-/
import Famix.File.System
import Famix.Grammar.Model

set_option autoImplicit false

namespace Famix

/-! ## Text files -/

namespace Utf8

/-- The bytes that mark a file as UTF-8. -/
def mark : Bytes := [0xef, 0xbb, 0xbf]

/-- The bytes behind the mark, if there is one. Bytes that end inside the mark count as
nothing but the mark. -/
def withoutMark (bytes : Bytes) : Bytes :=
  if mark.isPrefixOf bytes then bytes.drop mark.length
  else if bytes.isPrefixOf mark then []
  else bytes

/-- The text of a file. -/
def textOfFile (bytes : Bytes) : Except DecodeError Text :=
  (decode (withoutMark bytes)).map unifyLineEnds

end Utf8

/-! ## Reading -/

/-- Why a file yields no text. -/
inductive ReadError where
  | file (cause : FileError)
  | decoding (cause : Utf8.DecodeError)
  /-- The system cannot be asked for the path at all. -/
  | impassable
deriving DecidableEq, Repr

/-- A read error in words. -/
def ReadError.message : ReadError → Text
  | file cause => cause.message
  | decoding cause => cause.message
  | impassable => "embedded null byte".toList

namespace FileSystem

/-- The text of a file. -/
def readText (files : FileSystem) (path : Path) : Except ReadError Text :=
  if !path.isPassable then .error .impassable
  else
    match files.readFile path with
    | .error cause => .error (.file cause)
    | .ok bytes =>
      match Utf8.textOfFile bytes with
      | .error cause => .error (.decoding cause)
      | .ok text => .ok text

/-- Reads a model from a file. -/
def readModelAt (files : FileSystem) (path : Path) :
    Except ReadError (Except Fault (Reading Entity)) :=
  (files.readText path).map readModel

end FileSystem

end Famix
