/-
Paths, and a file system of files and directories with the four operations on it that the
program needs. There are no links and no permissions, so an operation fails only for what
the paths lead to.

A path keeps its `..` parts, since what they mean depends on the directories before them;
empty parts and `.` parts mean nothing and are left out. The empty path is the current
directory and is written `.`.

A location is a list of names from the root. Following a path goes from directory to
directory; `..` leads to the directory above, and the root is its own. Names and paths have
a greatest length, counted in bytes.
-/
import Famix.File.Utf8
import Famix.Text.Quoted

set_option autoImplicit false

namespace Famix

/-! ## Paths -/

/-- Where a path starts. -/
inductive Path.Anchor where
  /-- At the current directory. -/
  | here
  | root
  /-- At the root, written with two slashes. -/
  | doubleRoot
deriving DecidableEq, Repr

/-- A path. -/
structure Path where
  anchor : Path.Anchor
  parts : List Text
deriving DecidableEq, Repr

namespace Path

/-- The slashes with which an anchor is written. -/
def Anchor.written : Anchor → Text
  | here => []
  | root => ['/']
  | doubleRoot => ['/', '/']

/-- The anchor of a written path. Exactly two leading slashes are kept, any other number
of them means the root. -/
def anchorOf (text : Text) : Anchor :=
  match (text.takeWhile (· == '/')).length with
  | 0 => .here
  | 2 => .doubleRoot
  | _ => .root

/-- The path that a text writes. -/
def ofText (text : Text) : Path :=
  ⟨anchorOf text, (Text.splitOn '/' text).filter fun part => part != [] && part != ['.']⟩

/-- A path as it is written. -/
def toText (path : Path) : Text :=
  if path.anchor = .here ∧ path.parts = [] then ['.']
  else path.anchor.written ++ List.intercalate ['/'] path.parts

/-- A path in quotes, as messages show it. -/
def quoted (path : Path) : Text := Text.quoted path.toText

/-- The last part, if there is one. -/
def name? (path : Path) : Option Text := path.parts.getLast?

/-- The path beside this one whose name has a suffix appended. Without a name there is
none. -/
def sibling? (path : Path) (suffix : Text) : Option Path :=
  path.name?.map fun name => { path with parts := path.parts.dropLast ++ [name ++ suffix] }

/-- Whether the path can be handed to the system at all: no part may hold the character
that ends a text there. -/
def isPassable (path : Path) : Bool := path.parts.all fun part => !part.contains '\x00'

end Path

/-! ## Files and directories -/

/-- The names that lead from the root to a place. -/
abbrev Location := List Text

/-- What stands at a location. -/
inductive Node where
  | file (content : Utf8.Bytes)
  | directory
deriving DecidableEq, Repr

/-- Why the system refuses an operation. -/
inductive FileErrorKind where
  | notFound
  | busy
  | notADirectory
  | isADirectory
  /-- A name or a whole path has too many bytes. -/
  | nameTooLong
deriving DecidableEq, Repr

/-- A refused operation on a path, or on two of them. -/
structure FileError where
  kind : FileErrorKind
  path : Path
  target : Option Path := none
deriving DecidableEq, Repr

namespace FileError

/-- A kind of error with its number. -/
def kindMessage : FileErrorKind → Text
  | .notFound => "[Errno 2] No such file or directory".toList
  | .busy => "[Errno 16] Device or resource busy".toList
  | .notADirectory => "[Errno 20] Not a directory".toList
  | .isADirectory => "[Errno 21] Is a directory".toList
  | .nameTooLong => "[Errno 36] File name too long".toList

/-- A refused operation in words. -/
def message (error : FileError) : Text :=
  kindMessage error.kind ++ ": ".toList ++ error.path.quoted ++
    match error.target with
    | some target => " -> ".toList ++ target.quoted
    | none => []

end FileError

/-- The nodes of a file system and the current directory. The root always is a directory,
whether or not it is listed. -/
structure FileSystem where
  nodes : List (Location × Node) := []
  current : Location := []
deriving Repr

namespace FileSystem

/-! ## Nodes -/

/-- What stands at a location. -/
def node? (files : FileSystem) (location : Location) : Option Node :=
  match files.nodes.lookup location with
  | some node => some node
  | none => if location.isEmpty then some .directory else none

/-- Puts a node at a location. -/
def put (files : FileSystem) (location : Location) (node : Node) : FileSystem :=
  { files with nodes := (location, node) :: files.nodes.filter fun entry => entry.1 != location }

/-- Takes away what stands at a location. -/
def drop (files : FileSystem) (location : Location) : FileSystem :=
  { files with nodes := files.nodes.filter fun entry => entry.1 != location }

/-! ## Following paths -/

/-- The location that one part of a path leads to. -/
def step (place : Location) (part : Text) : Location :=
  if part = "..".toList then place.dropLast else place ++ [part]

/-- The most bytes of a name. -/
def longestName : Nat := 255

/-- The most bytes of a path. -/
def longestPath : Nat := 4095

/-- Whether a text has more bytes than a limit. -/
def exceeds (limit : Nat) (text : Text) : Bool := limit < (Utf8.encode text).length

/-- Follows the parts of a path. Every part must start from a directory; what the last one
leads to need not exist. -/
def follow (files : FileSystem) : Location → List Text → Except FileErrorKind Location
  | place, [] => .ok place
  | place, part :: parts =>
    -- the part is looked up in a directory, so what it starts from is settled first
    match files.node? place with
    | some .directory =>
      if exceeds longestName part then .error .nameTooLong
      else follow files (step place part) parts
    | some (.file _) => .error .notADirectory
    | none => .error .notFound

/-- The location that a path leads to. -/
def locate (files : FileSystem) (path : Path) : Except FileErrorKind Location :=
  if exceeds longestPath path.toText then .error .nameTooLong
  -- a path without a leading slash starts from the current directory
  else follow files (if path.anchor = .here then files.current else []) path.parts

/-- Whether anything stands where a path leads to. A path that is too long to be followed
has no answer. -/
def holds (files : FileSystem) (path : Path) : Except FileError Bool :=
  match files.locate path with
  | .ok location => .ok (files.node? location).isSome
  | .error .nameTooLong => .error { kind := .nameTooLong, path }
  -- where a path leads nowhere, nothing stands; that is an answer
  | .error _ => .ok false

/-! ## Operations -/

/-- The bytes of a file. -/
def readFile (files : FileSystem) (path : Path) : Except FileError Utf8.Bytes :=
  match files.locate path with
  | .error kind => .error { kind, path }
  | .ok location =>
    match files.node? location with
    | some (.file content) => .ok content
    | some .directory => .error { kind := .isADirectory, path }
    | none => .error { kind := .notFound, path }

/-- Writes a file, which is created or overwritten. -/
def writeFile (files : FileSystem) (path : Path) (content : Utf8.Bytes) :
    Except FileError FileSystem :=
  match files.locate path with
  | .error kind => .error { kind, path }
  | .ok location =>
    match files.node? location with
    | some .directory => .error { kind := .isADirectory, path }
    -- the directory above exists, as the path could be followed to its end
    | _ => .ok (files.put location (.file content))

/-- Moves a file to another path, replacing a file there. A path that ends in `..` cannot
be replaced, and neither can a directory. -/
def moveFile (files : FileSystem) (path target : Path) : Except FileError FileSystem :=
  match files.locate path, files.locate target with
  | .error kind, _ => .error { kind, path, target := some target }
  | _, .error kind => .error { kind, path, target := some target }
  | .ok source, .ok destination =>
    -- a directory that is named by its parent is in use
    if target.name? = some "..".toList then .error { kind := .busy, path, target := some target }
    else
      match files.node? source, files.node? destination with
      | some (.file content), some (.file _) | some (.file content), none =>
        -- the file is taken away first, so moving it onto itself keeps it
        .ok ((files.drop source).put destination (.file content))
      | some .directory, _ | some (.file _), some .directory =>
        .error { kind := .isADirectory, path, target := some target }
      | none, _ => .error { kind := .notFound, path, target := some target }

/-- Removes a file. -/
def removeFile (files : FileSystem) (path : Path) : Except FileError FileSystem :=
  match files.locate path with
  | .error kind => .error { kind, path }
  | .ok location =>
    match files.node? location with
    | some (.file _) => .ok (files.drop location)
    | some .directory => .error { kind := .isADirectory, path }
    | none => .error { kind := .notFound, path }

end FileSystem

end Famix
