import ByteScan.Bytes
import ByteScan.SystemError

/-!
# Files

What the program sees of a file system: a file can be mapped, for its bytes, or read as text. A
`Directory` is a file system of its own, with files and nothing else in it but the directories on
their paths; names lead from the working directory through it.
-/

namespace ByteScan.CommandLine

/-- A file system as far as the program uses one. -/
structure Files where
  /-- Maps a file into memory. -/
  mapped : String → Except SystemError Bytes
  /-- Reads a file as text. -/
  text : String → Except SystemError String

/-- The text that some bytes encode in UTF-8. -/
def decodeText (bytes : Bytes) : Except SystemError String :=
  match String.fromUTF8? ⟨bytes⟩ with
  | some text => .ok text
  | none => .error .invalidText

/-- Files with their paths from the working directory. -/
abbrev Directory := List (String × Bytes)

namespace Directory

/-- What stands at a place. -/
inductive Node where
  /-- A file. -/
  | file (bytes : Bytes)
  /-- A directory. -/
  | directory

/-- The parts of a path. -/
def parts (path : String) : List String := path.splitOn "/"

/-- What stands at the place that the given parts lead to. -/
def node? (d : Directory) (place : List String) : Option Node :=
  match d.find? fun (path, _) => parts path = place with
  | some (_, bytes) => some (.file bytes)
  | none =>
    if place.isEmpty || d.any (fun (path, _) => place.isPrefixOf (parts path)) then some .directory
    else none

/-- Follows the parts of a path from a place. Only a directory leads on, be it to itself; the
directory around the working directory is known to be one and nothing more. -/
def follow (d : Directory) (place : List String) : List String → Except SystemError Node
  | [] => (d.node? place).elim (.error .notFound) .ok
  | part :: rest =>
    match d.node? place with
    | none => .error .notFound
    | some (.file _) => .error .notDirectory
    | some .directory =>
      if part = "" ∨ part = "." then follow d place rest
      else if part = ".." then
        if place.isEmpty then if rest.isEmpty then .ok .directory else .error .notFound
        else follow d place.dropLast rest
      else if 255 < part.utf8ByteSize then .error .nameTooLong
      else follow d (place ++ [part]) rest

/-- What stands at the end of a path. Of absolute paths only the root is known. -/
def lookUp (d : Directory) (path : String) : Except SystemError Node :=
  match parts path with
  | "" :: rest => if rest.all (· = "") then .ok .directory else .error .notFound
  | ps => d.follow [] ps

/-- The files of a directory. A directory can neither be mapped nor read. -/
def files (d : Directory) : Files where
  mapped path := do
    match ← d.lookUp path with
    | .file bytes => return bytes
    | .directory => throw .noDevice
  text path := do
    match ← d.lookUp path with
    | .file bytes => decodeText bytes
    | .directory => throw .isDirectory

end Directory

end ByteScan.CommandLine
