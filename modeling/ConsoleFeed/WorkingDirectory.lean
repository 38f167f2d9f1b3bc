import ConsoleFeed.Fault
import ConsoleFeed.Text.Pieces
import ConsoleFeed.Text.Utf8

/-!
# The working directory

A file is read by its path from the working directory. The directory holds files and directories
that hold nothing. A path is followed name by name: only a directory can be followed further, so a
name after a file is refused even if it is empty, as after a slash at the end. What stands above the
working directory is not known, and nothing is found there.
-/

namespace ConsoleFeed

/-- What stands under a name. -/
inductive DirectoryEntry where
  | file (bytes : List UInt8)
  | directory
deriving DecidableEq

/-- The entries of the working directory by name. -/
structure WorkingDirectory where
  entries : List (String × DirectoryEntry)
deriving DecidableEq

namespace SystemFault

/-- There is nothing under the path. -/
def notFound : SystemFault := .numbered .notFound 2 "No such file or directory"

/-- The path goes on after a file. -/
def notDirectory : SystemFault := .numbered .notDirectory 20 "Not a directory"

/-- The path leads to a directory. -/
def isDirectory : SystemFault := .numbered .isDirectory 21 "Is a directory"

/-- A name in the path is longer than names can be, or the path longer than paths can be. -/
def nameTooLong : SystemFault := .numbered .invalidFilename 36 "File name too long"

/-- The path has a character that no path can have. -/
def nulInPath : SystemFault :=
  .constant .invalidInput "file name contained an unexpected NUL byte"

/-- The bytes are not those of a text. -/
def notText : SystemFault := .constant .invalidData "stream did not contain valid UTF-8"

end SystemFault

/-- Where a path has led so far. -/
inductive Place where
  | here
  | inside
  | outside
  | file (bytes : List UInt8)
deriving DecidableEq

namespace WorkingDirectory

/-- The most bytes that a name can have. -/
def nameLimit : Nat := 255

/-- A path can have fewer bytes than this. -/
def pathBound : Nat := 4096

/-- What stands under a name; of several entries with the name the last counts. -/
def entry? (directory : WorkingDirectory) (name : String) : Option DirectoryEntry :=
  (directory.entries.reverse.find? fun entry => entry.1 == name).map Prod.snd

/-- Follows a name from a place. -/
def follow (directory : WorkingDirectory) (place : Place) (name : String) :
    Except SystemFault Place :=
  match place with
  | .file _ => .error .notDirectory
  | _ =>
      if name = "" ∨ name = "." then .ok place
      else if name = ".." then .ok (if place = .inside then .here else .outside)
      else if nameLimit < name.utf8ByteSize then .error .nameTooLong
      else if place = .here then
        match directory.entry? name with
        | some (.file bytes) => .ok (.file bytes)
        | some .directory => .ok .inside
        | none => .error .notFound
      else .error .notFound

/-- The names in a path. -/
def names (characters : List Char) : List String :=
  (Pieces.split '/' characters).map String.ofList

/-- Follows a path. That it is too long is found before any of its names is looked at. -/
def locate (directory : WorkingDirectory) (path : String) : Except SystemFault Place :=
  if path.toList.contains '\x00' then .error .nulInPath
  else if pathBound ≤ path.utf8ByteSize then .error .nameTooLong
  else
    match path.toList with
    | [] => .error .notFound
    | '/' :: rest => (names rest).foldlM directory.follow .outside
    | characters => (names characters).foldlM directory.follow .here

/-- Reads the bytes of the file that a path leads to. -/
def read (directory : WorkingDirectory) (path : String) : Except SystemFault (List UInt8) :=
  match directory.locate path with
  | .error fault => .error fault
  | .ok (.file bytes) => .ok bytes
  | .ok _ => .error .isDirectory

end WorkingDirectory

end ConsoleFeed
