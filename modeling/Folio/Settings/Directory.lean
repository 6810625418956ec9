import Folio.Text.Split

/-!
# Files

How a file is read by its path. A working directory here holds files only, and nothing is known of
what lies outside it.
-/

namespace Folio.Settings

/-- Why a file cannot be read. -/
inductive FileError where
  | notFound
  | notDirectory
  | isDirectory
  /-- Any other cause, in the words of the system. -/
  | other (description : String)
  deriving DecidableEq, Repr

/-- The wording of a failure. -/
def FileError.message : FileError → String
  | notFound => "No such file or directory (os error 2)"
  | notDirectory => "Not a directory (os error 20)"
  | isDirectory => "Is a directory (os error 21)"
  | other description => description

/-- The content of the file at a path. -/
abbrev FileSystem := String → Except FileError (List UInt8)

/-- The files of a working directory, by name. -/
abbrev Directory := List (String × List UInt8)

namespace Directory

/-- A place that the first names of a path lead to. -/
inductive Place where
  | working
  | outside
  | file (content : List UInt8)

/-- Follows a path name by name. An empty name and `.` stay in a directory, and `..` leaves it. -/
def follow (directory : Directory) : Place → List String → Except FileError (List UInt8)
  | .file content, [] => .ok content
  | .working, [] | .outside, [] => .error .isDirectory
  | .file _, _ :: _ => .error .notDirectory
  | .outside, name :: rest =>
    if name = "" ∨ name = "." ∨ name = ".." then directory.follow .outside rest
    else .error .notFound
  | .working, name :: rest =>
    if name = "" ∨ name = "." then directory.follow .working rest
    else if name = ".." then directory.follow .outside rest
    else
      match directory.lookup name with
      | some content => directory.follow (.file content) rest
      | none => .error .notFound

/-- Reads a file. A path that starts with a slash starts at the root. -/
def read (directory : Directory) : FileSystem := fun path =>
  match path.toList with
  | [] => .error .notFound
  | c :: rest =>
    let names := (Text.split (· == '/') (c :: rest)).map String.ofList
    directory.follow (if c == '/' then .outside else .working) names

end Directory

end Folio.Settings
