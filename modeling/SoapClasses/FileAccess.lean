import SoapClasses.FilePaths

/-!
# Access to files

What a command needs from a file system: reading a file, asking where a path leads, making a directory,
writing a file, and printing. A directory with the directories above it is made from these.
-/

namespace SoapClasses

/-- Why an access fails. -/
inductive FileFault where
  | notFound
  | alreadyExists
  | notDirectory
  | isDirectory
  | nameTooLong
  | nulInPath
  | notText
  | other (text : String)
  deriving DecidableEq, Repr

def FileFault.message : FileFault → String
  | .notFound => "No such file or directory (os error 2)"
  | .alreadyExists => "File exists (os error 17)"
  | .notDirectory => "Not a directory (os error 20)"
  | .isDirectory => "Is a directory (os error 21)"
  | .nameTooLong => "File name too long (os error 36)"
  | .nulInPath => "file name contained an unexpected NUL byte"
  | .notText => "stream did not contain valid UTF-8"
  | .other text => text

/-- The operations on files and on the output of a command. -/
class FileAccess (m : Type → Type) where
  readFile : String → m (Except FileFault (List UInt8))
  /-- Whether a path leads to a file or directory. -/
  isPresent : String → m Bool
  /-- Whether a path leads to a directory. -/
  isDirectory : String → m Bool
  /-- Makes one directory, whose parent must be there. -/
  makeDirectory : String → m (Except FileFault Unit)
  writeFile : String → String → m (Except FileFault Unit)
  print : String → m Unit

section

variable {m : Type → Type} [Monad m] [FileAccess m]

def ensureDirectory (path : String) : m (Except FileFault Unit) := do
  match ← FileAccess.makeDirectory path with
  | .error .alreadyExists =>
    if ← FileAccess.isDirectory path then return .ok () else return .error .alreadyExists
  | result => return result

/-- Makes the first directory of the list; while its parent is missing, those behind it come first. -/
def ensureDirectories : List String → m (Except FileFault Unit)
  | [] => return .ok ()
  | path :: above => do
    match ← ensureDirectory path with
    | .error .notFound =>
      match ← ensureDirectories above with
      | .ok _ => ensureDirectory path
      | .error fault => return .error fault
    | result => return result

/-- Makes a directory and those above it that are missing. A path without names needs none. -/
def makeDirectories (path : String) : m (Except FileFault Unit) :=
  if (pathNames path).isEmpty then return .ok ()
  else ensureDirectories (path :: parentPaths path)

end

end SoapClasses
