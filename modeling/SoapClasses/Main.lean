import SoapClasses.Commands
import SoapClasses.Invocations

/-!
# The command line

Runs a command on the file system and reports its failure.
-/

namespace SoapClasses

/-- The number of an error of the system, which may come with a minus. -/
def errorNumber (code : UInt32) : UInt32 :=
  if code < 0x80000000 then code else -code

/-- The fault that an error of the system stands for. -/
def faultOf (error : IO.Error) : FileFault :=
  match error with
  | .noFileOrDirectory .. => .notFound
  | .alreadyExists .. => .alreadyExists
  | .inappropriateType _ code _ =>
    if errorNumber code == 20 then .notDirectory
    else if errorNumber code == 21 then .isDirectory
    else .other (toString error)
  | .invalidArgument _ code _ =>
    if errorNumber code == 36 then .nameTooLong else .other (toString error)
  | error => .other (toString error)

def attempt {α : Type} (action : IO α) : IO (Except FileFault α) := do
  try
    return .ok (← action)
  catch error =>
    return .error (faultOf error)

instance : FileAccess IO where
  readFile path := attempt do return (← IO.FS.readBinFile path).toList
  isPresent path := do
    match ← attempt (IO.FS.readBinFile path) with
    | .error .notFound => return false
    | _ => return true
  isDirectory path := do
    match ← attempt (IO.FS.readBinFile path) with
    | .error .isDirectory => return true
    | _ => return false
  makeDirectory path := attempt (IO.FS.createDir path)
  writeFile path content := attempt (IO.FS.writeFile path content)
  print text := IO.print text

def runInvocation : Invocation → IO (Except CommandError Unit)
  | .generate metadata output project => (generate metadata output project).run
  | .check project => (check project).run

end SoapClasses

open SoapClasses in
/-- Runs the command that the arguments name; it returns one when that fails. -/
def main (arguments : List String) : IO UInt32 := do
  match Invocation.read? arguments with
  | none =>
    IO.eprint Invocation.usage
    return 2
  | some invocation =>
    match ← runInvocation invocation with
    | .ok () => return 0
    | .error error =>
      IO.eprint error.report
      return 1
