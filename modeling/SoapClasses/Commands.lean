import SoapClasses.ClassRendering
import SoapClasses.FileAccess
import SoapClasses.ProjectGeneration
import SoapClasses.TextDocuments
import SoapClasses.TomlProjects
import SoapClasses.TomlText

/-!
# Commands

One command generates the classes of a project and writes each to a file of its name; the other checks
a project file. Nothing is written before all classes have been generated and their names have been
found distinct.
-/

namespace SoapClasses

/-- The project file that is looked for when none is given. -/
def defaultProjectFile : String := "soapgen.toml"

/-- Why a command fails. -/
inductive CommandError where
  | projectUnreadable (path : String) (cause : FileFault)
  | projectMalformed
  | projectInvalid (cause : ProjectError)
  | metadataUnreadable (path : String) (cause : FileFault)
  | metadataMalformed (path : String) (cause : DecodingError)
  | generation (cause : GenerationError)
  /-- Two classes would be written to one file. -/
  | sharedFile (name qualified : String)
  | outputDirectory (path : String) (cause : FileFault)
  | output (path : String) (cause : FileFault)

/-- The wording of the error and of its causes, from the outside inwards. -/
def CommandError.messages : CommandError → List String
  | .projectUnreadable path cause =>
    ["Failed to read project file: " ++ quotedPath path, cause.message]
  | .projectMalformed => ["Failed to parse project file"]
  | .projectInvalid cause => [cause.message]
  | .metadataUnreadable path cause => ["Failed to read metadata: " ++ path, cause.message]
  | .metadataMalformed path cause =>
    ["Failed to parse metadata: " ++ path, serializationMessage cause]
  | .generation cause => cause.messages
  | .sharedFile name qualified =>
    ["Two generated classes share the file name " ++ name ++ ".php (" ++ qualified ++ ")"]
  | .outputDirectory path cause =>
    ["Failed to create output directory: " ++ quotedPath path, cause.message]
  | .output path cause => ["Failed to write " ++ quotedPath path, cause.message]

/-- The error as it is reported, its causes below it. -/
def CommandError.report (error : CommandError) : String :=
  match error.messages with
  | [] => ""
  | message :: causes =>
    "Error: " ++ message ++ "\n"
      ++ (if causes.isEmpty then ""
        else "\nCaused by:\n" ++ joinText "" (causes.map (fun cause => "    " ++ cause ++ "\n")))

def Project.parse (text : String) : Except CommandError Project :=
  match (TomlText.read? text).bind ofToml? with
  | some project => .ok project
  | none => .error .projectMalformed

def PhpClass.fileText (php : PhpClass) : String :=
  "<?php\n\n" ++ php.render

def PhpClass.fileName (php : PhpClass) : String :=
  php.name ++ ".php"

/-- Succeeds when no two classes have one name; the first class that repeats a name is reported. -/
def requireDistinctFiles (seen : List String) : List PhpClass → Except CommandError Unit
  | [] => .ok ()
  | php :: rest =>
    if seen.contains php.name then .error (.sharedFile php.name php.qualifiedName)
    else requireDistinctFiles (php.name :: seen) rest

/-- The classes to write for a project and the text of a service description. -/
def classesToWrite (project : Project) (path : String) (metadata : List UInt8) :
    Except CommandError (List PhpClass) := do
  let document ← (ServiceDocument.parse metadata).mapError (.metadataMalformed path)
  let classes ← (project.classes document).mapError .generation
  requireDistinctFiles [] classes
  return classes

def generatedLine (count : Nat) (directory : String) : String :=
  "Generated " ++ toString count ++ " class(es) in " ++ directory ++ "\n"

def flagWord (value : Bool) : String :=
  if value then "true" else "false"

/-- The line that names the client of a project. -/
def clientLine (project : Project) : String :=
  match project.client with
  | some client => "✓ Client: " ++ client.ns ++ "\\" ++ client.name ++ "\n"
  | none => "✓ Client: taken from metadata\n"

def validLines (project : Project) : String :=
  let types := project.generator.typeClass
  clientLine project
    ++ "✓ Factory: " ++ (if project.factory.isSome then "yes" else "no") ++ "\n"
    ++ "✓ Type assemblers: iterator=" ++ flagWord types.iterator
    ++ " json_serializable=" ++ flagWord types.jsonSerializable
    ++ " result_provider=" ++ flagWord types.resultProvider ++ "\n"
    ++ "\nProject is valid!\n"

section

variable {m : Type → Type} [Monad m] [FileAccess m]

def access {α : Type} (action : m (Except FileFault α)) (wrap : FileFault → CommandError) :
    ExceptT CommandError m α :=
  ExceptT.mk do
    let result ← action
    return result.mapError wrap

def readProject (path : String) : ExceptT CommandError m Project := do
  let bytes ← access (FileAccess.readFile path) (.projectUnreadable path)
  match JsonText.utf8Text? bytes with
  | none => throw (.projectUnreadable path .notText)
  | some text => liftExcept (Project.parse text)
where
  /-- A result as a step of the command. -/
  liftExcept {α : Type} (result : Except CommandError α) : ExceptT CommandError m α :=
    ExceptT.mk (pure result)

/-- The project to use: the file given, else the default file if it is there, else no settings. -/
def loadProject (path : Option String) : ExceptT CommandError m Project := do
  match path with
  | some path => readProject path
  | none =>
    if ← FileAccess.isPresent (m := m) defaultProjectFile then readProject defaultProjectFile
    else return {}

/-- Writes each class to its file in a directory. -/
def writeClasses (directory : String) : List PhpClass → ExceptT CommandError m Unit
  | [] => return ()
  | php :: rest => do
    let path := joinPath directory php.fileName
    access (FileAccess.writeFile path php.fileText) (.output path)
    writeClasses directory rest

/-- Generates the classes of a project and writes them to a directory. -/
def generate (metadata directory : String) (project : Option String) :
    ExceptT CommandError m Unit := do
  let project ← loadProject project
  ExceptT.mk (pure (project.validate.mapError .projectInvalid))
  let bytes ← access (FileAccess.readFile metadata) (.metadataUnreadable metadata)
  let classes ← ExceptT.mk (pure (classesToWrite project metadata bytes))
  access (makeDirectories directory) (.outputDirectory directory)
  writeClasses directory classes
  ExceptT.lift (FileAccess.print (generatedLine classes.length directory))

def check (project : Option String) : ExceptT CommandError m Unit := do
  let path := project.getD defaultProjectFile
  ExceptT.lift (FileAccess.print ("Checking project: " ++ path ++ "\n"))
  let project ← readProject path
  ExceptT.mk (pure (project.validate.mapError .projectInvalid))
  ExceptT.lift (FileAccess.print (validLines project))

end

end SoapClasses
