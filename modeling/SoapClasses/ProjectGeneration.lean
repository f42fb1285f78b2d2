import SoapClasses.ClassGeneration
import SoapClasses.ClientFactories
import SoapClasses.Projects

/-!
# The classes of a project

A project and a service description give one class for each type, in their order, then the client
class and then its factory. The project may give the client another name and namespace, and it asks
for a factory by naming its class map. The first failure ends the generation.
-/

namespace SoapClasses

/-- Why the classes of a project cannot be generated. -/
inductive GenerationError where
  | type (name : String) (cause : AssemblyError)
  | client (name : String) (cause : AssemblyError)
  | factory (cause : AssemblyError)
  /-- A factory is asked for, and there is no client to make. -/
  | noClient
  deriving DecidableEq, Repr

/-- The wording of the error and of its cause, from the outside inwards. -/
def GenerationError.messages : GenerationError → List String
  | .type name cause => ("Failed to generate type " ++ name) :: cause.messages
  | .client name cause => ("Failed to generate client " ++ name) :: cause.messages
  | .factory cause => "Failed to generate client factory" :: cause.messages
  | .noClient => ["A factory was requested but the metadata declares no client"]

namespace Project

/-- The client of a service description, under the name and namespace of the project if it has them. -/
def clientFor (project : Project) (document : ServiceDocument) : Option ClientDescription :=
  document.client.map (fun client =>
    match project.client with
    | some named => { client with name := named.name, ns := trimSeparators named.ns }
    | none => client)

def typeClass (project : Project) (schema : SchemaType) : Except GenerationError PhpClass :=
  (generateType project.generator schema).mapError (.type schema.name)

/-- The factory of a client, if the project asks for it. -/
def factoryClasses (project : Project) (client : ClientDescription) :
    Except GenerationError (List PhpClass) :=
  match project.factory with
  | none => .ok []
  | some factory =>
    ((generateFactory (.factory
      (.ofParts client.name client.ns factory.classmapName factory.classmapNs))).mapError
        .factory).map (fun php => [php])

/-- The class of the client, and its factory if the project asks for one. -/
def clientClasses (project : Project) (document : ServiceDocument) :
    Except GenerationError (List PhpClass) :=
  match project.clientFor document with
  | some client => do
    let php ← (generateClient client).mapError (.client client.name)
    let factory ← project.factoryClasses client
    return php :: factory
  | none => if project.factory.isSome then .error .noClient else .ok []

def classes (project : Project) (document : ServiceDocument) :
    Except GenerationError (List PhpClass) := do
  let types ← document.types.mapM project.typeClass
  let client ← project.clientClasses document
  return types ++ client

end Project

end SoapClasses
