import SoapClasses.GeneratorSettings
import SoapClasses.QualifiedNames

/-!
# Projects

A project says where generated classes go: settings, the name of the client class, and the class map
for a factory. It is valid when its names are identifiers and its namespaces are made of identifiers.
-/

namespace SoapClasses

/-- Where the client class is generated. -/
structure ClientSection where
  name : String
  ns : String := ""
  deriving DecidableEq, Repr

/-- The class map that the factory registers. -/
structure FactorySection where
  classmapName : String
  classmapNs : String := ""
  deriving DecidableEq, Repr

/-- A project. -/
structure Project where
  generator : GeneratorSettings := {}
  client : Option ClientSection := none
  factory : Option FactorySection := none
  deriving DecidableEq, Repr

/-- What is wrong with a project. -/
inductive ProjectError where
  | emptyClientName
  | invalidClientName (name : String)
  | invalidClientNamespace (ns : String)
  | factoryWithoutClient
  | invalidClassmapName (name : String)
  | invalidClassmapNamespace (ns : String)
  | invalidResultWrapper (name : String)
  deriving DecidableEq, Repr

def ProjectError.message : ProjectError → String
  | .emptyClientName => "Client name cannot be empty"
  | .invalidClientName name => "Invalid client class name: " ++ name
  | .invalidClientNamespace ns => "Invalid client namespace: " ++ ns
  | .factoryWithoutClient => "[factory] requires a [client] section"
  | .invalidClassmapName name => "Invalid classmap name: " ++ name
  | .invalidClassmapNamespace ns => "Invalid classmap namespace: " ++ ns
  | .invalidResultWrapper name => "Invalid result wrapper class: " ++ name

def demand (condition : Bool) (error : ProjectError) : Except ProjectError Unit :=
  if condition then .ok () else .error error

def ClientSection.validate (client : ClientSection) : Except ProjectError Unit := do
  demand (client.name != "") .emptyClientName
  demand (isIdentifier client.name) (.invalidClientName client.name)
  demand (isNamespace client.ns) (.invalidClientNamespace client.ns)

def FactorySection.validate (factory : FactorySection) : Except ProjectError Unit := do
  demand (isIdentifier factory.classmapName) (.invalidClassmapName factory.classmapName)
  demand (isNamespace factory.classmapNs) (.invalidClassmapNamespace factory.classmapNs)

def isWrapperName (wrapper : String) : Bool :=
  trimSeparators wrapper != "" && isNamespace wrapper

namespace Project

def validateClient (project : Project) : Except ProjectError Unit :=
  match project.client with
  | some client => client.validate
  | none => .ok ()

/-- Checks the factory section, if there is one, which needs a client section beside it. -/
def validateFactory (project : Project) : Except ProjectError Unit :=
  match project.factory with
  | some factory => do
    demand project.client.isSome .factoryWithoutClient
    factory.validate
  | none => .ok ()

/-- Checks the wrapper of results, if there is one. -/
def validateWrapper (project : Project) : Except ProjectError Unit :=
  match project.generator.typeClass.resultWrapper with
  | some wrapper => demand (isWrapperName wrapper) (.invalidResultWrapper wrapper)
  | none => .ok ()

/-- Checks all names of a project and reports the first that is wrong. -/
def validate (project : Project) : Except ProjectError Unit := do
  project.validateClient
  project.validateFactory
  project.validateWrapper

end Project

end SoapClasses
