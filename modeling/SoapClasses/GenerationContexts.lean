import SoapClasses.QualifiedNames
import SoapClasses.ServiceMetadata

/-!
# Contexts of a generation step

A step is given what it is about: the client, one of its operations, a type, one of the properties of
a type, or the names for a client factory.
-/

namespace SoapClasses

/-- The names that a client factory is made of. Namespaces carry no backslashes at their ends. -/
structure FactoryNames where
  clientName : String
  clientNs : String
  classmapName : String
  classmapNs : String
  deriving DecidableEq, Repr

namespace FactoryNames

/-- The names, with the backslashes at the ends of the namespaces taken away. -/
def ofParts (clientName clientNs classmapName classmapNs : String) : FactoryNames where
  clientName := clientName
  clientNs := trimSeparators clientNs
  classmapName := classmapName
  classmapNs := trimSeparators classmapNs

def client (names : FactoryNames) : String :=
  qualify names.clientNs names.clientName

def classmap (names : FactoryNames) : String :=
  qualify names.classmapNs names.classmapName

def factoryName (names : FactoryNames) : String :=
  names.clientName ++ "Factory"

/-- The full name of the factory, which lives beside the client. -/
def factory (names : FactoryNames) : String :=
  qualify names.clientNs names.factoryName

end FactoryNames

/-- What a generation step is about. -/
inductive GenerationContext where
  | client
  | operation (operation : Operation)
  | schemaType (schema : SchemaType)
  | property (schema : SchemaType) (property : SchemaProperty)
  | factory (names : FactoryNames)
  deriving DecidableEq, Repr

/-- The kinds of contexts. -/
inductive ContextKind where
  | client
  | operation
  | schemaType
  | property
  | factory
  deriving DecidableEq, Repr

def ContextKind.text : ContextKind → String
  | .client => "ClientContext"
  | .operation => "ClientMethodContext"
  | .schemaType => "TypeContext"
  | .property => "PropertyContext"
  | .factory => "ClientFactoryContext"

def GenerationContext.kind : GenerationContext → ContextKind
  | .client => .client
  | .operation _ => .operation
  | .schemaType _ => .schemaType
  | .property _ _ => .property
  | .factory _ => .factory

/-- Whether a step of this kind works on a class. Only a factory is made from names alone. -/
def ContextKind.hasClass : ContextKind → Bool
  | .factory => false
  | _ => true

end SoapClasses
