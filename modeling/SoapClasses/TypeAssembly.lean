import SoapClasses.AssemblyErrors
import SoapClasses.OccurrenceRanges
import SoapClasses.RuntimeNames
import SoapClasses.TypeReferences

/-!
# The capabilities of a type class

A type class can import names, implement interfaces, be iterated over its first property, serialise
all its properties, and provide its first property as a result.
-/

namespace SoapClasses

/-- Imports a name into a class. Names of the global namespace need no import; names of the namespace
of the class are imported under an alias only. A name that is imported already keeps its first alias. -/
def draftImport (owner : ClassIdentity) (name : String) (aliasName : Option String) :
    Draft AssemblyError Unit :=
  let bare := dropLeadingSeparators name
  Draft.mapError (.generation "UseAssembler" owner.qualifiedName bare)
    (match identifierSegments bare with
    | .error error => .fail error
    | .ok segments =>
      if segments.length < 2 then .done ()
      else if aliasName.isNone && joinText "\\" segments.dropLast == owner.ns then .done ()
      else .tell [.addImport bare aliasName])

/-- Declares that a class implements an interface, after importing it; declaring it again changes nothing. -/
def draftInterface (owner : ClassIdentity) (interface : String) : Draft AssemblyError Unit := do
  let bare := dropLeadingSeparators interface
  draftImport owner bare none
  Draft.tell [.addInterface bare]

namespace SchemaProperty

/-- The arguments of a collection type over the items of a property. -/
def generics (property : SchemaProperty) : String :=
  (OccurrenceRange.ofFacts property.facts).genericArguments (declaredType property)

def iteratorMethod (property : SchemaProperty) : Method where
  name := "getIterator"
  returnType := some RuntimeNames.arrayIterator
  body := "return new \\" ++ RuntimeNames.arrayIterator ++ "($this->" ++ property.name ++ ");"
  doc := some (((DocBlock.empty.withTag "return"
      ("\\" ++ RuntimeNames.arrayIterator ++ "|" ++ declaredType property ++ "[]")).withTag
    "phpstan-return" ("\\" ++ RuntimeNames.arrayIterator ++ property.generics)).withTag
    "psalm-return" ("\\" ++ RuntimeNames.arrayIterator ++ property.generics))

/-- The doc block of a class that is iterated over a property. -/
def iteratorDoc (property : SchemaProperty) : DocBlock :=
  (DocBlock.empty.withTag "phpstan-implements"
    ("\\" ++ RuntimeNames.iteratorAggregate ++ property.generics)).withTag
    "psalm-implements" ("\\" ++ RuntimeNames.iteratorAggregate ++ property.generics)

end SchemaProperty

/-- Makes a type iterable over its first property, if it has one. -/
def draftIterator (owner : ClassIdentity) (schema : SchemaType) : Draft AssemblyError Unit := do
  draftInterface owner RuntimeNames.iteratorAggregate
  match schema.properties with
  | [] => .done ()
  | first :: _ =>
    Draft.mapError (.generation "IteratorAssembler" owner.qualifiedName "getIterator") do
      Draft.edit (.putMethod first.iteratorMethod)
      Draft.edit (.setDoc first.iteratorDoc)

def serializedEntry (property : SchemaProperty) : String :=
  "    '" ++ property.name ++ "' => $this->" ++ property.name ++ ","

/-- The method that serialises all properties of a type, in their order. -/
def SchemaType.serializeMethod (schema : SchemaType) : Method where
  name := "jsonSerialize"
  returnType := some "array"
  body := joinText "\n" ("return [" :: (schema.properties.map serializedEntry ++ ["];"]))

def draftSerialization (owner : ClassIdentity) (schema : SchemaType) :
    Draft AssemblyError Unit := do
  draftInterface owner RuntimeNames.jsonSerializable
  Draft.mapError (.generation "JsonSerializableAssembler" owner.qualifiedName "jsonSerialize")
    (Draft.edit (.putMethod schema.serializeMethod))

/-- How a class refers to its wrapper: by the short name of an imported class, or by the absolute
name of a class of the global namespace. -/
def wrapperReference (wrapper : String) : String :=
  if isQualified wrapper then shortName wrapper else "\\" ++ wrapper

/-- The wrapper without leading backslashes, if anything is left of it. -/
def bareWrapper (wrapper : Option String) : Option String :=
  (wrapper.map dropLeadingSeparators).filter (fun name => name != "")

/-- The method that provides a property as the result, in the wrapper if there is one. -/
def SchemaProperty.resultMethod (property : SchemaProperty) (wrapper : Option String) : Method :=
  let method (body returned : String) : Method := {
    name := "getResult"
    returnType := some RuntimeNames.resultInterface
    body := body
    doc := some (DocBlock.empty.withTag "return" returned) }
  match wrapper with
  | some wrapper =>
    method ("return new " ++ wrapperReference wrapper ++ "($this->" ++ property.name ++ ");")
      (wrapperReference wrapper)
  | none =>
    method ("return $this->" ++ property.name ++ ";")
      (declaredType property ++ "|" ++ shortName RuntimeNames.resultInterface)

/-- Makes a type provide its first property, if it has one, as the result of an operation. -/
def draftResultProvider (owner : ClassIdentity) (wrapper : Option String) (schema : SchemaType) :
    Draft AssemblyError Unit := do
  draftInterface owner RuntimeNames.resultProviderInterface
  match schema.properties with
  | [] => .done ()
  | first :: _ => do
    let bare := bareWrapper wrapper
    draftImport owner (bare.getD RuntimeNames.resultInterface) none
    Draft.mapError (.generation "ResultProviderAssembler" owner.qualifiedName "getResult")
      (Draft.edit (.putMethod (first.resultMethod bare)))

end SoapClasses
