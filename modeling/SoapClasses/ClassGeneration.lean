import SoapClasses.Assemblers

/-!
# Generated classes

A type class is made by the capabilities that the settings ask for and then by one field per property.
A client class is made by its constructor and then by one method per operation. The first failure ends
the generation.
-/

namespace SoapClasses

/-- Runs a pipeline on each context in turn, up to the first failure. -/
def runOnAll (assemblers : List Assembler) :
    List GenerationContext → PhpClass → Except AssemblyError PhpClass
  | [], php => .ok php
  | context :: rest, php =>
    match runPipeline assemblers context php with
    | (.ok _, next) => runOnAll assemblers rest next
    | (.error error, _) => .error error

def GeneratorSettings.typePipeline (settings : GeneratorSettings) : List Assembler :=
  (if settings.typeClass.iterator then [.iterator] else [])
    ++ (if settings.typeClass.jsonSerializable then [.jsonSerializable] else [])
    ++ (if settings.typeClass.resultProvider then
        [.resultProvider settings.typeClass.resultWrapper] else [])

def GeneratorSettings.propertyPipeline (settings : GeneratorSettings) : List Assembler :=
  [.property settings.field]

def generateType (settings : GeneratorSettings) (schema : SchemaType) :
    Except AssemblyError PhpClass := do
  let php ← runOnAll settings.typePipeline [.schemaType schema]
    (PhpClass.fresh (className schema.name) schema.ns)
  runOnAll settings.propertyPipeline (schema.properties.map (.property schema)) php

def generateClient (client : ClientDescription) : Except AssemblyError PhpClass := do
  let php ← runOnAll [.clientConstructor] [.client] (PhpClass.fresh client.name client.ns)
  runOnAll [.clientMethod] (client.operations.map .operation) php

end SoapClasses
