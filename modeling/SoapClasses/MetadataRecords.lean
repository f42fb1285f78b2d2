import SoapClasses.RecordDecoding

/-!
# Service descriptions as records

Each kind of value in a service description is decoded from a tree and encoded as one. Encoding writes
every field, with null for what is absent; decoding what was encoded gives the value back.
-/

namespace SoapClasses

open JsonTree RecordForm

def encodeCount (count : UInt32) : JsonTree :=
  .integer count.toNat

/-- How deep the value of an upper bound may be nested; the whole text may have 127 levels, and six of
them are around the bound. -/
def upperBoundDepth : Nat := 121

namespace UpperBound

/-- An upper bound: a count, or the word for none, which may also be the key of a null. The value is
read to its end first. -/
def decode (tree : JsonTree) : Decoded UpperBound :=
  if tree.isReadable && tree.depth ≤ upperBoundDepth then
    match tree with
    | .text "unbounded" => .ok .unbounded
    | .object [(.text "unbounded", .null)] => .ok .unbounded
    | .integer value =>
      if 0 ≤ value && value < 0x100000000 then .ok (.atMost (UInt32.ofNat value.toNat))
      else .error .noUpperBound
    | _ => .error .noUpperBound
  else .error .malformed

def encode : UpperBound → JsonTree
  | .unbounded => .text "unbounded"
  | .atMost count => encodeCount count

end UpperBound

namespace SchemaFacts

/-- The fields of schema facts given so far. -/
structure Parts where
  docs : Option (Option String) := none
  isNullable : Option Bool := none
  isList : Option Bool := none
  minOccurs : Option (Option UInt32) := none
  maxOccurs : Option (Option UpperBound) := none

def form : RecordForm Parts SchemaFacts where
  name := "TypeMeta"
  keys := ["docs", "is_nullable", "is_list", "min_occurs", "max_occurs"]
  start := {}
  put parts key value := match key with
    | "docs" => do
      return { parts with docs := some (← fill key parts.docs (decodeOptional decodeText value)) }
    | "is_nullable" => do
      return { parts with isNullable := some (← fill key parts.isNullable (decodeFlag value)) }
    | "is_list" => do
      return { parts with isList := some (← fill key parts.isList (decodeFlag value)) }
    | "min_occurs" => do
      return { parts with
        minOccurs := some (← fill key parts.minOccurs (decodeOptional decodeCount value)) }
    | "max_occurs" => do
      return { parts with
        maxOccurs := some (← fill key parts.maxOccurs (decodeOptional UpperBound.decode value)) }
    | _ => .ok parts
  finish parts _ := .ok {
    docs := parts.docs.getD none
    isNullable := parts.isNullable.getD false
    isList := parts.isList.getD false
    minOccurs := parts.minOccurs.getD none
    maxOccurs := parts.maxOccurs.getD none }

def decode (tree : JsonTree) : Decoded SchemaFacts :=
  form.decode tree

def encode (facts : SchemaFacts) : JsonTree :=
  .record [
    ("docs", optional .text facts.docs),
    ("is_nullable", .bool facts.isNullable),
    ("is_list", .bool facts.isList),
    ("min_occurs", optional encodeCount facts.minOccurs),
    ("max_occurs", optional UpperBound.encode facts.maxOccurs)]

end SchemaFacts

namespace SchemaProperty

/-- The fields of a property given so far. -/
structure Parts where
  name : Option String := none
  typeName : Option String := none
  ns : Option String := none
  facts : Option SchemaFacts := none

def form : RecordForm Parts SchemaProperty where
  name := "Property"
  keys := ["name", "type", "namespace", "meta"]
  start := {}
  put parts key value := match key with
    | "name" => do return { parts with name := some (← fill key parts.name (decodeText value)) }
    | "type" => do
      return { parts with typeName := some (← fill key parts.typeName (decodeText value)) }
    | "namespace" => do return { parts with ns := some (← fill key parts.ns (decodeText value)) }
    | "meta" => do
      return { parts with facts := some (← fill key parts.facts (SchemaFacts.decode value)) }
    | _ => .ok parts
  finish parts missing := do
    let name ← required parts.name (missing 0 "name")
    let typeName ← required parts.typeName (missing 1 "type")
    let ns ← required parts.ns (missing 2 "namespace")
    return ⟨name, typeName, ns, parts.facts.getD {}⟩

def decode (tree : JsonTree) : Decoded SchemaProperty :=
  form.decode tree

def encode (property : SchemaProperty) : JsonTree :=
  .record [
    ("name", .text property.name),
    ("type", .text property.typeName),
    ("namespace", .text property.ns),
    ("meta", property.facts.encode)]

end SchemaProperty

namespace SchemaType

/-- The fields of a type given so far. -/
structure Parts where
  ns : Option String := none
  name : Option String := none
  properties : Option (List SchemaProperty) := none
  xsdType : Option (Option String) := none

/-- A type as it is declared, before its properties are compared. -/
structure Declared where
  ns : String
  name : String
  properties : List SchemaProperty
  xsdType : Option String

def form : RecordForm Parts Declared where
  name := "TypeDefinition"
  keys := ["namespace", "name", "properties", "xsd_type"]
  start := {}
  put parts key value := match key with
    | "namespace" => do return { parts with ns := some (← fill key parts.ns (decodeText value)) }
    | "name" => do return { parts with name := some (← fill key parts.name (decodeText value)) }
    | "properties" => do
      return { parts with
        properties := some (← fill key parts.properties (decodeList SchemaProperty.decode value)) }
    | "xsd_type" => do
      return { parts with
        xsdType := some (← fill key parts.xsdType (decodeOptional decodeText value)) }
    | _ => .ok parts
  finish parts missing := do
    let ns ← required parts.ns (missing 0 "namespace")
    let name ← required parts.name (missing 1 "name")
    return ⟨ns, name, parts.properties.getD [], parts.xsdType.getD none⟩

/-- The type of a declaration, unless two properties share a name. Without a schema type of its own it
comes from the schema type of its name. -/
def ofDeclared (declared : Declared) : Decoded SchemaType :=
  (ofProperties declared.ns declared.name declared.properties
    (declared.xsdType.getD declared.name)).mapError .duplicateProperty

def decode (tree : JsonTree) : Decoded SchemaType := do
  ofDeclared (← form.decode tree)

def encode (schema : SchemaType) : JsonTree :=
  .record [
    ("namespace", .text schema.ns),
    ("name", .text schema.name),
    ("properties", .array (schema.properties.map SchemaProperty.encode)),
    ("xsd_type", .text schema.xsdType)]

end SchemaType

namespace Argument

/-- The fields of an argument given so far. -/
structure Parts where
  name : Option String := none
  typeName : Option String := none

def form : RecordForm Parts Argument where
  name := "Parameter"
  keys := ["name", "type"]
  start := {}
  put parts key value := match key with
    | "name" => do return { parts with name := some (← fill key parts.name (decodeText value)) }
    | "type" => do
      return { parts with typeName := some (← fill key parts.typeName (decodeText value)) }
    | _ => .ok parts
  finish parts missing := do
    let name ← required parts.name (missing 0 "name")
    let typeName ← required parts.typeName (missing 1 "type")
    return ⟨name, typeName⟩

def decode (tree : JsonTree) : Decoded Argument :=
  form.decode tree

def encode (argument : Argument) : JsonTree :=
  .record [("name", .text argument.name), ("type", .text argument.typeName)]

end Argument

namespace ResultType

/-- The fields of a result type given so far. -/
structure Parts where
  typeName : Option String := none
  isMixed : Option Bool := none

def form : RecordForm Parts ResultType where
  name := "ReturnType"
  keys := ["type", "mixed_result"]
  start := {}
  put parts key value := match key with
    | "type" => do
      return { parts with typeName := some (← fill key parts.typeName (decodeText value)) }
    | "mixed_result" => do
      return { parts with isMixed := some (← fill key parts.isMixed (decodeFlag value)) }
    | _ => .ok parts
  finish parts missing := do
    let typeName ← required parts.typeName (missing 0 "type")
    return ⟨typeName, parts.isMixed.getD false⟩

def decode (tree : JsonTree) : Decoded ResultType :=
  form.decode tree

def encode (result : ResultType) : JsonTree :=
  .record [("type", .text result.typeName), ("mixed_result", .bool result.isMixed)]

end ResultType

namespace Operation

/-- The fields of an operation given so far. -/
structure Parts where
  name : Option String := none
  arguments : Option (List Argument) := none
  result : Option ResultType := none
  docs : Option (Option String) := none

def form : RecordForm Parts Operation where
  name := "ClientMethod"
  keys := ["name", "parameters", "return_type", "docs"]
  start := {}
  put parts key value := match key with
    | "name" => do return { parts with name := some (← fill key parts.name (decodeText value)) }
    | "parameters" => do
      return { parts with
        arguments := some (← fill key parts.arguments (decodeList Argument.decode value)) }
    | "return_type" => do
      return { parts with result := some (← fill key parts.result (ResultType.decode value)) }
    | "docs" => do
      return { parts with docs := some (← fill key parts.docs (decodeOptional decodeText value)) }
    | _ => .ok parts
  finish parts missing := do
    let name ← required parts.name (missing 0 "name")
    let result ← required parts.result (missing 2 "return_type")
    return ⟨name, parts.arguments.getD [], result, parts.docs.getD none⟩

def decode (tree : JsonTree) : Decoded Operation :=
  form.decode tree

def encode (operation : Operation) : JsonTree :=
  .record [
    ("name", .text operation.name),
    ("parameters", .array (operation.arguments.map Argument.encode)),
    ("return_type", operation.result.encode),
    ("docs", optional .text operation.docs)]

end Operation

namespace ClientDescription

/-- The fields of a client given so far. -/
structure Parts where
  name : Option String := none
  ns : Option String := none
  operations : Option (List Operation) := none

def form : RecordForm Parts ClientDescription where
  name := "Client"
  keys := ["name", "namespace", "methods"]
  start := {}
  put parts key value := match key with
    | "name" => do return { parts with name := some (← fill key parts.name (decodeText value)) }
    | "namespace" => do return { parts with ns := some (← fill key parts.ns (decodeText value)) }
    | "methods" => do
      return { parts with
        operations := some (← fill key parts.operations (decodeList Operation.decode value)) }
    | _ => .ok parts
  finish parts missing := do
    let name ← required parts.name (missing 0 "name")
    let ns ← required parts.ns (missing 1 "namespace")
    return ⟨name, ns, parts.operations.getD []⟩

def decode (tree : JsonTree) : Decoded ClientDescription :=
  form.decode tree

def encode (client : ClientDescription) : JsonTree :=
  .record [
    ("name", .text client.name),
    ("namespace", .text client.ns),
    ("methods", .array (client.operations.map Operation.encode))]

end ClientDescription

namespace ServiceDocument

/-- The fields of a document given so far. -/
structure Parts where
  types : Option (List SchemaType) := none
  client : Option (Option ClientDescription) := none

def form : RecordForm Parts ServiceDocument where
  name := "MetadataDocument"
  keys := ["types", "client"]
  start := {}
  put parts key value := match key with
    | "types" => do
      return { parts with
        types := some (← fill key parts.types (decodeList SchemaType.decode value)) }
    | "client" => do
      return { parts with
        client := some (← fill key parts.client
          (decodeOptional ClientDescription.decode value)) }
    | _ => .ok parts
  finish parts _ := .ok ⟨parts.types.getD [], parts.client.getD none⟩

def decode (tree : JsonTree) : Decoded ServiceDocument :=
  form.decode tree

def encode (document : ServiceDocument) : JsonTree :=
  .record [
    ("types", .array (document.types.map SchemaType.encode)),
    ("client", optional ClientDescription.encode document.client)]

end ServiceDocument

end SoapClasses
