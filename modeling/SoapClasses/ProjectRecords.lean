import SoapClasses.Projects
import SoapClasses.RecordDecoding

/-!
# Settings and projects as records

Settings and projects are decoded from trees and encoded as trees in the same way as service
descriptions.
-/

namespace SoapClasses

open JsonTree RecordForm

namespace Visibility

def ofWord? : String → Option Visibility
  | "public" => some .publicMember
  | "protected" => some .protectedMember
  | "private" => some .privateMember
  | _ => none

/-- The visibility of a word, which is refused when it is none. -/
def decodeWord (word : String) : Decoded Visibility :=
  match ofWord? word with
  | some visibility => .ok visibility
  | none => .error (.unknownVariant word)

/-- A visibility in a tree: a word, or an object whose only key is the word of a null. -/
def decode : JsonTree → Decoded Visibility
  | .text word => decodeWord word
  | .object ((key, value) :: rest) =>
    match key with
    | .text word => do
      let visibility ← decodeWord word
      match value with
      | .null => if rest.isEmpty then .ok visibility else .error .malformed
      | value => .error (value.mismatch "unit")
    | key => .error (key.mismatch "variant identifier")
  | _ => .error .malformed

def encode (visibility : Visibility) : JsonTree :=
  .text visibility.word

end Visibility

namespace FieldSettings

/-- The settings of fields given so far. -/
structure Parts where
  visibility : Option Visibility := none
  typeHints : Option Bool := none
  docBlocks : Option Bool := none
  optionalValue : Option Bool := none

def form : RecordForm Parts FieldSettings where
  name := "PropertyAssemblerOptions"
  keys := ["visibility", "type_hints", "doc_blocks", "optional_value"]
  start := {}
  put parts key value := match key with
    | "visibility" => do
      return { parts with
        visibility := some (← fill key parts.visibility (Visibility.decode value)) }
    | "type_hints" => do
      return { parts with typeHints := some (← fill key parts.typeHints (decodeFlag value)) }
    | "doc_blocks" => do
      return { parts with docBlocks := some (← fill key parts.docBlocks (decodeFlag value)) }
    | "optional_value" => do
      return { parts with
        optionalValue := some (← fill key parts.optionalValue (decodeFlag value)) }
    | _ => .ok parts
  finish parts _ := .ok {
    visibility := parts.visibility.getD .privateMember
    typeHints := parts.typeHints.getD true
    docBlocks := parts.docBlocks.getD true
    optionalValue := parts.optionalValue.getD false }

def decode (tree : JsonTree) : Decoded FieldSettings :=
  form.decode tree

def encode (settings : FieldSettings) : JsonTree :=
  .record [
    ("visibility", settings.visibility.encode),
    ("type_hints", .bool settings.typeHints),
    ("doc_blocks", .bool settings.docBlocks),
    ("optional_value", .bool settings.optionalValue)]

end FieldSettings

namespace TypeSettings

/-- The settings of type classes given so far. -/
structure Parts where
  iterator : Option Bool := none
  jsonSerializable : Option Bool := none
  resultProvider : Option Bool := none
  resultWrapper : Option (Option String) := none

def form : RecordForm Parts TypeSettings where
  name := "TypeAssemblerOptions"
  keys := ["iterator", "json_serializable", "result_provider", "result_wrapper"]
  start := {}
  put parts key value := match key with
    | "iterator" => do
      return { parts with iterator := some (← fill key parts.iterator (decodeFlag value)) }
    | "json_serializable" => do
      return { parts with
        jsonSerializable := some (← fill key parts.jsonSerializable (decodeFlag value)) }
    | "result_provider" => do
      return { parts with
        resultProvider := some (← fill key parts.resultProvider (decodeFlag value)) }
    | "result_wrapper" => do
      return { parts with
        resultWrapper := some
          (← fill key parts.resultWrapper (decodeOptional decodeText value)) }
    | _ => .ok parts
  finish parts _ := .ok {
    iterator := parts.iterator.getD false
    jsonSerializable := parts.jsonSerializable.getD false
    resultProvider := parts.resultProvider.getD false
    resultWrapper := parts.resultWrapper.getD none }

def decode (tree : JsonTree) : Decoded TypeSettings :=
  form.decode tree

def encode (settings : TypeSettings) : JsonTree :=
  .record [
    ("iterator", .bool settings.iterator),
    ("json_serializable", .bool settings.jsonSerializable),
    ("result_provider", .bool settings.resultProvider),
    ("result_wrapper", optional .text settings.resultWrapper)]

end TypeSettings

namespace GeneratorSettings

/-- The settings of a generator given so far. -/
structure Parts where
  field : Option FieldSettings := none
  typeClass : Option TypeSettings := none

def form : RecordForm Parts GeneratorSettings where
  name := "GeneratorConfig"
  keys := ["property", "type_assemblers"]
  start := {}
  put parts key value := match key with
    | "property" => do
      return { parts with field := some (← fill key parts.field (FieldSettings.decode value)) }
    | "type_assemblers" => do
      return { parts with
        typeClass := some (← fill key parts.typeClass (TypeSettings.decode value)) }
    | _ => .ok parts
  finish parts _ := .ok ⟨parts.field.getD {}, parts.typeClass.getD {}⟩

def decode (tree : JsonTree) : Decoded GeneratorSettings :=
  form.decode tree

def encode (settings : GeneratorSettings) : JsonTree :=
  .record [
    ("property", settings.field.encode),
    ("type_assemblers", settings.typeClass.encode)]

end GeneratorSettings

namespace ClientSection

/-- The fields of a client section given so far. -/
structure Parts where
  name : Option String := none
  ns : Option String := none

def form : RecordForm Parts ClientSection where
  name := "ClientSection"
  keys := ["name", "namespace"]
  start := {}
  put parts key value := match key with
    | "name" => do return { parts with name := some (← fill key parts.name (decodeText value)) }
    | "namespace" => do return { parts with ns := some (← fill key parts.ns (decodeText value)) }
    | _ => .ok parts
  finish parts missing := do
    let name ← required parts.name (missing 0 "name")
    return ⟨name, parts.ns.getD ""⟩

def decode (tree : JsonTree) : Decoded ClientSection :=
  form.decode tree

def encode (client : ClientSection) : JsonTree :=
  .record [("name", .text client.name), ("namespace", .text client.ns)]

end ClientSection

namespace FactorySection

/-- The fields of a factory section given so far. -/
structure Parts where
  classmapName : Option String := none
  classmapNs : Option String := none

def form : RecordForm Parts FactorySection where
  name := "FactorySection"
  keys := ["classmap_name", "classmap_namespace"]
  start := {}
  put parts key value := match key with
    | "classmap_name" => do
      return { parts with
        classmapName := some (← fill key parts.classmapName (decodeText value)) }
    | "classmap_namespace" => do
      return { parts with classmapNs := some (← fill key parts.classmapNs (decodeText value)) }
    | _ => .ok parts
  finish parts missing := do
    let classmapName ← required parts.classmapName (missing 0 "classmap_name")
    return ⟨classmapName, parts.classmapNs.getD ""⟩

def decode (tree : JsonTree) : Decoded FactorySection :=
  form.decode tree

def encode (factory : FactorySection) : JsonTree :=
  .record [
    ("classmap_name", .text factory.classmapName),
    ("classmap_namespace", .text factory.classmapNs)]

end FactorySection

namespace Project

/-- The fields of a project given so far. -/
structure Parts where
  generator : Option GeneratorSettings := none
  client : Option (Option ClientSection) := none
  factory : Option (Option FactorySection) := none

def form : RecordForm Parts Project where
  name := "Project"
  keys := ["generator", "client", "factory"]
  start := {}
  put parts key value := match key with
    | "generator" => do
      return { parts with
        generator := some (← fill key parts.generator (GeneratorSettings.decode value)) }
    | "client" => do
      return { parts with
        client := some (← fill key parts.client (decodeOptional ClientSection.decode value)) }
    | "factory" => do
      return { parts with
        factory := some (← fill key parts.factory (decodeOptional FactorySection.decode value)) }
    | _ => .ok parts
  finish parts _ := .ok ⟨parts.generator.getD {}, parts.client.getD none, parts.factory.getD none⟩

def decode (tree : JsonTree) : Decoded Project :=
  form.decode tree

def encode (project : Project) : JsonTree :=
  .record [
    ("generator", project.generator.encode),
    ("client", optional ClientSection.encode project.client),
    ("factory", optional FactorySection.encode project.factory)]

end Project

end SoapClasses
