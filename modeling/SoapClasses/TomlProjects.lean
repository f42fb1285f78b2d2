import SoapClasses.ProjectRecords
import SoapClasses.TomlValues

/-!
# Projects in TOML

A project is read from the table of a TOML document. Settings that are left out have their usual values;
a setting of the wrong kind makes the whole document no project.
-/

namespace SoapClasses

/-- A visibility: a word, or a table with the word as its only name and nothing behind it. -/
def Visibility.ofToml? : TomlValue → Option Visibility
  | .text word => ofWord? word
  | .table [(word, value)] => if value.isEmpty then ofWord? word else none
  | _ => none

def FieldSettings.ofToml? (value : TomlValue) : Option FieldSettings := do
  let fields ← value.fields? form.keys
  let visibility ← readField? fields "visibility" Visibility.ofToml?
  let typeHints ← readField? fields "type_hints" TomlValue.flag?
  let docBlocks ← readField? fields "doc_blocks" TomlValue.flag?
  let optionalValue ← readField? fields "optional_value" TomlValue.flag?
  let usual : FieldSettings := {}
  return {
    visibility := visibility.getD usual.visibility
    typeHints := typeHints.getD usual.typeHints
    docBlocks := docBlocks.getD usual.docBlocks
    optionalValue := optionalValue.getD usual.optionalValue }

def TypeSettings.ofToml? (value : TomlValue) : Option TypeSettings := do
  let fields ← value.fields? form.keys
  let iterator ← readField? fields "iterator" TomlValue.flag?
  let jsonSerializable ← readField? fields "json_serializable" TomlValue.flag?
  let resultProvider ← readField? fields "result_provider" TomlValue.flag?
  let resultWrapper ← readField? fields "result_wrapper" TomlValue.text?
  let usual : TypeSettings := {}
  return {
    iterator := iterator.getD usual.iterator
    jsonSerializable := jsonSerializable.getD usual.jsonSerializable
    resultProvider := resultProvider.getD usual.resultProvider
    resultWrapper := resultWrapper }

def GeneratorSettings.ofToml? (value : TomlValue) : Option GeneratorSettings := do
  let fields ← value.fields? form.keys
  let field ← readField? fields "property" FieldSettings.ofToml?
  let typeClass ← readField? fields "type_assemblers" TypeSettings.ofToml?
  return ⟨field.getD {}, typeClass.getD {}⟩

def ClientSection.ofToml? (value : TomlValue) : Option ClientSection := do
  let fields ← value.fields? form.keys
  let name ← (← readField? fields "name" TomlValue.text?)
  let ns ← readField? fields "namespace" TomlValue.text?
  return ⟨name, ns.getD ""⟩

def FactorySection.ofToml? (value : TomlValue) : Option FactorySection := do
  let fields ← value.fields? form.keys
  let classmapName ← (← readField? fields "classmap_name" TomlValue.text?)
  let classmapNs ← readField? fields "classmap_namespace" TomlValue.text?
  return ⟨classmapName, classmapNs.getD ""⟩

def Project.ofToml? (value : TomlValue) : Option Project := do
  let fields ← value.fields? form.keys
  let generator ← readField? fields "generator" GeneratorSettings.ofToml?
  let client ← readField? fields "client" ClientSection.ofToml?
  let factory ← readField? fields "factory" FactorySection.ofToml?
  return ⟨generator.getD {}, client, factory⟩

end SoapClasses
