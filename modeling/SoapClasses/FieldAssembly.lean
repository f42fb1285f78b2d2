import SoapClasses.AssemblyErrors
import SoapClasses.GeneratorSettings
import SoapClasses.OccurrenceRanges
import SoapClasses.TypeReferences

/-!
# The field of a property

A property becomes a field. A repeated property is an array, documented with its range and items; a
nullable one, or any one if the settings say so, starts with null.
-/

namespace SoapClasses

namespace SchemaProperty

def isNullable (property : SchemaProperty) (settings : FieldSettings) : Bool :=
  property.facts.isNullable || settings.optionalValue

/-- The type of the field in its doc block. -/
def documentedType (property : SchemaProperty) : String :=
  if property.facts.isList then
    "array" ++ (OccurrenceRange.ofFacts property.facts).genericArguments (declaredType property)
  else declaredType property

def hintedType (property : SchemaProperty) : String :=
  if property.facts.isList then "array" else declaredType property

def fieldDoc (property : SchemaProperty) (settings : FieldSettings) : DocBlock :=
  (DocBlock.empty.withSummary (property.facts.docs.getD "")).withTag "var"
    (if property.isNullable settings then "null | " ++ property.documentedType
    else property.documentedType)

def field (property : SchemaProperty) (settings : FieldSettings) : Field where
  name := property.name
  visibility := settings.visibility
  typeHint :=
    if settings.typeHints then
      some (if property.isNullable settings then "?" ++ property.hintedType
        else property.hintedType)
    else none
  initial := if property.isNullable settings then some "null" else none
  doc := if settings.docBlocks then some (property.fieldDoc settings) else none

end SchemaProperty

/-- Gives a type class the field for a property. -/
def draftField (owner : ClassIdentity) (settings : FieldSettings) (property : SchemaProperty) :
    Draft AssemblyError Unit :=
  Draft.mapError (.generation "PropertyAssembler" owner.qualifiedName property.name)
    (Draft.edit (.putField (property.field settings)))

end SoapClasses
