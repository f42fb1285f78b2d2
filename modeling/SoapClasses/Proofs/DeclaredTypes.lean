import SoapClasses.Proofs.GeneratedTypes
import SoapClasses.Proofs.RenderedTypes

/-!
# Declared types

The class for a type and the references to it are named by different functions, one from the type and
one from the property that refers to it. They agree on every spelling of a name except for those of the
built-in types: a property of such a type has that type, whatever the service declares under its name.
-/

namespace SoapClasses

namespace SchemaProperty

variable {property : SchemaProperty} {settings : FieldSettings}

theorem renderType_hint (hsingle : property.facts.isList = false) (hhints : settings.typeHints = true) :
    (property.field settings).typeHint.map renderType =
      some (renderType ((if property.isNullable settings then "?" else "") ++ declaredType property)) := by
  simp only [field, hintedType, hhints, hsingle, Bool.false_eq_true, if_false, if_true,
    Option.map_some]
  cases property.isNullable settings <;> simp

theorem declaredType_eq {schema : SchemaType} (hname : property.typeName = schema.name)
    (hns : trimSeparators property.ns = trimSeparators schema.ns)
    (hclass : isBuiltinType schema.name = false) :
    declaredType property = "\\" ++ schema.identity.qualifiedName := by
  rw [declaredType, hname, hclass, if_neg Bool.false_ne_true, hns, ClassIdentity.qualifiedName,
    SchemaType.identity]

/-- What a property is declared with is written as the class for that type, or as the built-in type that
has its name, with and without a question mark. -/
theorem renderType_declaredType {schema : SchemaType} (hname : property.typeName = schema.name)
    (hns : trimSeparators property.ns = trimSeparators schema.ns) :
    renderType (declaredType property) = (if isBuiltinType schema.name then schema.name
        else absoluteName schema.identity.qualifiedName) ∧
      renderType ("?" ++ declaredType property) = "?" ++ (if isBuiltinType schema.name then schema.name
        else absoluteName schema.identity.qualifiedName) := by
  cases hbuiltin : isBuiltinType schema.name with
  | true =>
    have hdeclared : declaredType property = schema.name := by
      rw [declaredType, hname, hbuiltin, if_pos rfl]
    rw [hdeclared]
    exact renderType_of_isBuiltinType hbuiltin
  | false =>
    have hdeclared := declaredType_eq hname hns hbuiltin
    have habsolute : absoluteName (declaredType property) =
        absoluteName schema.identity.qualifiedName := by
      rw [hdeclared, absoluteName_separator]
    rw [if_neg Bool.false_ne_true, ← habsolute]
    have hseparator : (declaredType property).toList =
        '\\' :: schema.identity.qualifiedName.toList := by
      rw [hdeclared, String.toList_append]
      rfl
    exact renderType_of_separator hseparator

end SchemaProperty

/-- The type in the field for a property is the class for the type that the property refers to, unless
this type has the name of a built-in one; a question mark stands in front if and only if the property is
nullable or all are. -/
theorem typeHint_eq_absoluteName {settings : GeneratorSettings} {schema owner : SchemaType}
    {property : SchemaProperty} {definition php : PhpClass} (hproperty : property ∈ owner.properties)
    (hsingle : property.facts.isList = false) (hname : property.typeName = schema.name)
    (hns : trimSeparators property.ns = trimSeparators schema.ns)
    (hhints : settings.field.typeHints = true)
    (hdefinition : generateType settings schema = .ok definition)
    (hphp : generateType settings owner = .ok php) :
    ∃ field, php.fields.find? property.name = some field ∧ field.typeHint.map renderType =
      some ((if property.facts.isNullable || settings.field.optionalValue then "?" else "") ++
        if isBuiltinType schema.name then schema.name else absoluteName definition.qualifiedName) := by
  have hmade := SchemaType.madeInto_of_generateType hphp
  have hidentity := (SchemaType.madeInto_of_generateType hdefinition).identity
  obtain ⟨hwritten, hnullable⟩ := SchemaProperty.renderType_declaredType hname hns
  refine ⟨property.field settings.field, ?_, ?_⟩
  · rw [MemberTable.find?_eq_some_iff, hmade.fields]
    exact ⟨List.mem_map_of_mem hproperty, rfl⟩
  · rw [SchemaProperty.renderType_hint hsingle hhints, SchemaProperty.isNullable, hidentity]
    split
    · exact congrArg some hnullable
    · rw [String.empty_append, String.empty_append, hwritten]

namespace SchemaType

/-- A type without properties. -/
def ofName (name : String) : SchemaType :=
  ⟨"App\\Type", name, [], name, List.Pairwise.nil⟩

/-- A nullable property of a type that goes by this name; its namespace is spelled differently. -/
def referringProperty (typeName : String) : SchemaProperty :=
  ⟨"customer", typeName, "\\App\\Type\\", { isNullable := true }⟩

def referringTo (typeName : String) : SchemaType :=
  ⟨"App\\Type", "Order", [referringProperty typeName], "Order", List.pairwise_singleton _ _⟩

theorem exists_generateType_ofName (name : String) :
    ∃ php, generateType {} (ofName name) = .ok php :=
  exists_generateType_iff.mpr
    ⟨fun hprovides => absurd hprovides Bool.false_ne_true, fun _ hmem => absurd hmem List.not_mem_nil⟩

theorem exists_generateType_referringTo (typeName : String) :
    ∃ php, generateType {} (referringTo typeName) = .ok php := by
  refine exists_generateType_iff.mpr ⟨fun hprovides => absurd hprovides Bool.false_ne_true, ?_⟩
  intro property hmem
  rw [List.mem_singleton.mp hmem]
  show isIdentifier "customer" = true
  decide

end SchemaType

theorem typeHint_eq_absoluteName_nullable : ∃ php field,
    generateType {} (.referringTo "customer-record") = .ok php ∧
      php.fields.find? "customer" = some field ∧
      field.typeHint.map renderType = some "?\\App\\Type\\CustomerRecord" := by
  obtain ⟨definition, hdefinition⟩ := SchemaType.exists_generateType_ofName "customer-record"
  obtain ⟨php, hphp⟩ := SchemaType.exists_generateType_referringTo "customer-record"
  have hproperty : SchemaType.referringProperty "customer-record" ∈
      (SchemaType.referringTo "customer-record").properties := List.mem_cons_self
  obtain ⟨field, hfound, hhint⟩ := typeHint_eq_absoluteName
    hproperty rfl rfl (by decide +kernel) rfl hdefinition hphp
  refine ⟨php, field, hphp, hfound, hhint.trans ?_⟩
  rw [(SchemaType.madeInto_of_generateType hdefinition).identity]
  decide +kernel

/-- The class for a type with the name of a built-in one is not what the property has as its type. -/
theorem typeHint_ne_absoluteName_builtin :
    SchemaType.referringProperty "string" ∈ (SchemaType.referringTo "string").properties ∧
      trimSeparators (SchemaType.referringProperty "string").ns =
        trimSeparators (SchemaType.ofName "string").ns ∧
      ∃ definition php field, generateType {} (.ofName "string") = .ok definition ∧
      generateType {} (.referringTo "string") = .ok php ∧
      php.fields.find? "customer" = some field ∧
      field.typeHint.map renderType = some "?string" ∧
      "?" ++ absoluteName definition.qualifiedName = "?\\App\\Type\\StringType" := by
  obtain ⟨definition, hdefinition⟩ := SchemaType.exists_generateType_ofName "string"
  obtain ⟨php, hphp⟩ := SchemaType.exists_generateType_referringTo "string"
  refine ⟨List.mem_cons_self, by decide +kernel, definition, php,
    (SchemaType.referringProperty "string").field {}, hdefinition, hphp, ?_, by decide +kernel, ?_⟩
  · rw [MemberTable.find?_eq_some_iff, (SchemaType.madeInto_of_generateType hphp).fields]
    exact ⟨List.mem_cons_self, rfl⟩
  · rw [(SchemaType.madeInto_of_generateType hdefinition).identity]
    decide +kernel

end SoapClasses
