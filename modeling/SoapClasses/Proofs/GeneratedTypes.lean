import SoapClasses.Proofs.TypeLogs

/-!
# Generated types

When the class for a type can be generated, why it cannot otherwise, and what it consists of. As the
properties of a type have different names, no field replaces another one.
-/

namespace SoapClasses

/-- What the class for a type consists of. -/
structure SchemaType.MadeInto (settings : GeneratorSettings) (schema : SchemaType) (php : PhpClass) :
    Prop where
  identity : php.toClassIdentity = schema.identity
  fields : php.fields.toList = schema.properties.map (SchemaProperty.field · settings.field)
  interfaces : php.interfaces.toList = settings.interfaceNames
  methods : php.methods.toList = settings.capabilityMethods schema
  doc : php.doc = settings.classDoc schema
  doc_iff : php.doc.isSome = true ↔ "getIterator" ∈ php.methods.names
  imports : php.imports.ImportsExactly (fun name => name ∈ settings.referencedNames schema ∧
    2 ≤ (nameSegments name).length ∧ namespaceOf name ≠ schema.identity.ns)

namespace SchemaType

variable {settings : GeneratorSettings} {schema : SchemaType} {php : PhpClass}

theorem nodup_interfaceNames (settings : GeneratorSettings) : settings.interfaceNames.Nodup := by
  have hchosen : ∀ (chosen : Bool) (names : List String),
      List.Sublist (if chosen then names else []) names := by
    intro chosen names
    cases chosen <;> simp
  have hall : ([RuntimeNames.iteratorAggregate] ++ [RuntimeNames.jsonSerializable] ++
      [RuntimeNames.resultProviderInterface]).Nodup := by decide
  exact List.Nodup.sublist (((hchosen _ _).append (hchosen _ _)).append (hchosen _ _)) hall

theorem nodup_capabilityMethods (settings : GeneratorSettings) (schema : SchemaType) :
    ((settings.capabilityMethods schema).map Method.name).Nodup := by
  have hchosen : ∀ (chosen : Bool) (methods : List Method) (name : String),
      List.Sublist (methods.map Method.name) [name] →
        List.Sublist ((if chosen then methods else []).map Method.name) [name] := by
    intro chosen methods name h
    cases chosen
    · exact List.nil_sublist _
    · exact h
  have hfirst : ∀ (methodOf : SchemaProperty → Method) (name : String),
      (∀ property, (methodOf property).name = name) →
        List.Sublist ((schema.properties.head?.map methodOf).toList.map Method.name) [name] := by
    intro methodOf name h
    cases schema.properties.head? <;> simp [h]
  have hall : (["getIterator"] ++ ["jsonSerialize"] ++ ["getResult"]).Nodup := by decide
  unfold GeneratorSettings.capabilityMethods
  rw [List.map_append, List.map_append]
  refine List.Nodup.sublist ?_ hall
  refine ((hchosen _ _ _ ?_).append (hchosen _ _ _ ?_)).append (hchosen _ _ _ ?_)
  · exact hfirst _ _ (fun _ => rfl)
  · exact List.Sublist.refl _
  · exact hfirst _ _ (fun property => property.name_resultMethod _)

theorem forall_mem_capabilityMethods_iff {P : Method → Prop} (h : P schema.serializeMethod) :
    (∀ method ∈ settings.capabilityMethods schema, P method) ↔
      (settings.typeClass.iterator = true → ∀ first, schema.properties.head? = some first →
        P first.iteratorMethod) ∧
      (settings.typeClass.resultProvider = true → ∀ first, schema.properties.head? = some first →
        P (first.resultMethod (bareWrapper settings.typeClass.resultWrapper))) := by
  unfold GeneratorSettings.capabilityMethods
  cases settings.typeClass.iterator <;> cases settings.typeClass.jsonSerializable <;>
    cases settings.typeClass.resultProvider <;> cases schema.properties.head? <;> simp [h]

theorem isSome_classDoc_iff (settings : GeneratorSettings) (schema : SchemaType) :
    (settings.classDoc schema).isSome = true ↔
      "getIterator" ∈ (settings.capabilityMethods schema).map Method.name := by
  have hiterator : ∀ property : SchemaProperty, property.iteratorMethod.name = "getIterator" :=
    fun _ => rfl
  have hserialize : schema.serializeMethod.name = "jsonSerialize" := rfl
  unfold GeneratorSettings.classDoc GeneratorSettings.capabilityMethods
  cases settings.typeClass.iterator <;> cases settings.typeClass.jsonSerializable <;>
    cases settings.typeClass.resultProvider <;> cases schema.properties.head? <;>
    simp [hiterator, hserialize, SchemaProperty.name_resultMethod]

theorem dropLeadingSeparators_of_mem_referencedNames {name : String}
    (h : name ∈ settings.referencedNames schema) : dropLeadingSeparators name = name := by
  have hruntime : ∀ name ∈ capabilityNames, dropLeadingSeparators name = name :=
    fun _ hmem => (isClassName_capabilityNames hmem).1
  unfold GeneratorSettings.referencedNames at h
  split at h
  · rcases List.mem_append.mp h with h | h
    · rw [List.mem_singleton.mp h]
      exact hruntime _ (by simp [capabilityNames])
    · split at h
      · cases h
      · rw [List.mem_singleton.mp h]
        cases hbare : bareWrapper settings.typeClass.resultWrapper with
        | none => exact hruntime _ (by simp [capabilityNames])
        | some wrapper => exact dropLeadingSeparators_of_bareWrapper hbare
  · cases h

theorem madeInto_of_generateType (h : generateType settings schema = .ok php) :
    schema.MadeInto settings php := by
  obtain ⟨-, hphp⟩ := GeneratorSettings.generateType_eq_ok_iff_log.mp h
  have hidentity : php.toClassIdentity = schema.identity := by
    rw [hphp, PhpClass.toClassIdentity_extended]
    rfl
  have hmethods : php.methods.toList = settings.capabilityMethods schema := by
    rw [hphp, PhpClass.methods_extended, PhpClass.methods_fresh,
      GeneratorSettings.filterMap_method_typeLog]
    exact MemberTable.toList_putAll_empty _ (nodup_capabilityMethods settings schema)
  have hdoc : php.doc = settings.classDoc schema := by
    rw [hphp, PhpClass.doc_extended, PhpClass.doc_fresh, GeneratorSettings.filterMap_doc_typeLog]
    cases settings.classDoc schema <;> rfl
  refine ⟨hidentity, ?_, ?_, hmethods, hdoc, ?_, ?_⟩
  · rw [hphp, PhpClass.fields_extended, PhpClass.fields_fresh,
      GeneratorSettings.filterMap_field_typeLog]
    apply MemberTable.toList_putAll_empty
    rw [List.map_map]
    exact schema.distinct
  · rw [hphp, PhpClass.interfaces_extended, PhpClass.interfaces_fresh,
      GeneratorSettings.filterMap_interface_typeLog]
    apply MemberTable.toList_putAll_empty
    show (settings.interfaceNames.map (fun name => name)).Nodup
    rw [List.map_id']
    exact nodup_interfaceNames settings
  · rw [hdoc, isSome_classDoc_iff, ← hmethods]
    rfl
  · rw [hphp, PhpClass.imports_extended, PhpClass.imports_fresh,
      GeneratorSettings.filterMap_import_typeLog]
    exact ImportTable.importsExactly_filter
      (fun _ hmem => dropLeadingSeparators_of_mem_referencedNames hmem) schema.identity.liesOutside_iff

/-- The settings have nothing wrong with their wrapper as far as a type is concerned: it has to be made
of identifiers if the type provides a property as a result. -/
def WrapsWell (settings : GeneratorSettings) (schema : SchemaType) : Prop :=
  settings.typeClass.resultProvider = true → schema.properties ≠ [] →
    ∀ wrapper, bareWrapper settings.typeClass.resultWrapper = some wrapper →
      ∀ segment ∈ nameSegments wrapper, isIdentifier segment = true

theorem wrapperFault_eq_none_iff :
    settings.wrapperFault schema = none ↔ schema.WrapsWell settings := by
  unfold GeneratorSettings.wrapperFault wrapperFault WrapsWell
  cases settings.typeClass.resultProvider with
  | false => simp
  | true =>
    rw [if_pos rfl]
    cases schema.properties with
    | nil => simp
    | cons first rest =>
      cases hbare : bareWrapper settings.typeClass.resultWrapper with
      | none => simp
      | some wrapper => simp [classNameFault_of_bareWrapper hbare]

theorem exists_generateType_iff :
    (∃ php, generateType settings schema = .ok php) ↔
      schema.WrapsWell settings ∧
        ∀ property ∈ schema.properties, isIdentifier property.name = true := by
  simp only [GeneratorSettings.generateType_eq_ok_iff_log, exists_and_left, exists_eq, and_true,
    wrapperFault_eq_none_iff]

/-- A type with one property, in the namespace of its wrapper. -/
def ofOneProperty : SchemaType where
  ns := "App\\Type"
  name := "order-list"
  properties := [⟨"orders", "Order", "App\\Type", {}⟩]
  xsdType := "OrderList"
  distinct := by decide

/-- Settings that ask for all capabilities. -/
def allCapabilities : GeneratorSettings where
  typeClass := ⟨true, true, true, some "\\App\\Type\\Wrapper"⟩

end SchemaType

end SoapClasses
