import SoapClasses.Proofs.CapabilityDrafts
import SoapClasses.Proofs.PipelineRuns

/-!
# Logs of type classes

The class for a type is made by the steps for the capabilities that the settings ask for, and then by
one step for each property. So a faulty wrapper is reported before a faulty property. Without faults the
log of all edits is known, and every part of the class can be read off it.
-/

namespace SoapClasses

/-- The name and the namespace of the class for a type. -/
def SchemaType.identity (schema : SchemaType) : ClassIdentity where
  name := className schema.name
  ns := trimSeparators schema.ns

namespace GeneratorSettings

/-- The wrapper that is at fault for a type, with the reason. -/
def wrapperFault (settings : GeneratorSettings) (schema : SchemaType) :
    Option (String × NamingError) :=
  if settings.typeClass.resultProvider then schema.wrapperFault settings.typeClass.resultWrapper
  else none

/-- The edits that make the class for a type without faults. -/
def typeLog (settings : GeneratorSettings) (schema : SchemaType) (owner : ClassIdentity) :
    List ClassEdit :=
  (if settings.typeClass.iterator then schema.iteratorEdits else []) ++
    (if settings.typeClass.jsonSerializable then schema.serializationEdits else []) ++
    (if settings.typeClass.resultProvider then
      schema.providerEdits owner settings.typeClass.resultWrapper else []) ++
    schema.properties.map (fun property => .putField (property.field settings.field))

/-- The interfaces of every type class. -/
def interfaceNames (settings : GeneratorSettings) : List String :=
  (if settings.typeClass.iterator then [RuntimeNames.iteratorAggregate] else []) ++
    (if settings.typeClass.jsonSerializable then [RuntimeNames.jsonSerializable] else []) ++
    (if settings.typeClass.resultProvider then [RuntimeNames.resultProviderInterface] else [])

/-- The methods of the class for a type. Those about its first property need one. -/
def capabilityMethods (settings : GeneratorSettings) (schema : SchemaType) : List Method :=
  (if settings.typeClass.iterator then
    (schema.properties.head?.map SchemaProperty.iteratorMethod).toList else []) ++
    (if settings.typeClass.jsonSerializable then [schema.serializeMethod] else []) ++
    (if settings.typeClass.resultProvider then
      (schema.properties.head?.map (fun first =>
        first.resultMethod (bareWrapper settings.typeClass.resultWrapper))).toList else [])

/-- The doc block of the class for a type. -/
def classDoc (settings : GeneratorSettings) (schema : SchemaType) : Option DocBlock :=
  if settings.typeClass.iterator then schema.properties.head?.map SchemaProperty.iteratorDoc else none

/-- The names that the class for a type refers to in its imports. -/
def referencedNames (settings : GeneratorSettings) (schema : SchemaType) : List String :=
  if settings.typeClass.resultProvider then schema.providerNames settings.typeClass.resultWrapper
  else []

section

variable (settings : GeneratorSettings) (schema : SchemaType) (owner : ClassIdentity)

theorem typeSteps_eq : settings.typeSteps schema =
    settings.typePipeline.map (fun assembler => ⟨assembler, .schemaType schema⟩) ++
      schema.properties.map (fun property =>
        ⟨.property settings.field, .property schema property⟩) := by
  have haccepts : ∀ assembler ∈ settings.typePipeline,
      assembler.accepts (GenerationContext.schemaType schema).kind = true := by
    intro assembler hmem
    simp only [typePipeline, List.mem_append] at hmem
    rcases hmem with (hmem | hmem) | hmem
    all_goals
      split at hmem
      · rw [List.mem_singleton.mp hmem]
        rfl
      · cases hmem
  have hcapabilities : stepsOnAll settings.typePipeline [.schemaType schema] =
      settings.typePipeline.map (fun assembler => ⟨assembler, .schemaType schema⟩) := by
    rw [stepsOnAll, List.flatMap_singleton, stepsOn, List.filter_eq_self.mpr haccepts]
  have hfields : stepsOnAll settings.propertyPipeline (schema.properties.map (.property schema)) =
      schema.properties.map (fun property =>
        ⟨.property settings.field, .property schema property⟩) := by
    rw [propertyPipeline, stepsOnAll_singleton, List.map_map]
    · rfl
    · intro context hmem
      obtain ⟨property, _, rfl⟩ := List.mem_map.mp hmem
      rfl
  rw [typeSteps, hcapabilities, hfields]

theorem failure_resultProvider (wrapper : Option String) :
    GenerationStep.failure owner ⟨.resultProvider wrapper, .schemaType schema⟩ =
      (schema.wrapperFault wrapper).map (fun fault =>
        .generation "UseAssembler" owner.qualifiedName fault.1 fault.2) := by
  cases hfault : schema.wrapperFault wrapper with
  | none =>
    apply GenerationStep.failure_eq_none_iff.mpr
    exact congrArg Draft.outcome (draftResultProvider_eq owner hfault)
  | some fault =>
    apply GenerationStep.failure_eq_some_iff.mpr
    exact outcome_draftResultProvider_of_fault owner hfault

theorem firstFailure_capabilities :
    firstFailure owner
        (settings.typePipeline.map (fun assembler => ⟨assembler, .schemaType schema⟩)) =
      (settings.wrapperFault schema).map (fun fault =>
        .generation "UseAssembler" owner.qualifiedName fault.1 fault.2) := by
  have hiterator : GenerationStep.failure owner ⟨.iterator, .schemaType schema⟩ = none :=
    GenerationStep.failure_eq_none_iff.mpr (congrArg Draft.outcome (draftIterator_eq owner schema))
  have hserialization : GenerationStep.failure owner ⟨.jsonSerializable, .schemaType schema⟩ = none :=
    GenerationStep.failure_eq_none_iff.mpr
      (congrArg Draft.outcome (draftSerialization_eq owner schema))
  have hprovider := failure_resultProvider schema owner settings.typeClass.resultWrapper
  unfold typePipeline wrapperFault
  cases settings.typeClass.iterator <;> cases settings.typeClass.jsonSerializable <;>
    cases settings.typeClass.resultProvider <;>
    simp [firstFailure, hiterator, hserialization, hprovider]

theorem failure_property (property : SchemaProperty) :
    GenerationStep.failure owner ⟨.property settings.field, .property schema property⟩ =
      if isIdentifier property.name = true then none
      else some (.generation "PropertyAssembler" owner.qualifiedName property.name
        (.invalidIdentifier .property property.name)) := by
  cases hname : isIdentifier property.name with
  | true =>
    apply GenerationStep.failure_eq_none_iff.mpr
    exact congrArg Draft.outcome (draftField_of_isIdentifier owner hname)
  | false =>
    apply GenerationStep.failure_eq_some_iff.mpr
    exact congrArg Draft.outcome (draftField_of_not_isIdentifier owner hname)

theorem firstFailure_fields (properties : List SchemaProperty) :
    firstFailure owner (properties.map (fun property =>
        ⟨.property settings.field, .property schema property⟩)) =
      (properties.find? (fun property => !isIdentifier property.name)).map (fun property =>
        .generation "PropertyAssembler" owner.qualifiedName property.name
          (.invalidIdentifier .property property.name)) := by
  induction properties with
  | nil => rfl
  | cons property rest ih =>
    rw [List.map_cons, firstFailure, List.findSome?_cons, failure_property]
    cases hname : isIdentifier property.name with
    | true =>
      rw [List.find?_cons_of_neg (by simp [hname])]
      exact ih
    | false =>
      rw [List.find?_cons_of_pos (by simp [hname])]
      rfl

theorem firstFailure_typeSteps : firstFailure owner (settings.typeSteps schema) =
    ((settings.wrapperFault schema).map (fun fault =>
        .generation "UseAssembler" owner.qualifiedName fault.1 fault.2)).or
      ((schema.properties.find? (fun property => !isIdentifier property.name)).map (fun property =>
        .generation "PropertyAssembler" owner.qualifiedName property.name
          (.invalidIdentifier .property property.name))) := by
  rw [typeSteps_eq, firstFailure_append, firstFailure_capabilities, firstFailure_fields]

variable {settings schema}

theorem editLog_typeSteps (hwrapper : settings.wrapperFault schema = none)
    (hproperties : ∀ property ∈ schema.properties, isIdentifier property.name = true) :
    editLog owner (settings.typeSteps schema) = settings.typeLog schema owner := by
  have hiterator : (GenerationStep.draft owner ⟨.iterator, .schemaType schema⟩).edits =
      schema.iteratorEdits := congrArg Draft.edits (draftIterator_eq owner schema)
  have hserialization : (GenerationStep.draft owner ⟨.jsonSerializable, .schemaType schema⟩).edits =
      schema.serializationEdits := congrArg Draft.edits (draftSerialization_eq owner schema)
  have hfields : editLog owner (schema.properties.map (fun property =>
      ⟨.property settings.field, .property schema property⟩)) =
        schema.properties.map (fun property => .putField (property.field settings.field)) := by
    rw [editLog, List.flatMap_map, List.map_eq_flatMap]
    apply List.flatMap_congr
    intro property hmem
    exact congrArg Draft.edits (draftField_of_isIdentifier owner (hproperties property hmem))
  have hcapabilities : editLog owner
      (settings.typePipeline.map (fun assembler => ⟨assembler, .schemaType schema⟩)) =
        (if settings.typeClass.iterator then schema.iteratorEdits else []) ++
          (if settings.typeClass.jsonSerializable then schema.serializationEdits else []) ++
          (if settings.typeClass.resultProvider then
            schema.providerEdits owner settings.typeClass.resultWrapper else []) := by
    unfold wrapperFault at hwrapper
    unfold typePipeline
    cases hprovides : settings.typeClass.resultProvider with
    | false =>
      cases settings.typeClass.iterator <;> cases settings.typeClass.jsonSerializable <;>
        simp [editLog, hiterator, hserialization]
    | true =>
      rw [hprovides, if_pos rfl] at hwrapper
      have hprovider : (GenerationStep.draft owner
          ⟨.resultProvider settings.typeClass.resultWrapper, .schemaType schema⟩).edits =
            schema.providerEdits owner settings.typeClass.resultWrapper :=
        congrArg Draft.edits (draftResultProvider_eq owner hwrapper)
      cases settings.typeClass.iterator <;> cases settings.typeClass.jsonSerializable <;>
        simp [editLog, hiterator, hserialization, hprovider]
  rw [typeSteps_eq, editLog, List.flatMap_append]
  exact congrArg₂ (· ++ ·) hcapabilities hfields

/-- A type has a class exactly when neither its wrapper nor a property is at fault; then the class has
been extended by the log, from an empty class. -/
theorem generateType_eq_ok_iff_log {php : PhpClass} : generateType settings schema = .ok php ↔
    (settings.wrapperFault schema = none ∧
      ∀ property ∈ schema.properties, isIdentifier property.name = true) ∧
    php = (PhpClass.fresh (className schema.name) schema.ns).extended
      (settings.typeLog schema schema.identity) := by
  have hidentity : (PhpClass.fresh (className schema.name) schema.ns).toClassIdentity =
      schema.identity := rfl
  have hsound : firstFailure schema.identity (settings.typeSteps schema) = none ↔
      settings.wrapperFault schema = none ∧
        ∀ property ∈ schema.properties, isIdentifier property.name = true := by
    rw [firstFailure_typeSteps, Option.or_eq_none_iff, Option.map_eq_none_iff,
      Option.map_eq_none_iff, List.find?_eq_none]
    simp
  rw [generateType_eq_ok_iff, leads_iff_extended, hidentity, hsound]
  apply and_congr_right
  rintro ⟨hwrapper, hproperties⟩
  rw [editLog_typeSteps _ hwrapper hproperties]

end

section

variable (settings : GeneratorSettings) (schema : SchemaType) (owner : ClassIdentity)

theorem filterMap_typeLog {α : Type} (part : ClassEdit → Option α) :
    (settings.typeLog schema owner).filterMap part =
      (if settings.typeClass.iterator then schema.iteratorEdits.filterMap part else []) ++
        (if settings.typeClass.jsonSerializable then schema.serializationEdits.filterMap part
          else []) ++
        (if settings.typeClass.resultProvider then
          (schema.providerEdits owner settings.typeClass.resultWrapper).filterMap part else []) ++
        schema.properties.filterMap (fun property =>
          part (.putField (property.field settings.field))) := by
  have hchosen : ∀ (chosen : Bool) (changes : List ClassEdit),
      (if chosen then changes else []).filterMap part =
        if chosen then changes.filterMap part else [] := by
    intro chosen changes
    cases chosen <;> rfl
  have hfields : (schema.properties.map (fun property =>
      ClassEdit.putField (property.field settings.field))).filterMap part =
        schema.properties.filterMap (fun property =>
          part (.putField (property.field settings.field))) :=
    List.filterMap_map
  rw [typeLog, List.filterMap_append, List.filterMap_append, List.filterMap_append, hchosen, hchosen,
    hchosen, hfields]

theorem filterMap_interface_typeLog :
    (settings.typeLog schema owner).filterMap ClassEdit.interface? = settings.interfaceNames := by
  have hbare : ∀ name ∈ capabilityNames, dropLeadingSeparators name = name :=
    fun _ hmem => (isClassName_capabilityNames hmem).1
  have hiterator := hbare RuntimeNames.iteratorAggregate (by simp [capabilityNames])
  have hserializable := hbare RuntimeNames.jsonSerializable (by simp [capabilityNames])
  have hprovider := hbare RuntimeNames.resultProviderInterface (by simp [capabilityNames])
  have hiteration : schema.iteratorEdits.filterMap ClassEdit.interface? =
      [RuntimeNames.iteratorAggregate] := by
    unfold SchemaType.iteratorEdits
    cases schema.properties.head? <;> simp [ClassEdit.interface?, hiterator]
  have hserialization : schema.serializationEdits.filterMap ClassEdit.interface? =
      [RuntimeNames.jsonSerializable] := by
    simp [SchemaType.serializationEdits, ClassEdit.interface?, hserializable]
  have hprovision := schema.filterMap_providerEdits owner settings.typeClass.resultWrapper
    ClassEdit.interface? (fun _ => rfl)
  rw [filterMap_typeLog, hiteration, hserialization, hprovision]
  simp [interfaceNames, ClassEdit.interface?, hprovider]

theorem filterMap_field_typeLog :
    (settings.typeLog schema owner).filterMap ClassEdit.field? =
      schema.properties.map (SchemaProperty.field · settings.field) := by
  have hiteration : schema.iteratorEdits.filterMap ClassEdit.field? = [] := by
    unfold SchemaType.iteratorEdits
    cases schema.properties.head? <;> rfl
  have hserialization : schema.serializationEdits.filterMap ClassEdit.field? = [] := rfl
  have hprovision := schema.filterMap_providerEdits owner settings.typeClass.resultWrapper
    ClassEdit.field? (fun _ => rfl)
  rw [filterMap_typeLog, hiteration, hserialization, hprovision]
  simp [ClassEdit.field?]

theorem filterMap_method_typeLog :
    (settings.typeLog schema owner).filterMap ClassEdit.method? =
      settings.capabilityMethods schema := by
  have hiteration : schema.iteratorEdits.filterMap ClassEdit.method? =
      (schema.properties.head?.map SchemaProperty.iteratorMethod).toList := by
    unfold SchemaType.iteratorEdits
    cases schema.properties.head? <;> rfl
  have hserialization : schema.serializationEdits.filterMap ClassEdit.method? =
      [schema.serializeMethod] := rfl
  have hprovision : (schema.providerEdits owner settings.typeClass.resultWrapper).filterMap
      ClassEdit.method? = (schema.properties.head?.map (fun first =>
        first.resultMethod (bareWrapper settings.typeClass.resultWrapper))).toList := by
    rw [schema.filterMap_providerEdits owner _ ClassEdit.method? (fun _ => rfl), Option.map_eq_bind]
    rfl
  rw [filterMap_typeLog, hiteration, hserialization, hprovision]
  simp [capabilityMethods, ClassEdit.method?]

theorem filterMap_doc_typeLog :
    (settings.typeLog schema owner).filterMap ClassEdit.doc? = (settings.classDoc schema).toList := by
  have hiteration : schema.iteratorEdits.filterMap ClassEdit.doc? =
      (schema.properties.head?.map SchemaProperty.iteratorDoc).toList := by
    unfold SchemaType.iteratorEdits
    cases schema.properties.head? <;> rfl
  have hserialization : schema.serializationEdits.filterMap ClassEdit.doc? = [] := rfl
  have hprovision := schema.filterMap_providerEdits owner settings.typeClass.resultWrapper
    ClassEdit.doc? (fun _ => rfl)
  rw [filterMap_typeLog, hiteration, hserialization, hprovision]
  unfold classDoc
  cases settings.typeClass.iterator <;> simp [ClassEdit.doc?]

theorem filterMap_import_typeLog :
    (settings.typeLog schema owner).filterMap ClassEdit.import? =
      ((settings.referencedNames schema).filter owner.liesOutside).map
        (fun name => ⟨name, none⟩) := by
  have hiteration : schema.iteratorEdits.filterMap ClassEdit.import? = [] := by
    unfold SchemaType.iteratorEdits
    cases schema.properties.head? <;> rfl
  have hserialization : schema.serializationEdits.filterMap ClassEdit.import? = [] := rfl
  have hprovision := schema.filterMap_import_providerEdits owner settings.typeClass.resultWrapper
  rw [filterMap_typeLog, hiteration, hserialization, hprovision]
  unfold referencedNames
  cases settings.typeClass.resultProvider <;> simp [ClassEdit.import?]

end

end GeneratorSettings

end SoapClasses
