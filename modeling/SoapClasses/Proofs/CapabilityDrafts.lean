import SoapClasses.Proofs.ReferencedNames
import SoapClasses.Proofs.StepEndings

/-!
# Drafts of capabilities

What the steps of a type class draft is told by the settings and the type. Interfaces have fixed names
that are never refused, so among the capabilities only the wrapper of results can be at fault, and only
if there is a property to wrap. A field is at fault by its own name.
-/

namespace SoapClasses

open Draft

/-- Whether a class needs an import for a name that it implements or wraps with: the name lies in a
namespace, and not in that of the class. -/
def ClassIdentity.liesOutside (owner : ClassIdentity) (name : String) : Bool :=
  isQualified name && namespaceOf name != owner.ns

theorem ClassIdentity.liesOutside_iff (owner : ClassIdentity) (name : String) :
    owner.liesOutside name = true ↔
      2 ≤ (nameSegments name).length ∧ namespaceOf name ≠ owner.ns := by
  rw [liesOutside, Bool.and_eq_true, isQualified_iff, bne_iff_ne]

namespace SchemaType

/-- The edits that make a class iterable over the first property of a type. -/
def iteratorEdits (schema : SchemaType) : List ClassEdit :=
  .addInterface RuntimeNames.iteratorAggregate ::
    match schema.properties.head? with
    | none => []
    | some first => [.putMethod first.iteratorMethod, .setDoc first.iteratorDoc]

def serializationEdits (schema : SchemaType) : List ClassEdit :=
  [.addInterface RuntimeNames.jsonSerializable, .putMethod schema.serializeMethod]

/-- The names that a provider of results refers to. -/
def providerNames (schema : SchemaType) (wrapper : Option String) : List String :=
  [RuntimeNames.resultProviderInterface] ++
    if schema.properties.isEmpty = true then []
    else [(bareWrapper wrapper).getD RuntimeNames.resultInterface]

/-- The edits that make a class provide the first property of a type as the result. -/
def providerEdits (schema : SchemaType) (owner : ClassIdentity) (wrapper : Option String) :
    List ClassEdit :=
  importEdits owner.liesOutside [RuntimeNames.resultProviderInterface] ++
    [.addInterface RuntimeNames.resultProviderInterface] ++
    match schema.properties.head? with
    | none => []
    | some first =>
      importEdits owner.liesOutside [(bareWrapper wrapper).getD RuntimeNames.resultInterface] ++
        [.putMethod (first.resultMethod (bareWrapper wrapper))]

/-- The wrapper that is at fault when a type provides results, with the reason. -/
def wrapperFault (schema : SchemaType) (wrapper : Option String) : Option (String × NamingError) :=
  if schema.properties.isEmpty = true then none
  else (bareWrapper wrapper).bind (fun name => (classNameFault name).map (fun cause => (name, cause)))

section

variable (schema : SchemaType) (owner : ClassIdentity) (wrapper : Option String)

theorem filterMap_providerEdits {α : Type} (part : ClassEdit → Option α)
    (h : ∀ name, part (.addImport name none) = none) :
    (schema.providerEdits owner wrapper).filterMap part =
      (part (.addInterface RuntimeNames.resultProviderInterface)).toList ++
        (schema.properties.head?.bind (fun first =>
          part (.putMethod (first.resultMethod (bareWrapper wrapper))))).toList := by
  unfold providerEdits
  rw [List.filterMap_append, List.filterMap_append, filterMap_importEdits h, List.nil_append,
    ClassEdit.filterMap_singleton]
  cases schema.properties with
  | nil => rfl
  | cons first rest =>
    simp only [List.head?_cons, Option.bind_some, List.filterMap_append, filterMap_importEdits h,
      ClassEdit.filterMap_singleton, List.nil_append]

theorem filterMap_import_providerEdits :
    (schema.providerEdits owner wrapper).filterMap ClassEdit.import? =
      ((schema.providerNames wrapper).filter owner.liesOutside).map (fun name => ⟨name, none⟩) := by
  have hinterface : [ClassEdit.addInterface RuntimeNames.resultProviderInterface].filterMap
      ClassEdit.import? = [] := rfl
  unfold providerEdits providerNames
  rw [List.filter_append, List.map_append, List.filterMap_append, List.filterMap_append,
    filterMap_import_importEdits, hinterface, List.append_nil]
  cases schema.properties with
  | nil => rfl
  | cons first rest =>
    simp only [List.head?_cons, List.filterMap_append, filterMap_import_importEdits]
    exact congrArg (_ ++ ·) (List.append_nil _)

end

end SchemaType

section

variable (owner : ClassIdentity)

theorem draftImport_of_isClassName {name : String} (hbare : dropLeadingSeparators name = name)
    (h : IsClassName name) :
    draftImport owner name none = ⟨importEdits owner.liesOutside [name], .ok ()⟩ := by
  have hsegments := identifierSegments_of_isClassName h
  have hns : namespaceOf name = joinText "\\" (nameSegments name).dropLast := by
    rw [namespaceOf, hbare]
  rw [hbare] at hsegments
  unfold draftImport
  simp only [hbare, hsegments, ← hns]
  cases hqualified : isQualified name with
  | false =>
    have hshort : (nameSegments name).length < 2 := by
      apply Nat.lt_of_not_le
      rw [← isQualified_iff, hqualified]
      exact Bool.false_ne_true
    have hneeded : owner.liesOutside name = false := by
      simp [ClassIdentity.liesOutside, hqualified]
    rw [if_pos hshort, importEdits_of_not_needed hneeded]
    rfl
  | true =>
    have hlong : ¬ (nameSegments name).length < 2 := by
      rw [Nat.not_lt, ← isQualified_iff, hqualified]
    rw [if_neg hlong]
    by_cases hinside : namespaceOf name = owner.ns
    · simp [hinside, importEdits, ClassIdentity.liesOutside, Draft.mapError, Draft.done,
        Except.mapError]
    · simp [hinside, importEdits, ClassIdentity.liesOutside, hqualified, Draft.mapError, Draft.tell,
        Except.mapError]

theorem draftImport_of_fault {name : String} {cause : NamingError}
    (hbare : dropLeadingSeparators name = name) (h : classNameFault name = some cause) :
    draftImport owner name none =
      .fail (.generation "UseAssembler" owner.qualifiedName name cause) := by
  unfold draftImport
  simp only [hbare, identifierSegments_of_fault h]
  rfl

theorem draftInterface_of_isClassName {name : String} (hbare : dropLeadingSeparators name = name)
    (h : IsClassName name) :
    draftInterface owner name =
      ⟨importEdits owner.liesOutside [name] ++ [.addInterface name], .ok ()⟩ := by
  unfold draftInterface
  simp only [hbare, draftImport_of_isClassName owner hbare h, mk_ok_bind]
  rfl

/-- The names that the capabilities refer to by themselves. -/
def capabilityNames : List String := [RuntimeNames.iteratorAggregate, RuntimeNames.jsonSerializable,
  RuntimeNames.resultProviderInterface, RuntimeNames.resultInterface]

theorem isClassName_capabilityNames {name : String} (h : name ∈ capabilityNames) :
    dropLeadingSeparators name = name ∧ IsClassName name := by
  have hsegments : ∀ name ∈ capabilityNames, (nameSegments name).all isIdentifier = true := by
    decide +kernel
  exact isClassName_of_nameSegments (hsegments name h)

theorem draftInterface_of_mem_capabilityNames (name : String) (h : name ∈ capabilityNames) :
    draftInterface owner name =
      ⟨importEdits owner.liesOutside [name] ++ [.addInterface name], .ok ()⟩ := by
  obtain ⟨hbare, hclass⟩ := isClassName_capabilityNames h
  exact draftInterface_of_isClassName owner hbare hclass

theorem importEdits_globalInterface :
    importEdits owner.liesOutside [RuntimeNames.iteratorAggregate] = [] ∧
      importEdits owner.liesOutside [RuntimeNames.jsonSerializable] = [] := by
  have hiterator : isQualified RuntimeNames.iteratorAggregate = false := by decide
  have hserializable : isQualified RuntimeNames.jsonSerializable = false := by decide
  constructor
  · exact importEdits_of_not_needed (by simp [ClassIdentity.liesOutside, hiterator])
  · exact importEdits_of_not_needed (by simp [ClassIdentity.liesOutside, hserializable])

variable (schema : SchemaType)

theorem draftIterator_eq : draftIterator owner schema = ⟨schema.iteratorEdits, .ok ()⟩ := by
  have hinterface := draftInterface_of_mem_capabilityNames owner RuntimeNames.iteratorAggregate
    (by simp [capabilityNames])
  rw [(importEdits_globalInterface owner).1] at hinterface
  unfold draftIterator SchemaType.iteratorEdits
  rw [hinterface, mk_ok_bind]
  cases hproperties : schema.properties with
  | nil => rfl
  | cons first rest =>
    have hidentifier : isIdentifier "getIterator" = true := by decide
    have hmethod : Draft.edit (.putMethod first.iteratorMethod) =
        Draft.tell [.putMethod first.iteratorMethod] :=
      edit_of_check (check_of_capability hidentifier rfl rfl)
    simp only [hmethod]
    rfl

theorem draftSerialization_eq :
    draftSerialization owner schema = ⟨schema.serializationEdits, .ok ()⟩ := by
  have hinterface := draftInterface_of_mem_capabilityNames owner RuntimeNames.jsonSerializable
    (by simp [capabilityNames])
  rw [(importEdits_globalInterface owner).2] at hinterface
  have hidentifier : isIdentifier "jsonSerialize" = true := by decide
  have hmethod : Draft.edit (.putMethod schema.serializeMethod) =
      Draft.tell [.putMethod schema.serializeMethod] :=
    edit_of_check (check_of_capability hidentifier rfl rfl)
  unfold draftSerialization SchemaType.serializationEdits
  rw [hinterface, mk_ok_bind, hmethod]
  rfl

section

variable {wrapper : Option String} {name : String}

theorem dropLeadingSeparators_of_bareWrapper (h : bareWrapper wrapper = some name) :
    dropLeadingSeparators name = name := by
  obtain ⟨hname, _⟩ := Option.filter_eq_some_iff.mp h
  obtain ⟨spelling, _, rfl⟩ := Option.map_eq_some_iff.mp hname
  exact dropLeadingSeparators_idem spelling

theorem bareWrapper_some (h : dropLeadingSeparators name ≠ "") :
    bareWrapper (some name) = some (dropLeadingSeparators name) := by
  simp [bareWrapper, h]

/-- A wrapper of which something is left is at fault by one of its segments. -/
theorem classNameFault_of_bareWrapper (h : bareWrapper wrapper = some name) :
    classNameFault name = ((nameSegments name).find? (fun segment => !isIdentifier segment)).map
      (.invalidIdentifier .typeName) := by
  have hne : name ≠ "" := by simpa using (Option.filter_eq_some_iff.mp h).2
  rw [classNameFault, dropLeadingSeparators_of_bareWrapper h, if_neg hne]

end

variable {schema} {wrapper : Option String}

theorem draftResultProvider_eq (h : schema.wrapperFault wrapper = none) :
    draftResultProvider owner wrapper schema = ⟨schema.providerEdits owner wrapper, .ok ()⟩ := by
  have hinterface := draftInterface_of_mem_capabilityNames owner RuntimeNames.resultProviderInterface
    (by simp [capabilityNames])
  unfold draftResultProvider SchemaType.providerEdits
  rw [hinterface, mk_ok_bind]
  cases hproperties : schema.properties with
  | nil => simp [Draft.done]
  | cons first rest =>
    have himport : draftImport owner ((bareWrapper wrapper).getD RuntimeNames.resultInterface) none =
        ⟨importEdits owner.liesOutside [(bareWrapper wrapper).getD RuntimeNames.resultInterface],
          .ok ()⟩ := by
      cases hbare : bareWrapper wrapper with
      | none =>
        obtain ⟨hname, hclass⟩ := isClassName_capabilityNames
          (show RuntimeNames.resultInterface ∈ capabilityNames by simp [capabilityNames])
        exact draftImport_of_isClassName owner hname hclass
      | some name =>
        have hfault : classNameFault name = none := by
          simpa [SchemaType.wrapperFault, hproperties, hbare] using h
        exact draftImport_of_isClassName owner (dropLeadingSeparators_of_bareWrapper hbare)
          (classNameFault_eq_none_iff.mp hfault)
    have hidentifier : isIdentifier "getResult" = true := by decide
    have hmethod : Draft.edit (.putMethod (first.resultMethod (bareWrapper wrapper))) =
        Draft.tell [.putMethod (first.resultMethod (bareWrapper wrapper))] :=
      edit_of_check (check_of_capability hidentifier (first.name_resultMethod _)
        (first.parameters_resultMethod _))
    simp only [himport, mk_ok_bind, hmethod]
    simp [Draft.mapError, Draft.tell, Except.mapError]

/-- A faulty wrapper is refused after the interface has been declared. -/
theorem outcome_draftResultProvider_of_fault {name : String} {cause : NamingError}
    (h : schema.wrapperFault wrapper = some (name, cause)) :
    (draftResultProvider owner wrapper schema).outcome =
      .error (.generation "UseAssembler" owner.qualifiedName name cause) := by
  have hinterface := draftInterface_of_mem_capabilityNames owner RuntimeNames.resultProviderInterface
    (by simp [capabilityNames])
  unfold SchemaType.wrapperFault at h
  unfold draftResultProvider
  rw [hinterface, mk_ok_bind]
  cases hproperties : schema.properties with
  | nil => simp [hproperties] at h
  | cons first rest =>
    simp only [hproperties, List.isEmpty_cons, Bool.false_eq_true, if_false] at h
    obtain ⟨bare, hbare, hcause⟩ := Option.bind_eq_some_iff.mp h
    obtain ⟨fault, hfault, heq⟩ := Option.map_eq_some_iff.mp hcause
    cases heq
    have himport := draftImport_of_fault owner (dropLeadingSeparators_of_bareWrapper hbare) hfault
    simp only [hbare, Option.getD_some, himport]
    rfl

theorem wrapperFault_of_succeeds (h : (draftResultProvider owner wrapper schema).outcome = .ok ()) :
    schema.wrapperFault wrapper = none := by
  cases hfault : schema.wrapperFault wrapper with
  | none => rfl
  | some fault =>
    rw [outcome_draftResultProvider_of_fault owner hfault] at h
    cases h

end

end SoapClasses
