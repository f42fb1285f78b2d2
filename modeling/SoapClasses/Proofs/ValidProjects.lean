import SoapClasses.Proofs.ClassNames
import SoapClasses.Proofs.GeneratedClients
import SoapClasses.Proofs.GeneratedTypes

/-!
# Valid projects

A project is validated before anything is generated, so its settings should never make the generation
fail. For the names of the client and of the factory this holds. The wrapper of results is validated
without the backslashes at both of its ends, but generated without those in front only: a backslash at
its end passes the validation and fails the generation of each type with a property.
-/

namespace SoapClasses

section

variable {name : String}

/-- A validated wrapper is made of identifiers exactly when no backslash ends it. -/
theorem identifiers_of_isWrapperName (h : isWrapperName name = true) :
    (∀ segment ∈ nameSegments (dropLeadingSeparators name), isIdentifier segment = true) ↔
      name.toList.getLast? ≠ some '\\' := by
  rw [isWrapperName, Bool.and_eq_true, bne_iff_ne] at h
  have hne := dropLeadingSeparators_ne_empty h.1
  constructor
  · intro hall hlast
    rw [← getLast?_dropLeadingSeparators hne] at hlast
    exact ne_empty_of_isIdentifier (hall "" (empty_mem_nameSegments hlast)) rfl
  · intro hlast
    have hnamespace := h.2
    rw [isNamespace, trimSeparators_eq hlast] at hnamespace
    simpa [hne] using hnamespace

theorem bareWrapper_of_isWrapperName (h : isWrapperName name = true) :
    bareWrapper (some name) = some (dropLeadingSeparators name) := by
  rw [isWrapperName, Bool.and_eq_true, bne_iff_ne] at h
  exact bareWrapper_some (dropLeadingSeparators_ne_empty h.1)

end

/-- All names of a service description that are used as they are can be used so: those of properties and
arguments are identifiers, those of operations are identifiers in camel case, and the types of arguments
and results are names of types. -/
structure ServiceDocument.WellNamed (document : ServiceDocument) : Prop where
  properties : ∀ schema ∈ document.types, ∀ property ∈ schema.properties,
    isIdentifier property.name = true
  operations : ∀ client, document.client = some client → ∀ operation ∈ client.operations,
    isIdentifier (camelCase operation.name) = true
  arguments : ∀ client, document.client = some client → ∀ operation ∈ client.operations,
    ∀ argument ∈ operation.arguments, isIdentifier argument.name = true ∧ IsTypeName argument.typeName
  results : ∀ client, document.client = some client → ∀ operation ∈ client.operations,
    IsTypeName operation.result.typeName

namespace Project

variable {project : Project} {document : ServiceDocument}

/-- No backslash ends the wrapper, if it is used for a type of the service. -/
def EndsWrapperWell (project : Project) (document : ServiceDocument) : Prop :=
  project.generator.typeClass.resultProvider = true →
    ∀ wrapper, project.generator.typeClass.resultWrapper = some wrapper →
      ∀ schema ∈ document.types, schema.properties ≠ [] → wrapper.toList.getLast? ≠ some '\\'

theorem isWrapperName_of_validate (h : project.validate = .ok ()) {wrapper : String}
    (hwrapper : project.generator.typeClass.resultWrapper = some wrapper) :
    isWrapperName wrapper = true := by
  have hvalid := (check_bind_eq_ok_iff.mp (check_bind_eq_ok_iff.mp h).2).2
  rw [validateWrapper, hwrapper] at hvalid
  exact demand_eq_ok_iff.mp hvalid

theorem factory_of_validate (h : project.validate = .ok ()) {factory : FactorySection}
    (hfactory : project.factory = some factory) :
    project.client.isSome = true ∧ isIdentifier factory.classmapName = true := by
  have hvalid := (check_bind_eq_ok_iff.mp (check_bind_eq_ok_iff.mp h).2).1
  rw [validateFactory, hfactory] at hvalid
  obtain ⟨hclient, hnames⟩ := check_bind_eq_ok_iff.mp hvalid
  exact ⟨demand_eq_ok_iff.mp hclient, demand_eq_ok_iff.mp (check_bind_eq_ok_iff.mp hnames).1⟩

theorem wrapsWell_iff (h : project.validate = .ok ()) (schema : SchemaType) :
    schema.WrapsWell project.generator ↔
      (project.generator.typeClass.resultProvider = true → schema.properties ≠ [] →
        ∀ wrapper, project.generator.typeClass.resultWrapper = some wrapper →
          wrapper.toList.getLast? ≠ some '\\') := by
  unfold SchemaType.WrapsWell
  cases hwrapper : project.generator.typeClass.resultWrapper with
  | none => simp [bareWrapper]
  | some wrapper =>
    have hname := isWrapperName_of_validate h hwrapper
    simp only [bareWrapper_of_isWrapperName hname, Option.some.injEq, forall_eq',
      identifiers_of_isWrapperName hname]

theorem exists_typeClasses_iff (h : project.validate = .ok ()) (hnamed : document.WellNamed) :
    (∃ classes, document.types.mapM project.typeClass = .ok classes) ↔
      project.EndsWrapperWell document := by
  have htype : ∀ schema ∈ document.types, (∃ php, project.typeClass schema = .ok php) ↔
      schema.WrapsWell project.generator := by
    intro schema hmem
    simp only [typeClass, mapError_eq_ok_iff]
    rw [SchemaType.exists_generateType_iff]
    exact and_iff_left (hnamed.properties schema hmem)
  rw [exists_mapM_eq_ok_iff]
  constructor
  · intro hall hprovides wrapper hwrapper schema hmem hne
    exact (wrapsWell_iff h schema).mp ((htype schema hmem).mp (hall schema hmem)) hprovides hne
      wrapper hwrapper
  · intro hends schema hmem
    apply (htype schema hmem).mpr
    exact (wrapsWell_iff h schema).mpr
      (fun hprovides hne wrapper hwrapper => hends hprovides wrapper hwrapper schema hmem hne)

theorem operations_of_clientFor {client : ClientDescription}
    (hclient : project.clientFor document = some client) :
    ∃ described, document.client = some described ∧ client.operations = described.operations := by
  obtain ⟨described, hdescribed, hnamed⟩ := Option.map_eq_some_iff.mp hclient
  refine ⟨described, hdescribed, ?_⟩
  split at hnamed
  · rw [← hnamed]
  · rw [hnamed]

/-- The factory of a valid project is made: its client and its class map are named by identifiers. -/
theorem exists_factoryClasses (h : project.validate = .ok ()) {client : ClientDescription}
    (hclient : project.clientFor document = some client) :
    ∃ classes, project.factoryClasses client = .ok classes := by
  unfold factoryClasses
  cases hfactory : project.factory with
  | none => exact ⟨[], rfl⟩
  | some factory =>
    obtain ⟨hsection, hclassmap⟩ := factory_of_validate h hfactory
    obtain ⟨named, hproject⟩ := Option.isSome_iff_exists.mp hsection
    have hname : client.name = named.name := by
      obtain ⟨described, _, heq⟩ := Option.map_eq_some_iff.mp hclient
      rw [hproject] at heq
      rw [← heq]
    have hidentifier : isIdentifier client.name = true :=
      hname ▸ isIdentifier_of_validate h hproject
    have hcheck : (FactoryNames.ofParts client.name client.ns factory.classmapName
        factory.classmapNs).check = .ok () :=
      check_bind_eq_ok_iff.mpr ⟨(requireIdentifier_eq_ok_iff .className _).mpr hidentifier,
        (requireIdentifier_eq_ok_iff .className _).mpr hclassmap⟩
    refine ⟨[(FactoryNames.ofParts client.name client.ns factory.classmapName
      factory.classmapNs).factoryClass], ?_⟩
    simp [generateFactory, hcheck, Except.mapError, Except.map]

theorem exists_clientClasses (h : project.validate = .ok ())
    (hclient : project.factory.isSome = true → document.client.isSome = true)
    (hnamed : document.WellNamed) : ∃ classes, project.clientClasses document = .ok classes := by
  unfold clientClasses
  cases hfor : project.clientFor document with
  | none =>
    have hnone : document.client = none := by simpa [clientFor] using hfor
    have hfactory : project.factory.isSome = false := by
      rw [hnone] at hclient
      simpa using hclient
    exact ⟨[], by simp [hfactory]⟩
  | some client =>
    obtain ⟨described, hdescribed, hoperations⟩ := operations_of_clientFor hfor
    have hfault : client.fault = none := by
      apply ClientDescription.fault_eq_none_iff.mpr
      intro operation hmem
      rw [hoperations] at hmem
      constructor
      · exact hnamed.operations described hdescribed operation hmem
      · intro argument harg
        exact (hnamed.arguments described hdescribed operation hmem argument harg).1
      · intro argument hone
        exact (hnamed.arguments described hdescribed operation hmem argument
          (hone ▸ List.mem_singleton_self _)).2
      · exact fun _ => hnamed.results described hdescribed operation hmem
    obtain ⟨php, hphp⟩ := ClientDescription.exists_generateClient_iff.mpr hfault
    obtain ⟨factory, hfactory⟩ := exists_factoryClasses h hfor
    exact ⟨php :: factory, bind_eq_ok_iff.mpr ⟨php, mapError_eq_ok_iff.mpr hphp,
      bind_eq_ok_iff.mpr ⟨factory, hfactory, rfl⟩⟩⟩

/-- The classes of a valid project for a well named service can be generated exactly when no backslash
ends the wrapper that is used for them. -/
theorem classes_iff_endsWrapperWell (h : project.validate = .ok ())
    (hclient : project.factory.isSome = true → document.client.isSome = true)
    (hnamed : document.WellNamed) :
    (∃ classes, project.classes document = .ok classes) ↔ project.EndsWrapperWell document := by
  rw [← exists_typeClasses_iff h hnamed]
  obtain ⟨client, hclasses⟩ := exists_clientClasses h hclient hnamed
  constructor
  · rintro ⟨classes, hall⟩
    obtain ⟨types, htypes, _⟩ := bind_eq_ok_iff.mp hall
    exact ⟨types, htypes⟩
  · rintro ⟨types, htypes⟩
    exact ⟨types ++ client, bind_eq_ok_iff.mpr
      ⟨types, htypes, bind_eq_ok_iff.mpr ⟨client, hclasses, rfl⟩⟩⟩

/-- A project with a client, a factory and this wrapper of results. -/
def ofWrapper (wrapper : String) : Project where
  generator := { typeClass := { resultProvider := true, resultWrapper := some wrapper } }
  client := some ⟨"Shop", "App\\Client\\"⟩
  factory := some ⟨"ShopClassmap", "\\App"⟩

/-- A service with a type of one property and a client of one operation. -/
def ofOneOperation : ServiceDocument where
  types := [⟨"App\\Type", "Order", [⟨"number", "int", "", {}⟩], "Order", by decide⟩]
  client := some ⟨"service", "", [⟨"find-order", [⟨"number", "int"⟩], ⟨"string", false⟩, none⟩]⟩

theorem wellNamed_ofOneOperation : ofOneOperation.WellNamed := by
  constructor
  · decide
  · rintro _ ⟨⟩
    decide +kernel
  · rintro _ ⟨⟩ operation hoperation argument hargument
    obtain rfl := List.mem_singleton.mp hoperation
    obtain rfl := List.mem_singleton.mp hargument
    exact ⟨by decide, .inl (by decide)⟩
  · rintro _ ⟨⟩ operation hoperation
    obtain rfl := List.mem_singleton.mp hoperation
    exact .inl (by decide)

theorem classes_iff_endsWrapperWell_leading_separator :
    ∃ classes, (ofWrapper "\\App\\Result").classes ofOneOperation = .ok classes := by
  obtain ⟨⟨⟩, hvalid⟩ : ∃ value, (ofWrapper "\\App\\Result").validate = .ok value := by
    apply exists_eq_ok_of_isOk
    decide +kernel
  apply (classes_iff_endsWrapperWell hvalid (fun _ => rfl) wellNamed_ofOneOperation).mpr
  rintro _ _ ⟨⟩ _ _ _
  decide

/-- A valid wrapper that ends in a backslash makes the generation fail for a well named service. -/
theorem not_classes_trailing_separator :
    (ofWrapper "App\\Result\\").validate = .ok () ∧ ofOneOperation.WellNamed ∧
      ¬ ∃ classes, (ofWrapper "App\\Result\\").classes ofOneOperation = .ok classes := by
  obtain ⟨⟨⟩, hvalid⟩ : ∃ value, (ofWrapper "App\\Result\\").validate = .ok value := by
    apply exists_eq_ok_of_isOk
    decide +kernel
  refine ⟨hvalid, wellNamed_ofOneOperation, ?_⟩
  rintro ⟨classes, hclasses⟩
  obtain ⟨types, htypes, _⟩ := bind_eq_ok_iff.mp hclasses
  have hends := (exists_typeClasses_iff hvalid wellNamed_ofOneOperation).mp ⟨types, htypes⟩
  exact hends rfl _ rfl _ List.mem_cons_self (List.cons_ne_nil _ _) (by decide)

end Project

end SoapClasses
