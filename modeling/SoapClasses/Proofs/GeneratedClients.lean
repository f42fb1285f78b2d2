import SoapClasses.Proofs.ClientLogs

/-!
# Generated clients

When the class for a client can be generated, why it cannot otherwise, and what it consists of. Of
operations that have one method name the last one is kept, in the place of the first.
-/

namespace SoapClasses

namespace Operation

/-- The operation has a method name, its arguments are named by identifiers, and the types that its doc
block shows by their own names are names of types: that of an only argument and that of a result which
is not mixed. -/
structure WellNamed (operation : Operation) : Prop where
  name : isIdentifier (camelCase operation.name) = true
  arguments : ∀ argument ∈ operation.arguments, isIdentifier argument.name = true
  onlyArgument : ∀ argument, operation.arguments = [argument] → IsTypeName argument.typeName
  result : operation.result.isMixed = false → IsTypeName operation.result.typeName

variable {operation : Operation}

theorem documentedTypes_shape_iff :
    operation.shape.documentedTypes.findSome? typeNameFault = none ↔
      ∀ argument, operation.arguments = [argument] → IsTypeName argument.typeName := by
  unfold shape
  cases operation.arguments with
  | nil => simp [ArgumentShape.ofArguments, ArgumentShape.documentedTypes]
  | cons first rest =>
    cases rest with
    | nil => simp [ArgumentShape.ofArguments, ArgumentShape.documentedTypes, typeNameFault_eq_none_iff]
    | cons second rest => simp [ArgumentShape.ofArguments, ArgumentShape.documentedTypes]

theorem documentedTypes_result_iff :
    operation.result.documentedTypes.findSome? typeNameFault = none ↔
      (operation.result.isMixed = false → IsTypeName operation.result.typeName) := by
  cases hmixed : operation.result.isMixed with
  | true => simp [ResultType.documentedTypes, hmixed]
  | false => simp [ResultType.documentedTypes, hmixed, typeNameFault_eq_none_iff]

theorem fault_eq_none_iff : operation.fault = none ↔ operation.WellNamed := by
  rw [fault_eq_none_iff_checks, documentedTypes, List.findSome?_append, Option.or_eq_none_iff,
    documentedTypes_shape_iff, documentedTypes_result_iff]
  constructor
  · rintro ⟨hname, harguments, honly, hresult⟩
    exact ⟨hname, harguments, honly, hresult⟩
  · rintro ⟨hname, harguments, honly, hresult⟩
    exact ⟨hname, harguments, honly, hresult⟩

end Operation

/-! ## Names without backslashes in front -/

theorem ArgumentShape.dropLeadingSeparators_of_mem {shape : ArgumentShape} {name : String}
    (h : ∀ typeName ∈ shape.documentedTypes, IsTypeName typeName)
    (hmem : name ∈ shape.documentedNames) : dropLeadingSeparators name = name := by
  cases shape with
  | nothing => cases hmem
  | single argument =>
    rcases List.mem_cons.mp hmem with hname | hname
    · rw [hname]
      exact dropLeadingSeparators_runtimeName (by simp [referencedRuntimeNames])
    · rw [List.mem_singleton.mp hname]
      exact dropLeadingSeparators_namespaceOf (h argument.typeName (List.mem_singleton_self _))
  | aggregate arguments =>
    rw [List.mem_singleton.mp hmem]
    exact dropLeadingSeparators_runtimeName (by simp [referencedRuntimeNames])

theorem ResultType.dropLeadingSeparators_of_mem {result : ResultType} {name : String}
    (h : ∀ typeName ∈ result.documentedTypes, IsTypeName typeName)
    (hmem : name ∈ result.documentedNames) : dropLeadingSeparators name = name := by
  unfold documentedTypes at h
  unfold documentedNames at hmem
  split at hmem
  · rw [List.mem_singleton.mp hmem]
    exact dropLeadingSeparators_runtimeName (by simp [referencedRuntimeNames])
  · rename_i hmixed
    rw [if_neg hmixed] at h
    rw [List.mem_singleton.mp hmem]
    exact dropLeadingSeparators_namespaceOf (h result.typeName (List.mem_singleton_self _))

theorem Operation.dropLeadingSeparators_of_mem {operation : Operation} {name : String}
    (h : operation.fault = none) (hmem : name ∈ operation.referencedNames) :
    dropLeadingSeparators name = name := by
  have htypes : ∀ typeName ∈ operation.documentedTypes, IsTypeName typeName := by
    intro typeName htype
    have hnone := (fault_eq_none_iff_checks.mp h).2.2
    exact typeNameFault_eq_none_iff.mp (List.findSome?_eq_none_iff.mp hnone typeName htype)
  have hcalled : ∀ name ∈ operation.shape.calledNames, name ∈ referencedRuntimeNames := by
    cases operation.shape <;> simp [ArgumentShape.calledNames, referencedRuntimeNames]
  simp only [referencedNames, List.mem_append, List.mem_cons] at hmem
  rcases hmem with hshape | hinterface | hresult | hthrown | hcall
  · exact ArgumentShape.dropLeadingSeparators_of_mem
      (fun typeName htype => htypes typeName (List.mem_append_left _ htype)) hshape
  · rw [hinterface]
    exact dropLeadingSeparators_runtimeName (by simp [referencedRuntimeNames])
  · exact ResultType.dropLeadingSeparators_of_mem
      (fun typeName htype => htypes typeName (List.mem_append_right _ htype)) hresult
  · rw [hthrown]
    exact dropLeadingSeparators_runtimeName (by simp [referencedRuntimeNames])
  · exact dropLeadingSeparators_runtimeName (hcalled name hcall)

namespace ClientDescription

variable {client : ClientDescription} {php : PhpClass}

theorem fault_eq_none_iff :
    client.fault = none ↔ ∀ operation ∈ client.operations, operation.WellNamed := by
  simp only [fault, List.findSome?_eq_none_iff, Operation.fault_eq_none_iff]

/-- What the class for a client consists of. -/
structure MadeInto (client : ClientDescription) (php : PhpClass) : Prop where
  identity : php.toClassIdentity = client.identity
  methodNames : php.methods.names = (constructorName ::
    client.operations.map (fun operation => camelCase operation.name)).eraseDups
  methods : ∀ name, php.methods.find? name =
    ((client.operations.filter (fun operation => camelCase operation.name == name)).getLast?.map
      Operation.clientMethod).or (if name = constructorName then some constructorMethod else none)
  fields : php.fields.toList = [callerField]
  interfaces : php.interfaces.toList = []
  doc : php.doc = none
  imports : php.imports.ImportsExactly (fun name => name ∈ client.referencedNames ∧
    2 ≤ (nameSegments name).length ∧ name ≠ client.identity.qualifiedName)

theorem dropLeadingSeparators_of_mem_referencedNames (h : client.fault = none) {name : String}
    (hmem : name ∈ client.referencedNames) : dropLeadingSeparators name = name := by
  rcases List.mem_cons.mp hmem with rfl | hmem
  · exact dropLeadingSeparators_runtimeName (by simp [referencedRuntimeNames])
  · obtain ⟨operation, hoperation, hname⟩ := List.mem_flatMap.mp hmem
    exact Operation.dropLeadingSeparators_of_mem
      (List.findSome?_eq_none_iff.mp h operation hoperation) hname

theorem find?_methods (client : ClientDescription) (name : String) :
    (MemberTable.empty.putAll
        (constructorMethod :: client.operations.map Operation.clientMethod)).find? name =
      ((client.operations.filter (fun operation => camelCase operation.name == name)).getLast?.map
        Operation.clientMethod).or
        (if name = constructorName then some constructorMethod else none) := by
  have hnamed : (fun method => Named.nameOf method == name) ∘ Operation.clientMethod =
      fun operation => camelCase operation.name == name := rfl
  have hconstructor : (MemberTable.empty.put constructorMethod).find? name =
      if name = constructorName then some constructorMethod else none := MemberTable.find?_put _ _ _
  show ((MemberTable.empty.put constructorMethod).putAll
    (client.operations.map Operation.clientMethod)).find? name = _
  rw [MemberTable.find?_putAll, hconstructor, ← List.map_reverse, List.find?_map, hnamed,
    List.getLast?_filter]

theorem madeInto_of_generateClient (h : generateClient client = .ok php) : client.MadeInto php := by
  obtain ⟨hfault, hphp⟩ := generateClient_eq_ok_iff_log.mp h
  have hidentity : php.toClassIdentity = client.identity := by
    rw [hphp, PhpClass.toClassIdentity_extended]
    rfl
  have hmethods : php.methods = MemberTable.empty.putAll
      (constructorMethod :: client.operations.map Operation.clientMethod) := by
    rw [hphp]
    exact methods_extended_log _
  refine ⟨hidentity, ?_, ?_, ?_, ?_, ?_, ?_⟩
  · rw [hmethods, MemberTable.names_putAll, List.map_cons, List.map_map]
    rfl
  · intro name
    rw [hmethods]
    exact find?_methods client name
  · rw [hphp, PhpClass.fields_extended,
      filterMap_log_of_no_method _ ClassEdit.field? (fun _ => rfl) (fun _ => rfl)]
    rfl
  · rw [hphp, PhpClass.interfaces_extended,
      filterMap_log_of_no_method _ ClassEdit.interface? (fun _ => rfl) (fun _ => rfl)]
    rfl
  · rw [hphp, PhpClass.doc_extended,
      filterMap_log_of_no_method _ ClassEdit.doc? (fun _ => rfl) (fun _ => rfl)]
    rfl
  · rw [hphp, PhpClass.imports_extended, filterMap_import_log]
    exact ImportTable.importsExactly_filter
      (fun _ hmem => dropLeadingSeparators_of_mem_referencedNames hfault hmem)
      client.identity.refersOutside_iff

/-- The class keeps the method of this operation: no later one has the same method name. -/
def Keeps (client : ClientDescription) (operation : Operation) : Prop :=
  (client.operations.filter (fun other =>
    camelCase other.name == camelCase operation.name)).getLast? = some operation

instance (client : ClientDescription) (operation : Operation) : Decidable (client.Keeps operation) :=
  inferInstanceAs (Decidable (_ = some operation))

theorem Keeps.mem {operation : Operation} (h : client.Keeps operation) :
    operation ∈ client.operations :=
  (List.mem_filter.mp (List.mem_of_getLast? h)).1

theorem MadeInto.find?_methods_of_keeps (h : client.MadeInto php) {operation : Operation}
    (hkept : client.Keeps operation) :
    php.methods.find? (camelCase operation.name) = some operation.clientMethod := by
  rw [h.methods, hkept]
  rfl

/-- The methods of the class are those of the operations that it keeps, and possibly the constructor. -/
theorem MadeInto.forall_mem_methods_iff (h : client.MadeInto php) {P : Method → Prop}
    (hconstructor : P constructorMethod) : (∀ method ∈ php.methods.toList, P method) ↔
      ∀ operation, client.Keeps operation → P operation.clientMethod := by
  constructor
  · intro hall operation hkept
    exact hall _ ((php.methods.find?_eq_some_iff _ _).mp (h.find?_methods_of_keeps hkept)).1
  · intro hall method hmem
    have hfound := (php.methods.find?_eq_some_iff _ method).mpr ⟨hmem, rfl⟩
    rw [h.methods, Option.or_eq_some_iff] at hfound
    rcases hfound with hlast | ⟨-, hnone⟩
    · obtain ⟨operation, hlast, rfl⟩ := Option.map_eq_some_iff.mp hlast
      exact hall operation hlast
    · split at hnone
      · rw [← Option.some.inj hnone]
        exact hconstructor
      · cases hnone

/-- A client has a class exactly when all its operations are well named; otherwise the first operation
that is not ends the generation. -/
theorem generateClient_meaning (client : ClientDescription) :
    ((∃ php, generateClient client = .ok php) ↔
      ∀ operation ∈ client.operations, operation.WellNamed) ∧
    (∀ error, generateClient client = .error error ↔
      ∃ earlier operation later member cause,
        client.operations = earlier ++ operation :: later ∧
        (∀ other ∈ earlier, other.WellNamed) ∧ operation.fault = some (member, cause) ∧
        error = .generation "ClientMethodAssembler" client.identity.qualifiedName member cause) ∧
    ∀ php, generateClient client = .ok php → client.MadeInto php := by
  refine ⟨?_, ?_, fun php h => madeInto_of_generateClient h⟩
  · rw [← fault_eq_none_iff, exists_generateClient_iff]
  · intro error
    have hidentity : (PhpClass.fresh client.name client.ns).toClassIdentity = client.identity := rfl
    rw [generateClient_eq_error_iff, hidentity, firstFailure_steps, Option.map_eq_some_iff]
    constructor
    · rintro ⟨⟨member, cause⟩, hfault, rfl⟩
      obtain ⟨earlier, operation, later, hoperations, hoperation, hearlier⟩ :=
        List.findSome?_eq_some_iff.mp hfault
      exact ⟨earlier, operation, later, member, cause, hoperations,
        fun other hmem => Operation.fault_eq_none_iff.mp (hearlier other hmem), hoperation, rfl⟩
    · rintro ⟨earlier, operation, later, member, cause, hoperations, hearlier, hoperation, rfl⟩
      exact ⟨(member, cause), List.findSome?_eq_some_iff.mpr ⟨earlier, operation, later, hoperations,
        hoperation, fun other hmem => Operation.fault_eq_none_iff.mpr (hearlier other hmem)⟩, rfl⟩

/-- A client with two operations of one method name; the first has an argument of a class. -/
def ofTwoSpellings : ClientDescription where
  name := "Shop"
  ns := "App"
  operations := [⟨"get-user", [⟨"user", "App\\Type\\User"⟩], ⟨"string", true⟩, none⟩,
    ⟨"getUser", [], ⟨"\\App\\Type\\User", false⟩, none⟩]

theorem generateClient_meaning_two_spellings :
    ∃ php, generateClient ofTwoSpellings = .ok php ∧ ofTwoSpellings.MadeInto php := by
  obtain ⟨hdefined, _, hmade⟩ := generateClient_meaning ofTwoSpellings
  obtain ⟨php, hphp⟩ := hdefined.mpr (fault_eq_none_iff.mp (by decide +kernel))
  exact ⟨php, hphp, hmade php hphp⟩

end ClientDescription

end SoapClasses
