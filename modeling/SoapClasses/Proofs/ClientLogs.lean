import SoapClasses.Proofs.OperationDrafts
import SoapClasses.Proofs.PipelineRuns

/-!
# Logs of client classes

The class for a client is made by the step for its constructor, which always succeeds, and by one step
for each operation. So the first operation with a fault decides the error. Without faults the log of all
edits is known, and every part of the class can be read off it.
-/

namespace SoapClasses

open Draft

/-- The constructor of a client, which fills the field for the caller. -/
def constructorMethod : Method where
  name := constructorName
  parameters := [⟨callerName, some RuntimeNames.caller⟩]
  body := "$this->caller = $caller;"

/-- The field for the caller of a client. -/
def callerField : Field where
  name := callerName
  doc := some (DocBlock.empty.withTag "var" (shortName RuntimeNames.caller))

theorem draftConstructor_eq (owner : ClassIdentity) :
    draftConstructor owner =
      ⟨importEdits owner.refersOutside [RuntimeNames.caller] ++
        [.putField callerField, .putMethod constructorMethod], .ok ()⟩ := by
  have hcaller := referTo_runtimeName owner RuntimeNames.caller
      (by simp [referencedRuntimeNames])
  have hfield : Draft.edit (.putField callerField) = Draft.tell [.putField callerField] :=
    edit_of_check (by decide)
  have hmethod : Draft.edit (.putMethod constructorMethod) =
      Draft.tell [.putMethod constructorMethod] := edit_of_check (by decide)
  unfold draftConstructor
  rw [hcaller, mk_ok_bind]
  show Draft.mapError _ (⟨_ ++ (Draft.edit (.putField callerField) >>= fun _ =>
      Draft.edit (.putMethod constructorMethod)).edits,
    (Draft.edit (.putField callerField) >>= fun _ =>
      Draft.edit (.putMethod constructorMethod)).outcome⟩ : Draft NamingError Unit) = _
  rw [hfield, hmethod]
  rfl

namespace ClientDescription

/-- The name and the namespace of the class for a client. -/
def identity (client : ClientDescription) : ClassIdentity where
  name := client.name
  ns := trimSeparators client.ns

/-- The names that the class for a client refers to. -/
def referencedNames (client : ClientDescription) : List String :=
  RuntimeNames.caller :: client.operations.flatMap Operation.referencedNames

/-- The first fault of an operation, in the order of the operations. -/
def fault (client : ClientDescription) : Option (String × NamingError) :=
  client.operations.findSome? Operation.fault

/-- The edits that make the class for a client without faults. -/
def log (client : ClientDescription) (owner : ClassIdentity) : List ClassEdit :=
  importEdits owner.refersOutside [RuntimeNames.caller] ++
    [.putField callerField, .putMethod constructorMethod] ++
    client.operations.flatMap (fun operation =>
      importEdits owner.refersOutside operation.referencedNames ++
        [.putMethod operation.clientMethod])

variable {client : ClientDescription} (owner : ClassIdentity)

theorem failure_operation (operation : Operation) :
    GenerationStep.failure owner ⟨.clientMethod, .operation operation⟩ =
      operation.fault.map (fun fault =>
        .generation "ClientMethodAssembler" owner.qualifiedName fault.1 fault.2) := by
  cases hfault : operation.fault with
  | none =>
    apply GenerationStep.failure_eq_none_iff.mpr
    exact congrArg Draft.outcome (operation.draftOperation_eq owner hfault)
  | some fault =>
    apply GenerationStep.failure_eq_some_iff.mpr
    exact operation.outcome_draftOperation_of_fault owner hfault

theorem firstFailure_steps :
    firstFailure owner client.steps = client.fault.map (fun fault =>
      .generation "ClientMethodAssembler" owner.qualifiedName fault.1 fault.2) := by
  have hconstructor : GenerationStep.failure owner ⟨.clientConstructor, .client⟩ = none := by
    apply GenerationStep.failure_eq_none_iff.mpr
    exact congrArg Draft.outcome (draftConstructor_eq owner)
  have hoperations : GenerationStep.failure owner ∘
      (fun operation => (⟨.clientMethod, .operation operation⟩ : GenerationStep)) =
        Option.map (fun fault : String × NamingError =>
          AssemblyError.generation "ClientMethodAssembler" owner.qualifiedName fault.1 fault.2) ∘
          Operation.fault := by
    funext operation
    rw [Function.comp_apply, Function.comp_apply, failure_operation]
  rw [steps, firstFailure, List.findSome?_cons, hconstructor, List.findSome?_map, hoperations, fault,
    List.map_findSome?]

theorem editLog_steps (h : client.fault = none) : editLog owner client.steps = client.log owner := by
  have hmethod : ∀ operation ∈ client.operations,
      (GenerationStep.draft owner ⟨.clientMethod, .operation operation⟩).edits =
        importEdits owner.refersOutside operation.referencedNames ++
          [.putMethod operation.clientMethod] := by
    intro operation hmem
    have hfault := List.findSome?_eq_none_iff.mp h operation hmem
    exact congrArg Draft.edits (operation.draftOperation_eq owner hfault)
  have hconstructor : (GenerationStep.draft owner ⟨.clientConstructor, .client⟩).edits =
      importEdits owner.refersOutside [RuntimeNames.caller] ++
        [.putField callerField, .putMethod constructorMethod] :=
    congrArg Draft.edits (draftConstructor_eq owner)
  rw [steps, editLog, List.flatMap_cons, hconstructor, List.flatMap_map, log]
  exact congrArg (_ ++ ·) (List.flatMap_congr hmethod)

theorem filterMap_log {α : Type} (part : ClassEdit → Option α)
    (h : ∀ name, part (.addImport name none) = none) :
    (client.log owner).filterMap part =
      (part (.putField callerField)).toList ++ (part (.putMethod constructorMethod)).toList ++
        client.operations.flatMap (fun operation =>
          (part (.putMethod operation.clientMethod)).toList) := by
  rw [log, List.filterMap_append, List.filterMap_append, filterMap_importEdits h,
    List.filterMap_flatMap, List.nil_append, ← List.singleton_append, List.filterMap_append,
    ClassEdit.filterMap_singleton, ClassEdit.filterMap_singleton]
  congr 1
  apply List.flatMap_congr
  intro operation _
  rw [List.filterMap_append, filterMap_importEdits h, ClassEdit.filterMap_singleton,
    List.nil_append]

theorem filterMap_log_of_no_method {α : Type} (part : ClassEdit → Option α)
    (h : ∀ name, part (.addImport name none) = none)
    (hmethod : ∀ method, part (.putMethod method) = none) :
    (client.log owner).filterMap part = (part (.putField callerField)).toList := by
  have hnone : client.operations.flatMap (fun operation =>
      (part (.putMethod operation.clientMethod)).toList) = [] := by
    simp [hmethod]
  rw [filterMap_log owner part h, hmethod, hnone, List.append_nil]
  exact List.append_nil _

theorem filterMap_import_log :
    (client.log owner).filterMap ClassEdit.import? =
      (client.referencedNames.filter owner.refersOutside).map (fun name => ⟨name, none⟩) := by
  have hnames : client.referencedNames =
      [RuntimeNames.caller] ++ client.operations.flatMap Operation.referencedNames := rfl
  have hmembers : ([.putField callerField, .putMethod constructorMethod] : List ClassEdit).filterMap
      ClassEdit.import? = [] := rfl
  have hoperation : ∀ operation : Operation,
      (importEdits owner.refersOutside operation.referencedNames ++
          [ClassEdit.putMethod operation.clientMethod]).filterMap ClassEdit.import? =
        (operation.referencedNames.filter owner.refersOutside).map (fun name => ⟨name, none⟩) := by
    intro operation
    rw [List.filterMap_append, filterMap_import_importEdits]
    exact List.append_nil _
  rw [log, List.filterMap_append, List.filterMap_append, filterMap_import_importEdits, hmembers,
    List.append_nil, List.filterMap_flatMap]
  simp only [hoperation]
  rw [hnames, List.filter_append, List.map_append, List.filter_flatMap, List.map_flatMap]

/-- A client has a class exactly when no operation is at fault; then the class has been extended by the
log, from an empty class. -/
theorem generateClient_eq_ok_iff_log {php : PhpClass} : generateClient client = .ok php ↔
    client.fault = none ∧
      php = (PhpClass.fresh client.name client.ns).extended (client.log client.identity) := by
  have hidentity : (PhpClass.fresh client.name client.ns).toClassIdentity = client.identity := rfl
  rw [generateClient_eq_ok_iff, leads_iff_extended, hidentity, firstFailure_steps,
    Option.map_eq_none_iff]
  apply and_congr_right
  intro hfault
  rw [editLog_steps _ hfault]

theorem exists_generateClient_iff : (∃ php, generateClient client = .ok php) ↔ client.fault = none := by
  simp only [generateClient_eq_ok_iff_log, exists_and_left, exists_eq, and_true]

theorem methods_extended_log {php : PhpClass} :
    (php.extended (client.log owner)).methods =
      php.methods.putAll (constructorMethod :: client.operations.map Operation.clientMethod) := by
  show php.methods.putAll ((client.log owner).filterMap ClassEdit.method?) = _
  rw [filterMap_log owner ClassEdit.method? (fun _ => rfl), List.map_eq_flatMap]
  rfl

end ClientDescription

end SoapClasses
