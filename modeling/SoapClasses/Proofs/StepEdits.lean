import SoapClasses.Proofs.CapabilityDrafts
import SoapClasses.Proofs.StepSequences

/-!
# Edits of steps

Which edits a step can draft at all, whether it ends well or not. The steps of a client refer to names
other than that of the class, and never under an alias; those of a type import names from outside the
namespace of the class, or under the alias that they were given. Whatever is imported is made of at
least two identifiers.
-/

namespace SoapClasses

/-- The name is made of at least two identifiers with backslashes between them. -/
def IsImportable (name : String) : Prop :=
  2 ≤ (nameSegments name).length ∧ ∀ segment ∈ nameSegments name, isIdentifier segment = true

theorem IsImportable.dropLeadingSeparators_eq {name : String} (h : IsImportable name) :
    dropLeadingSeparators name = name :=
  (isClassName_of_nameSegments (List.all_eq_true.mpr h.2)).1

/-- Edits of the steps that make a client class. -/
inductive ClassEdit.OfClient (owner : ClassIdentity) : ClassEdit → Prop
  | reference {name : String} (himportable : IsImportable name)
    (hother : name ≠ owner.qualifiedName) : OfClient owner (.addImport name none)
  | field (field : Field) : OfClient owner (.putField field)
  | method (method : Method) : OfClient owner (.putMethod method)

/-- Edits of the steps that make the class for a type, where an alias may be given for an import. -/
inductive ClassEdit.OfType (owner : ClassIdentity) (schema : SchemaType)
    (givenAlias : Option String) : ClassEdit → Prop
  | reference {name : String} {aliasName : Option String} (himportable : IsImportable name)
    (hgiven : aliasName = none ∨ aliasName = givenAlias)
    (houtside : aliasName = none → namespaceOf name ≠ owner.ns) :
    OfType owner schema givenAlias (.addImport name aliasName)
  | interface (name : String) : OfType owner schema givenAlias (.addInterface name)
  | field (field : Field) : OfType owner schema givenAlias (.putField field)
  | method (method : Method) : OfType owner schema givenAlias (.putMethod method)
  | doc {first : SchemaProperty} (hfirst : schema.properties.head? = some first) :
    OfType owner schema givenAlias (.setDoc first.iteratorDoc)

namespace Draft

variable {ε ε' α β : Type} {Allowed : ClassEdit → Prop}

/-- All edits of the draft are of a sort. -/
def EditsOnly (Allowed : ClassEdit → Prop) (draft : Draft ε α) : Prop :=
  ∀ change ∈ draft.edits, Allowed change

theorem editsOnly_pure (value : α) : EditsOnly Allowed (pure value : Draft ε α) :=
  fun _ hmem => absurd hmem List.not_mem_nil

theorem editsOnly_fail (error : ε) : EditsOnly Allowed (fail error : Draft ε α) :=
  fun _ hmem => absurd hmem List.not_mem_nil

theorem editsOnly_ofExcept (outcome : Except ε α) : EditsOnly Allowed (ofExcept outcome) :=
  fun _ hmem => absurd hmem List.not_mem_nil

theorem editsOnly_tell {change : ClassEdit} (h : Allowed change) :
    EditsOnly Allowed (tell [change] : Draft ε Unit) := by
  intro other hmem
  rw [List.mem_singleton.mp hmem]
  exact h

theorem editsOnly_edit {change : ClassEdit} (h : Allowed change) :
    EditsOnly Allowed (edit change) := by
  unfold edit
  split
  · exact editsOnly_tell h
  · exact editsOnly_fail _

theorem EditsOnly.bind {first : Draft ε α} {next : α → Draft ε β} (h : first.EditsOnly Allowed)
    (hnext : ∀ value, (next value).EditsOnly Allowed) : (first >>= next).EditsOnly Allowed := by
  intro change hmem
  cases ho : first.outcome with
  | error error =>
    rw [bind_of_error ho] at hmem
    exact h change hmem
  | ok value =>
    rw [edits_bind_of_ok ho] at hmem
    rcases List.mem_append.mp hmem with hmem | hmem
    · exact h change hmem
    · exact hnext value change hmem

theorem EditsOnly.mapError {draft : Draft ε α} (h : draft.EditsOnly Allowed) (wrap : ε → ε') :
    (draft.mapError wrap).EditsOnly Allowed := h

end Draft

open Draft

theorem TypeReference.exists_imported_eq (style : ImportStyle) {parents : List String}
    {short : String} (hparents : ∀ parent ∈ parents, isIdentifier parent = true)
    (hshort : isIdentifier short = true) :
    ∃ segments : List String, segments ≠ [] ∧ (∀ segment ∈ segments, isIdentifier segment = true) ∧
      (ofSegments style parents short).imported = joinText "\\" segments := by
  have hwhole : ∃ segments : List String, segments ≠ [] ∧
      (∀ segment ∈ segments, isIdentifier segment = true) ∧
      qualify (joinText "\\" parents) short = joinText "\\" segments := by
    refine ⟨parents ++ [short], by simp, ?_, qualify_joinText hparents short⟩
    exact List.forall_mem_append.mpr ⟨hparents, List.forall_mem_singleton.mpr hshort⟩
  cases style with
  | plain => exact hwhole
  | withParent =>
    cases hlast : parents.getLast? with
    | none =>
      simp only [ofSegments, hlast]
      exact hwhole
    | some parent =>
      obtain ⟨grandparents, rfl⟩ := List.getLast?_eq_some_iff.mp hlast
      have hgrand : ∀ segment ∈ grandparents, isIdentifier segment = true :=
        fun segment hmem => hparents segment (List.mem_append_left _ hmem)
      refine ⟨grandparents ++ [parent], by simp, hparents, ?_⟩
      simp only [ofSegments, hlast, List.dropLast_concat]
      exact qualify_joinText hgrand parent

section

variable (owner : ClassIdentity)

theorem editsOnly_referTo (style : ImportStyle) (name : String) :
    (referTo owner style name).EditsOnly (ClassEdit.OfClient owner) := by
  cases hfault : typeNameFault name with
  | some cause =>
    rw [referTo_of_fault owner style hfault]
    exact editsOnly_fail cause
  | none =>
    rcases typeNameFault_eq_none_iff.mp hfault with hbuiltin | hclass
    · rw [referTo, if_pos hbuiltin]
      exact editsOnly_pure name
    · obtain ⟨parents, short, hparents, hshort, hcut, -, -⟩ := hclass.exists_segments
      unfold referTo
      split
      · exact editsOnly_pure name
      · simp only [identifierSegments_of_isClassName hclass, hcut, List.dropLast_concat,
          List.getLastD_concat]
        intro change hmem
        unfold TypeReference.edits at hmem
        split at hmem
        · rename_i hneeded
          rw [Bool.and_eq_true, isQualified_iff, bne_iff_ne] at hneeded
          obtain ⟨segments, hne, hall, himported⟩ :=
            TypeReference.exists_imported_eq style hparents hshort
          rw [List.mem_singleton.mp hmem]
          refine .reference ⟨hneeded.1, ?_⟩ hneeded.2
          rw [himported, nameSegments_joinText hne hall]
          exact hall
        · cases hmem

theorem ArgumentShape.editsOnly_callArgument (shape : ArgumentShape) :
    (shape.callArgument owner).EditsOnly (ClassEdit.OfClient owner) := by
  cases shape with
  | nothing => exact (editsOnly_referTo owner _ _).bind (fun _ => editsOnly_pure _)
  | single argument => exact editsOnly_pure _
  | aggregate arguments => exact editsOnly_pure _

theorem ResultType.editsOnly_documentedType (result : ResultType) :
    (result.documentedType owner).EditsOnly (ClassEdit.OfClient owner) := by
  unfold ResultType.documentedType
  split
  · exact (editsOnly_referTo owner _ _).bind (fun _ => editsOnly_pure _)
  · exact editsOnly_referTo owner _ _

namespace Operation

theorem editsOnly_parameterDoc (operation : Operation) (shape : ArgumentShape) :
    (operation.parameterDoc owner shape).EditsOnly (ClassEdit.OfClient owner) := by
  cases shape with
  | nothing => exact editsOnly_pure _
  | single argument =>
    apply (editsOnly_referTo owner _ _).bind
    intro request
    exact (editsOnly_referTo owner _ _).bind (fun _ => editsOnly_pure _)
  | aggregate arguments => exact (editsOnly_referTo owner _ _).bind (fun _ => editsOnly_pure _)

theorem editsOnly_methodDoc (operation : Operation) (shape : ArgumentShape) :
    (operation.methodDoc owner shape).EditsOnly (ClassEdit.OfClient owner) := by
  apply (operation.editsOnly_parameterDoc owner shape).bind
  intro doc
  apply (editsOnly_referTo owner _ _).bind
  intro result
  apply (operation.result.editsOnly_documentedType owner).bind
  intro returned
  exact (editsOnly_referTo owner _ _).bind (fun _ => editsOnly_pure _)

theorem editsOnly_draftMethod (operation : Operation) (name : String) :
    (operation.draftMethod owner name).EditsOnly (ClassEdit.OfClient owner) := by
  unfold draftMethod
  refine (editsOnly_ofExcept _).bind (fun _ => ?_)
  apply (operation.editsOnly_methodDoc owner _).bind
  intro doc
  apply (ArgumentShape.editsOnly_callArgument owner _).bind
  intro argument
  exact editsOnly_edit (.method _)

end Operation

theorem editsOnly_draftConstructor :
    (draftConstructor owner).EditsOnly (ClassEdit.OfClient owner) := by
  refine EditsOnly.mapError ?_ _
  apply (editsOnly_referTo owner _ _).bind
  intro caller
  exact (editsOnly_edit (.field _)).bind (fun _ => editsOnly_edit (.method _))

theorem editsOnly_draftOperation (operation : Operation) :
    (draftOperation owner operation).EditsOnly (ClassEdit.OfClient owner) := by
  unfold draftOperation
  refine ((editsOnly_ofExcept _).mapError _).bind (fun name => ?_)
  exact (operation.editsOnly_draftMethod owner name).mapError _

variable (schema : SchemaType) {givenAlias : Option String}

theorem editsOnly_draftImport (name : String) (aliasName : Option String)
    (hgiven : aliasName = none ∨ aliasName = givenAlias) :
    (draftImport owner name aliasName).EditsOnly (ClassEdit.OfType owner schema givenAlias) := by
  have hbare := dropLeadingSeparators_idem name
  refine EditsOnly.mapError ?_ _
  cases hfault : classNameFault (dropLeadingSeparators name) with
  | some cause =>
    simp only [identifierSegments_of_fault hfault]
    exact editsOnly_fail cause
  | none =>
    have hclass := classNameFault_eq_none_iff.mp hfault
    obtain ⟨parents, short, hparents, hshort, hcut, -, hns⟩ := hclass.exists_segments
    rw [hbare] at hcut
    simp only [identifierSegments_of_isClassName hclass, hbare, hcut]
    split
    · exact editsOnly_pure ()
    · rename_i hlong
      split
      · exact editsOnly_pure ()
      · rename_i houtside
        refine editsOnly_tell (.reference ⟨?_, ?_⟩ hgiven ?_)
        · rw [hcut]
          exact Nat.le_of_not_lt hlong
        · rw [hcut]
          exact List.forall_mem_append.mpr ⟨hparents, List.forall_mem_singleton.mpr hshort⟩
        · rintro rfl
          rw [hns]
          simpa using houtside

theorem editsOnly_draftInterface (name : String) :
    (draftInterface owner name).EditsOnly (ClassEdit.OfType owner schema givenAlias) := by
  apply (editsOnly_draftImport owner schema _ none (.inl rfl)).bind
  intro _
  exact editsOnly_tell (.interface _)

theorem editsOnly_draftField (settings : FieldSettings) (property : SchemaProperty) :
    (draftField owner settings property).EditsOnly (ClassEdit.OfType owner schema givenAlias) :=
  (editsOnly_edit (.field _)).mapError _

theorem editsOnly_draftIterator :
    (draftIterator owner schema).EditsOnly (ClassEdit.OfType owner schema givenAlias) := by
  apply (editsOnly_draftInterface owner schema _).bind
  intro _
  split
  · exact editsOnly_pure ()
  · rename_i first rest hproperties
    have hfirst : schema.properties.head? = some first := by rw [hproperties, List.head?_cons]
    exact ((editsOnly_edit (.method _)).bind (fun _ => editsOnly_edit (.doc hfirst))).mapError _

theorem editsOnly_draftSerialization :
    (draftSerialization owner schema).EditsOnly (ClassEdit.OfType owner schema givenAlias) := by
  apply (editsOnly_draftInterface owner schema _).bind
  intro _
  exact (editsOnly_edit (.method _)).mapError _

theorem editsOnly_draftResultProvider (wrapper : Option String) :
    (draftResultProvider owner wrapper schema).EditsOnly
      (ClassEdit.OfType owner schema givenAlias) := by
  apply (editsOnly_draftInterface owner schema _).bind
  intro _
  split
  · exact editsOnly_pure ()
  · apply (editsOnly_draftImport owner schema _ none (.inl rfl)).bind
    intro _
    exact (editsOnly_edit (.method _)).mapError _

end

/-- The type that a context is about, if it is about one. -/
def GenerationContext.schema? : GenerationContext → Option SchemaType
  | .schemaType schema => some schema
  | .property schema _ => some schema
  | _ => none

/-- The alias that an assembler gives to what it imports. -/
def Assembler.givenAlias : Assembler → Option String
  | .use _ aliasName => aliasName
  | _ => none

/-- Edits that a step can draft. -/
def ClassEdit.OfStep (owner : ClassIdentity) (step : GenerationStep) (change : ClassEdit) : Prop :=
  match step.context.schema? with
  | some schema => change.OfType owner schema step.assembler.givenAlias
  | none => change.OfClient owner

theorem GenerationStep.editsOnly_draft (owner : ClassIdentity) (step : GenerationStep) :
    (step.draft owner).EditsOnly (ClassEdit.OfStep owner step) := by
  obtain ⟨assembler, context⟩ := step
  cases haccepts : assembler.accepts context.kind with
  | false =>
    rw [draft, assembler.draft_of_not_accepts owner context haccepts]
    exact editsOnly_fail _
  | true =>
    cases Assembler.worksOn_of_accepts haccepts with
    | clientConstructor => exact editsOnly_draftConstructor owner
    | clientMethod operation => exact editsOnly_draftOperation owner operation
    | property settings schema property => exact editsOnly_draftField owner schema settings property
    | interface name schema => exact editsOnly_draftInterface owner schema name
    | useOnType name aliasName schema =>
      exact editsOnly_draftImport owner schema name aliasName (.inr rfl)
    | useOnProperty name aliasName schema property =>
      exact editsOnly_draftImport owner schema name aliasName (.inr rfl)
    | iterator schema => exact editsOnly_draftIterator owner schema
    | jsonSerializable schema => exact editsOnly_draftSerialization owner schema
    | resultProvider wrapper schema => exact editsOnly_draftResultProvider owner schema wrapper

end SoapClasses
