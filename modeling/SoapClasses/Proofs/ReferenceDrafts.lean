import SoapClasses.ClientAssembly
import SoapClasses.Proofs.DraftLaws
import SoapClasses.Proofs.EditLogs
import SoapClasses.TypeAssembly

/-!
# Drafts of references

Before a step writes a member it lets the class refer to the types that the member mentions. Drafts
that only do so are closed under sequencing. They fail because of the name of a type and for no other
reason.
-/

namespace SoapClasses

/-- Errors about the name of a type, and not about the name of a member. -/
def NamingError.ConcernsType : NamingError → Prop
  | .invalidIdentifier role _ => role = .typeName
  | .emptyTypeName => True

theorem concernsType_of_identifierSegments {name : String} {cause : NamingError}
    (h : identifierSegments name = .error cause) : cause.ConcernsType := by
  unfold identifierSegments at h
  simp only at h
  split at h
  · cases h
    trivial
  · split at h
    · cases h
      rfl
    · cases h

/-- Failures of a step on a class that are due to the name of a type. -/
def AssemblyError.BlamesType (owner : ClassIdentity) : AssemblyError → Prop
  | .contextMismatch _ _ _ => False
  | .generation _ className _ cause => className = owner.qualifiedName ∧ cause.ConcernsType

namespace Draft

variable {ε ε' α β : Type}

/-- The draft makes references only, and its errors are of a certain sort. -/
structure RefersOnly (Blames : ε → Prop) (draft : Draft ε α) : Prop where
  edits : ∀ change ∈ draft.edits, change.IsReference
  error : ∀ error, draft.outcome = .error error → Blames error

theorem refersOnly_done {Blames : ε → Prop} (value : α) :
    RefersOnly Blames (pure value : Draft ε α) where
  edits change hmem := by cases hmem
  error error h := by cases h

theorem refersOnly_fail {Blames : ε → Prop} {error : ε} (h : Blames error) :
    RefersOnly Blames (fail error : Draft ε α) where
  edits change hmem := by cases hmem
  error other heq := by
    cases heq
    exact h

theorem refersOnly_tell {Blames : ε → Prop} {changes : List ClassEdit}
    (h : ∀ change ∈ changes, change.IsReference) :
    RefersOnly Blames (tell changes : Draft ε Unit) where
  edits := h
  error error heq := by cases heq

theorem RefersOnly.bind {Blames : ε → Prop} {first : Draft ε α} {next : α → Draft ε β}
    (h : first.RefersOnly Blames) (hnext : ∀ value, (next value).RefersOnly Blames) :
    (first >>= next).RefersOnly Blames := by
  cases ho : first.outcome with
  | error error =>
    rw [bind_of_error ho]
    refine ⟨h.edits, ?_⟩
    intro other heq
    cases heq
    exact h.error error ho
  | ok value =>
    constructor
    · intro change hmem
      rw [edits_bind_of_ok ho] at hmem
      rcases List.mem_append.mp hmem with hmem | hmem
      · exact h.edits change hmem
      · exact (hnext value).edits change hmem
    · intro error heq
      rw [outcome_bind_of_ok ho] at heq
      exact (hnext value).error error heq

theorem RefersOnly.mapError {Blames : ε → Prop} {Blames' : ε' → Prop} {draft : Draft ε α}
    (h : draft.RefersOnly Blames) (wrap : ε → ε') (hwrap : ∀ error, Blames error → Blames' (wrap error)) :
    (draft.mapError wrap).RefersOnly Blames' where
  edits := h.edits
  error error heq := by
    obtain ⟨cause, hcause, rfl⟩ := outcome_of_mapError_error heq
    exact hwrap cause (h.error cause hcause)

end Draft

open Draft

theorem TypeReference.isReference_of_mem_edits {owner : ClassIdentity} {reference : TypeReference}
    {change : ClassEdit} (h : change ∈ reference.edits owner) : change.IsReference := by
  unfold TypeReference.edits at h
  split at h
  · rw [List.mem_singleton.mp h]
    trivial
  · cases h

theorem refersOnly_referTo (owner : ClassIdentity) (style : ImportStyle) (name : String) :
    (referTo owner style name).RefersOnly NamingError.ConcernsType := by
  unfold referTo
  split
  · exact refersOnly_done name
  · split
    · rename_i cause hcause
      exact refersOnly_fail (concernsType_of_identifierSegments hcause)
    · refine ⟨fun change hmem => TypeReference.isReference_of_mem_edits hmem, ?_⟩
      intro error heq
      cases heq

namespace ArgumentShape

theorem refersOnly_callArgument (owner : ClassIdentity) (shape : ArgumentShape) :
    (shape.callArgument owner).RefersOnly NamingError.ConcernsType := by
  cases shape with
  | nothing => exact (refersOnly_referTo _ _ _).bind (fun _ => refersOnly_done _)
  | single argument => exact refersOnly_done _
  | aggregate arguments => exact refersOnly_done _

end ArgumentShape

theorem ResultType.refersOnly_documentedType (owner : ClassIdentity) (result : ResultType) :
    (result.documentedType owner).RefersOnly NamingError.ConcernsType := by
  unfold ResultType.documentedType
  split
  · exact (refersOnly_referTo _ _ _).bind (fun _ => refersOnly_done _)
  · exact refersOnly_referTo _ _ _

namespace Operation

theorem refersOnly_parameterDoc (owner : ClassIdentity) (operation : Operation)
    (shape : ArgumentShape) :
    (operation.parameterDoc owner shape).RefersOnly NamingError.ConcernsType := by
  cases shape with
  | nothing => exact refersOnly_done _
  | single argument =>
    apply (refersOnly_referTo _ _ _).bind
    intro request
    exact (refersOnly_referTo _ _ _).bind (fun _ => refersOnly_done _)
  | aggregate arguments => exact (refersOnly_referTo _ _ _).bind (fun _ => refersOnly_done _)

theorem refersOnly_methodDoc (owner : ClassIdentity) (operation : Operation)
    (shape : ArgumentShape) :
    (operation.methodDoc owner shape).RefersOnly NamingError.ConcernsType := by
  apply (operation.refersOnly_parameterDoc owner shape).bind
  intro doc
  apply (refersOnly_referTo _ _ _).bind
  intro result
  apply (operation.result.refersOnly_documentedType owner).bind
  intro returned
  exact (refersOnly_referTo _ _ _).bind (fun _ => refersOnly_done _)

end Operation

theorem refersOnly_draftImport (owner : ClassIdentity) (name : String) (aliasName : Option String) :
    (draftImport owner name aliasName).RefersOnly (AssemblyError.BlamesType owner) := by
  refine RefersOnly.mapError ?_ _ (fun (cause : NamingError) (h : cause.ConcernsType) => ⟨rfl, h⟩)
  split
  · rename_i cause hcause
    exact refersOnly_fail (concernsType_of_identifierSegments hcause)
  · split
    · exact refersOnly_done ()
    · split
      · exact refersOnly_done ()
      · apply refersOnly_tell
        intro change hmem
        rw [List.mem_singleton.mp hmem]
        trivial

theorem refersOnly_draftInterface (owner : ClassIdentity) (interface : String) :
    (draftInterface owner interface).RefersOnly (AssemblyError.BlamesType owner) := by
  apply (refersOnly_draftImport owner _ none).bind
  intro _
  apply refersOnly_tell
  intro change hmem
  rw [List.mem_singleton.mp hmem]
  trivial

end SoapClasses
