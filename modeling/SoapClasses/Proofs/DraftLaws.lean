import SoapClasses.Drafts
import SoapClasses.Proofs.Outcomes

/-!
# Laws of drafts

What a draft that is made of others has drafted and how it has ended, told from its parts.
-/

namespace SoapClasses.Draft

variable {ε ε' α β : Type}

@[simp] theorem edits_pure (value : α) : (pure value : Draft ε α).edits = [] := rfl

@[simp] theorem outcome_pure (value : α) : (pure value : Draft ε α).outcome = .ok value := rfl

theorem mk_ok_bind (edits : List ClassEdit) (value : α) (next : α → Draft ε β) :
    ((⟨edits, .ok value⟩ : Draft ε α) >>= next) =
      ⟨edits ++ (next value).edits, (next value).outcome⟩ := rfl

theorem edits_bind_of_ok {first : Draft ε α} {value : α} (h : first.outcome = .ok value)
    (next : α → Draft ε β) : (first >>= next).edits = first.edits ++ (next value).edits := by
  simp only [bind, andThen, h]

theorem outcome_bind_of_ok {first : Draft ε α} {value : α} (h : first.outcome = .ok value)
    (next : α → Draft ε β) : (first >>= next).outcome = (next value).outcome := by
  simp only [bind, andThen, h]

theorem bind_of_error {first : Draft ε α} {error : ε} (h : first.outcome = .error error)
    (next : α → Draft ε β) : (first >>= next) = ⟨first.edits, .error error⟩ := by
  simp only [bind, andThen, h]

theorem outcome_of_mapError_error {wrap : ε → ε'} {draft : Draft ε α} {error : ε'}
    (h : (draft.mapError wrap).outcome = .error error) :
    ∃ cause, draft.outcome = .error cause ∧ wrap cause = error := by
  cases ho : draft.outcome with
  | ok value => simp [mapError, Except.mapError, ho] at h
  | error cause =>
    simp only [mapError, Except.mapError, ho, Except.error.injEq] at h
    exact ⟨cause, rfl, h⟩

theorem edit_of_check {change : ClassEdit} (h : change.check = .ok ()) :
    edit change = tell [change] := by
  simp only [edit, h, tell]

end SoapClasses.Draft
