import SoapClasses.Proofs.StepEndings

/-!
# Failed steps

A step fails in one of two ways. It refuses a context of a kind that it does not work on, and then it
does nothing. Or the name of a member or of a type is no good: the name of a member is found out before
anything is done, the name of a type at the latest before a member is written.
-/

namespace SoapClasses

namespace Assembler

variable (assembler : Assembler) (context : GenerationContext) (php : PhpClass)

theorem assemble_of_not_accepts (h : assembler.accepts context.kind = false) :
    assembler.assemble context php =
      (.error (.contextMismatch assembler.name assembler.expected context.kind), php) := by
  have hdraft := assembler.draft_of_not_accepts php.toClassIdentity context h
  simp only [assemble, hdraft]
  rfl

/-- What is left of a class after a step that it was right to run has failed on it. -/
theorem after_failure (h : assembler.accepts context.kind = true) {error : AssemblyError}
    (herror : (assembler.assemble context php).1 = .error error) :
    ∃ step member cause, error = .generation step php.qualifiedName member cause ∧
      php.SparesMembers (assembler.assemble context php).2 ∧
      (cause.ConcernsType ∨ (assembler.assemble context php).2 = php) := by
  have hdraft := assembler.endsWell_draft php.toClassIdentity context h
  obtain ⟨step, member, cause, heq, hreferences, hcause⟩ := hdraft.error error herror
  refine ⟨step, member, cause, heq, php.sparesMembers_amendAll _ hreferences, ?_⟩
  rcases hcause with hcause | hnone
  · exact .inl hcause
  · right
    show php.amendAll (assembler.draft php.toClassIdentity context).edits = php
    rw [hnone]
    rfl

/-- An assembler refuses exactly the contexts that it does not accept, and then the class stays as it
is. On the others it succeeds or fails for the class it was given; a failure never touches a member,
and nothing at all if the name of a member is at fault. -/
theorem assemble_failures :
    (assembler.accepts context.kind = false →
      assembler.assemble context php =
        (.error (.contextMismatch assembler.name assembler.expected context.kind), php)) ∧
    (assembler.accepts context.kind = true →
      (assembler.assemble context php).1 = .ok () ∨
        ∃ step member cause, (assembler.assemble context php).1 =
          .error (.generation step php.qualifiedName member cause)) ∧
    ∀ step className member cause,
      (assembler.assemble context php).1 = .error (.generation step className member cause) →
        php.SparesMembers (assembler.assemble context php).2 ∧
        ∀ role name, cause = .invalidIdentifier role name →
          role = .method ∨ role = .parameter ∨ role = .property →
            (assembler.assemble context php).2 = php := by
  refine ⟨assemble_of_not_accepts assembler context php, ?_, ?_⟩
  · intro haccepts
    cases houtcome : (assembler.assemble context php).1 with
    | ok value => exact .inl rfl
    | error error =>
      obtain ⟨step, member, cause, rfl, _⟩ :=
        after_failure assembler context php haccepts houtcome
      exact .inr ⟨step, member, cause, rfl⟩
  · intro step className member cause herror
    cases haccepts : assembler.accepts context.kind with
    | false =>
      rw [assemble_of_not_accepts assembler context php haccepts] at herror
      cases herror
    | true =>
      obtain ⟨_, _, _, heq, hspares, hcause⟩ :=
        after_failure assembler context php haccepts herror
      cases heq
      refine ⟨hspares, ?_⟩
      rintro role name rfl hrole
      rcases hcause with rfl | hsame
      · rcases hrole with hrole | hrole | hrole <;> cases hrole
      · exact hsame

/-- A wrapper that is no name of a class is found out after the interface has been declared; the class
keeps the interface and has no member. -/
theorem assemble_failures_bad_wrapper :
    (Assembler.resultProvider (some "9lives")).accepts ContextKind.schemaType = true ∧
    ((Assembler.resultProvider (some "9lives")).assemble
        (.schemaType ⟨"App", "Order", [⟨"id", "int", "", {}⟩], "Order", by decide⟩)
        (.fresh "Order" "App")).1 =
      .error (.generation "UseAssembler" "App\\Order" "9lives"
        (.invalidIdentifier .typeName "9lives")) ∧
    (PhpClass.fresh "Order" "App").SparesMembers
      ((Assembler.resultProvider (some "9lives")).assemble
        (.schemaType ⟨"App", "Order", [⟨"id", "int", "", {}⟩], "Order", by decide⟩)
        (.fresh "Order" "App")).2 := by
  have houtcome : ((Assembler.resultProvider (some "9lives")).assemble
      (.schemaType ⟨"App", "Order", [⟨"id", "int", "", {}⟩], "Order", by decide⟩)
      (.fresh "Order" "App")).1 =
        .error (.generation "UseAssembler" "App\\Order" "9lives"
          (.invalidIdentifier .typeName "9lives")) := rfl
  exact ⟨rfl, houtcome, ((assemble_failures _ _ _).2.2 _ _ _ _ houtcome).1⟩

end Assembler

end SoapClasses
