import SoapClasses.Proofs.StepEndings

/-!
# Sequences of steps

Steps of any kinds run on one class in order; a step that fails leaves what it had done, and the next
step runs all the same. As the edits and the outcome of a step depend on the name and the namespace of
the class only, a sequence leaves one log of edits. The log only adds, so a second run of the sequence
finds everything in place: it returns the same outcomes and leaves the same class.
-/

namespace SoapClasses

/-- An assembler with the context that it is given. -/
structure GenerationStep where
  assembler : Assembler
  context : GenerationContext
  deriving DecidableEq, Repr

/-- Runs steps on a class, failed or not: how each of them ended, and the class they leave. -/
def runSteps : List GenerationStep → PhpClass → List (Except AssemblyError Unit) × PhpClass
  | [], php => ([], php)
  | step :: rest, php =>
    let (outcome, next) := step.assembler.assemble step.context php
    let (outcomes, last) := runSteps rest next
    (outcome :: outcomes, last)

namespace GenerationStep

/-- What a step drafts for a class. -/
def draft (owner : ClassIdentity) (step : GenerationStep) : Draft AssemblyError Unit :=
  step.assembler.draft owner step.context

theorem isAddition_of_mem_edits {owner : ClassIdentity} {step : GenerationStep} {change : ClassEdit}
    (h : change ∈ (step.draft owner).edits) : change.IsAddition := by
  cases ha : step.assembler.accepts step.context.kind with
  | true => exact (step.assembler.endsWell_draft owner step.context ha).additions change h
  | false =>
    rw [draft, step.assembler.draft_of_not_accepts owner step.context ha] at h
    cases h

end GenerationStep

/-- The edits that steps make to a class, in order. -/
def editLog (owner : ClassIdentity) (steps : List GenerationStep) : List ClassEdit :=
  steps.flatMap (fun step => (step.draft owner).edits)

theorem isAddition_of_mem_editLog {owner : ClassIdentity} {steps : List GenerationStep}
    {change : ClassEdit} (h : change ∈ editLog owner steps) : change.IsAddition := by
  obtain ⟨step, _, hmem⟩ := List.mem_flatMap.mp h
  exact GenerationStep.isAddition_of_mem_edits hmem

/-- A run applies the log of its edits; what the steps find in the class has no part in it. -/
theorem runSteps_eq (steps : List GenerationStep) (php : PhpClass) :
    runSteps steps php =
      (steps.map (fun step => (step.draft php.toClassIdentity).outcome),
        php.amendAll (editLog php.toClassIdentity steps)) := by
  induction steps generalizing php with
  | nil => rfl
  | cons step rest ih =>
    have hrest := ih (php.amendAll (step.draft php.toClassIdentity).edits)
    rw [PhpClass.toClassIdentity_amendAll] at hrest
    have hrun : runSteps (step :: rest) php =
        ((step.draft php.toClassIdentity).outcome ::
            (runSteps rest (php.amendAll (step.draft php.toClassIdentity).edits)).1,
          (runSteps rest (php.amendAll (step.draft php.toClassIdentity).edits)).2) := rfl
    rw [hrun, hrest]
    simp only [editLog, List.flatMap_cons, List.map_cons, PhpClass.amendAll_append]

/-- A sequence of steps that is run on its own result returns what it returned before and leaves the
class as it is. -/
theorem runSteps_again (steps : List GenerationStep) (php : PhpClass) :
    runSteps steps (runSteps steps php).2 = runSteps steps php := by
  have hadditions : ∀ change ∈ editLog php.toClassIdentity steps, change.IsAddition :=
    fun change hmem => isAddition_of_mem_editLog hmem
  have hagain := php.amendAll_amendAll (editLog php.toClassIdentity steps) hadditions
  rw [runSteps_eq steps php]
  simp only [runSteps_eq, PhpClass.toClassIdentity_amendAll, hagain]

end SoapClasses
