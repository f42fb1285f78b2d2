import SoapClasses.ClassGeneration
import SoapClasses.Proofs.StepSequences

/-!
# Runs of pipelines

A pipeline runs the steps that accept their contexts. It succeeds exactly when all of them do, and then
it leaves the log of their edits on the class; otherwise it ends with the error of the first step that
fails. Both generators are runs of this sort from an empty class.
-/

namespace SoapClasses

/-- The steps all succeed on the first class, and their edits make the last one of it. -/
def Leads (steps : List GenerationStep) (php last : PhpClass) : Prop :=
  (∀ step ∈ steps, (step.draft php.toClassIdentity).outcome = .ok ()) ∧
    php.amendAll (editLog php.toClassIdentity steps) = last

theorem leads_nil (php last : PhpClass) : Leads [] php last ↔ php = last := by
  simp [Leads, editLog, PhpClass.amendAll]

theorem leads_iff_runSteps {steps : List GenerationStep} {php last : PhpClass} :
    Leads steps php last ↔
      (∀ step ∈ steps, (step.draft php.toClassIdentity).outcome = .ok ()) ∧
        (runSteps steps php).2 = last := by
  rw [runSteps_eq]
  rfl

theorem leads_append (first rest : List GenerationStep) (php last : PhpClass) :
    Leads (first ++ rest) php last ↔ ∃ next, Leads first php next ∧ Leads rest next last := by
  have hlog : editLog php.toClassIdentity (first ++ rest) =
      editLog php.toClassIdentity first ++ editLog php.toClassIdentity rest := List.flatMap_append
  constructor
  · rintro ⟨hall, hlast⟩
    refine ⟨_, ⟨fun step hmem => hall step (List.mem_append_left _ hmem), rfl⟩, ?_, ?_⟩
    · intro step hmem
      rw [PhpClass.toClassIdentity_amendAll]
      exact hall step (List.mem_append_right _ hmem)
    · rw [PhpClass.toClassIdentity_amendAll, ← PhpClass.amendAll_append, ← hlog]
      exact hlast
  · rintro ⟨next, ⟨hfirst, rfl⟩, hrest, hlast⟩
    rw [PhpClass.toClassIdentity_amendAll] at hrest hlast
    refine ⟨?_, ?_⟩
    · intro step hmem
      rcases List.mem_append.mp hmem with hmem | hmem
      · exact hfirst step hmem
      · exact hrest step hmem
    · rw [hlog, PhpClass.amendAll_append]
      exact hlast

theorem leads_singleton (assembler : Assembler) (context : GenerationContext)
    (php last : PhpClass) :
    Leads [⟨assembler, context⟩] php last ↔ assembler.assemble context php = (.ok (), last) := by
  simp [Leads, editLog, Assembler.assemble, GenerationStep.draft, Draft.applyTo]

theorem Leads.toClassIdentity_eq {steps : List GenerationStep} {php last : PhpClass}
    (h : Leads steps php last) : last.toClassIdentity = php.toClassIdentity := by
  rw [← h.2]
  exact php.toClassIdentity_amendAll _

/-- The steps of a pipeline on a context: the assemblers that accept it. -/
def stepsOn (assemblers : List Assembler) (context : GenerationContext) : List GenerationStep :=
  (assemblers.filter (fun assembler => assembler.accepts context.kind)).map
    (fun assembler => ⟨assembler, context⟩)

theorem runPipeline_ok_iff (assemblers : List Assembler) (context : GenerationContext)
    (php last : PhpClass) :
    (∃ count, runPipeline assemblers context php = (.ok count, last)) ↔
      Leads (stepsOn assemblers context) php last := by
  induction assemblers generalizing php with
  | nil => simp [runPipeline, stepsOn, leads_nil]
  | cons assembler rest ih =>
    cases haccepts : assembler.accepts context.kind with
    | false => simpa [runPipeline, stepsOn, haccepts] using ih php
    | true =>
      have hsteps : stepsOn (assembler :: rest) context =
          [⟨assembler, context⟩] ++ stepsOn rest context := by simp [stepsOn, haccepts]
      rw [hsteps, leads_append, runPipeline, if_pos haccepts]
      simp only [leads_singleton, ← ih]
      cases assembler.assemble context php with
      | mk outcome next =>
        cases outcome with
        | error error => simp
        | ok value =>
          cases hrest : runPipeline rest context next with
          | mk outcome final => cases outcome <;> simp [hrest]

/-- The steps of a pipeline on several contexts. -/
def stepsOnAll (assemblers : List Assembler) (contexts : List GenerationContext) :
    List GenerationStep :=
  contexts.flatMap (stepsOn assemblers)

theorem runOnAll_eq_ok_iff (assemblers : List Assembler) (contexts : List GenerationContext)
    (php last : PhpClass) :
    runOnAll assemblers contexts php = .ok last ↔
      Leads (stepsOnAll assemblers contexts) php last := by
  induction contexts generalizing php with
  | nil => simp [runOnAll, stepsOnAll, leads_nil]
  | cons context rest ih =>
    have hsteps : stepsOnAll assemblers (context :: rest) =
        stepsOn assemblers context ++ stepsOnAll assemblers rest := rfl
    rw [hsteps, leads_append]
    simp only [← runPipeline_ok_iff, ← ih]
    cases hrun : runPipeline assemblers context php with
    | mk outcome next => cases outcome <;> simp [runOnAll, hrun]

namespace GenerationStep

/-- The error of a step on a class, if it fails. -/
def failure (owner : ClassIdentity) (step : GenerationStep) : Option AssemblyError :=
  match (step.draft owner).outcome with
  | .ok _ => none
  | .error error => some error

theorem failure_eq_some_iff {owner : ClassIdentity} {step : GenerationStep} {error : AssemblyError} :
    step.failure owner = some error ↔ (step.draft owner).outcome = .error error := by
  unfold failure
  cases (step.draft owner).outcome <;> simp

theorem failure_eq_none_iff {owner : ClassIdentity} {step : GenerationStep} :
    step.failure owner = none ↔ (step.draft owner).outcome = .ok () := by
  unfold failure
  cases (step.draft owner).outcome <;> simp

end GenerationStep

/-- The error of the first step that fails on a class, if any does. -/
def firstFailure (owner : ClassIdentity) (steps : List GenerationStep) : Option AssemblyError :=
  steps.findSome? (GenerationStep.failure owner)

theorem firstFailure_append (owner : ClassIdentity) (first rest : List GenerationStep) :
    firstFailure owner (first ++ rest) = (firstFailure owner first).or (firstFailure owner rest) :=
  List.findSome?_append

theorem Leads.firstFailure_eq {steps : List GenerationStep} {php last : PhpClass}
    (h : Leads steps php last) : firstFailure php.toClassIdentity steps = none := by
  apply List.findSome?_eq_none_iff.mpr
  intro step hmem
  exact GenerationStep.failure_eq_none_iff.mpr (h.1 step hmem)

theorem leads_of_firstFailure {steps : List GenerationStep} {php : PhpClass}
    (h : firstFailure php.toClassIdentity steps = none) :
    Leads steps php (php.amendAll (editLog php.toClassIdentity steps)) := by
  refine ⟨?_, rfl⟩
  intro step hmem
  exact GenerationStep.failure_eq_none_iff.mp (List.findSome?_eq_none_iff.mp h step hmem)

/-- Steps without a failure leave the class extended by the log of their edits. -/
theorem leads_iff_extended {steps : List GenerationStep} {php last : PhpClass} :
    Leads steps php last ↔ firstFailure php.toClassIdentity steps = none ∧
      last = php.extended (editLog php.toClassIdentity steps) := by
  have hextended := php.amendAll_eq_extended (editLog php.toClassIdentity steps)
    (fun _ hmem => isAddition_of_mem_editLog hmem)
  rw [← hextended]
  constructor
  · intro h
    exact ⟨h.firstFailure_eq, h.2.symm⟩
  · rintro ⟨hnone, rfl⟩
    exact leads_of_firstFailure hnone

theorem runPipeline_error_iff (assemblers : List Assembler) (context : GenerationContext)
    (php : PhpClass) (error : AssemblyError) :
    (∃ last, runPipeline assemblers context php = (.error error, last)) ↔
      firstFailure php.toClassIdentity (stepsOn assemblers context) = some error := by
  induction assemblers generalizing php with
  | nil => simp [runPipeline, stepsOn, firstFailure]
  | cons assembler rest ih =>
    cases haccepts : assembler.accepts context.kind with
    | false => simpa [runPipeline, stepsOn, haccepts] using ih php
    | true =>
      have hsteps : stepsOn (assembler :: rest) context =
          ⟨assembler, context⟩ :: stepsOn rest context := by simp [stepsOn, haccepts]
      have hfailure : GenerationStep.failure php.toClassIdentity ⟨assembler, context⟩ =
          match (assembler.assemble context php).1 with
          | .ok _ => none
          | .error error => some error := rfl
      have hidentity : (assembler.assemble context php).2.toClassIdentity = php.toClassIdentity :=
        php.toClassIdentity_amendAll _
      rw [hsteps, firstFailure, List.findSome?_cons, hfailure, runPipeline, if_pos haccepts]
      cases hrun : assembler.assemble context php with
      | mk outcome next =>
        rw [hrun] at hidentity
        cases outcome with
        | error failed => simp
        | ok value =>
          have hrest := ih next
          rw [hidentity, firstFailure] at hrest
          cases hnext : runPipeline rest context next with
          | mk outcome final => cases outcome <;> simp_all

theorem runOnAll_eq_error_iff (assemblers : List Assembler) (contexts : List GenerationContext)
    (php : PhpClass) (error : AssemblyError) :
    runOnAll assemblers contexts php = .error error ↔
      firstFailure php.toClassIdentity (stepsOnAll assemblers contexts) = some error := by
  induction contexts generalizing php with
  | nil => simp [runOnAll, stepsOnAll, firstFailure]
  | cons context rest ih =>
    have hsteps : stepsOnAll assemblers (context :: rest) =
        stepsOn assemblers context ++ stepsOnAll assemblers rest := rfl
    rw [hsteps, firstFailure_append]
    cases hrun : runPipeline assemblers context php with
    | mk outcome next =>
      cases outcome with
      | error failed =>
        have hfailed := (runPipeline_error_iff assemblers context php failed).mp ⟨next, hrun⟩
        simp [runOnAll, hrun, hfailed]
      | ok count =>
        have hleads := (runPipeline_ok_iff assemblers context php next).mp ⟨count, hrun⟩
        rw [hleads.firstFailure_eq, Option.none_or, ← hleads.toClassIdentity_eq, ← ih next]
        simp [runOnAll, hrun]

theorem stepsOnAll_singleton {assembler : Assembler} {contexts : List GenerationContext}
    (h : ∀ context ∈ contexts, assembler.accepts context.kind = true) :
    stepsOnAll [assembler] contexts = contexts.map (fun context => ⟨assembler, context⟩) := by
  induction contexts with
  | nil => rfl
  | cons context rest ih =>
    have hrest := ih (fun other hmem => h other (List.mem_cons_of_mem _ hmem))
    have hcontext : stepsOn [assembler] context = [⟨assembler, context⟩] := by
      simp [stepsOn, h context List.mem_cons_self]
    calc stepsOnAll [assembler] (context :: rest)
        = stepsOn [assembler] context ++ stepsOnAll [assembler] rest := rfl
      _ = _ := by rw [hcontext, hrest]; rfl

theorem runOnAll_bind_eq_ok_iff (first next : List Assembler)
    (contexts others : List GenerationContext) (php last : PhpClass) :
    (runOnAll first contexts php >>= runOnAll next others) = .ok last ↔
      Leads (stepsOnAll first contexts ++ stepsOnAll next others) php last := by
  rw [leads_append, bind_eq_ok_iff]
  simp only [runOnAll_eq_ok_iff]

theorem runOnAll_bind_eq_error_iff (first next : List Assembler)
    (contexts others : List GenerationContext) (php : PhpClass) (error : AssemblyError) :
    (runOnAll first contexts php >>= runOnAll next others) = .error error ↔
      firstFailure php.toClassIdentity (stepsOnAll first contexts ++ stepsOnAll next others) =
        some error := by
  rw [firstFailure_append]
  cases hrun : runOnAll first contexts php with
  | error failed =>
    have hfailed := (runOnAll_eq_error_iff first contexts php failed).mp hrun
    simp [bind, Except.bind, hfailed]
  | ok middle =>
    have hleads := (runOnAll_eq_ok_iff first contexts php middle).mp hrun
    rw [hleads.firstFailure_eq, Option.none_or, ← hleads.toClassIdentity_eq]
    exact runOnAll_eq_error_iff next others middle error

/-- The steps that make the class for a client. -/
def ClientDescription.steps (client : ClientDescription) : List GenerationStep :=
  ⟨.clientConstructor, .client⟩ ::
    client.operations.map (fun operation => ⟨.clientMethod, .operation operation⟩)

theorem ClientDescription.steps_eq (client : ClientDescription) :
    client.steps = stepsOnAll [.clientConstructor] [.client] ++
      stepsOnAll [.clientMethod] (client.operations.map .operation) := by
  have hmethods : stepsOnAll [.clientMethod] (client.operations.map .operation) =
      client.operations.map (fun operation => ⟨.clientMethod, .operation operation⟩) := by
    rw [stepsOnAll_singleton, List.map_map]
    · rfl
    · intro context hmem
      obtain ⟨operation, _, rfl⟩ := List.mem_map.mp hmem
      rfl
  rw [hmethods]
  rfl

theorem generateClient_eq_ok_iff (client : ClientDescription) (php : PhpClass) :
    generateClient client = .ok php ↔
      Leads client.steps (PhpClass.fresh client.name client.ns) php := by
  rw [client.steps_eq]
  exact runOnAll_bind_eq_ok_iff _ _ _ _ _ _

theorem generateClient_eq_error_iff (client : ClientDescription) (error : AssemblyError) :
    generateClient client = .error error ↔
      firstFailure (PhpClass.fresh client.name client.ns).toClassIdentity client.steps =
        some error := by
  rw [client.steps_eq]
  exact runOnAll_bind_eq_error_iff _ _ _ _ _ _

/-- The steps that make the class for a type. -/
def GeneratorSettings.typeSteps (settings : GeneratorSettings) (schema : SchemaType) :
    List GenerationStep :=
  stepsOnAll settings.typePipeline [.schemaType schema] ++
    stepsOnAll settings.propertyPipeline (schema.properties.map (.property schema))

theorem generateType_eq_ok_iff (settings : GeneratorSettings) (schema : SchemaType)
    (php : PhpClass) :
    generateType settings schema = .ok php ↔
      Leads (settings.typeSteps schema)
        (PhpClass.fresh (className schema.name) schema.ns) php :=
  runOnAll_bind_eq_ok_iff _ _ _ _ _ _

end SoapClasses
