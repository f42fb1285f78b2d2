import SoapClasses.Proofs.CommandRuns

/-!
# Stages of a run

A run of the generator finds the classes first: it loads the project and checks it, reads the description
of the service, generates the classes and compares their names. All of this only reads. Then it writes:
the output directory, the files and the report. The errors of the one stage are none of the other.
-/

namespace SoapClasses

/-- The error comes up before anything is written: it is no fault of the output directory, nor of a file
in it. -/
def CommandError.PrecedesOutput : CommandError → Prop
  | .outputDirectory _ _ => False
  | .output _ _ => False
  | _ => True

/-- Whatever the step fails with is such an error. -/
def FailsWith {α : Type} (allowed : CommandError → Prop) (step : CommandStep α) : Prop :=
  ∀ before error, (runOn step before).1 = .error error → allowed error

/-- However the step ends, it leaves the workspace as it was, and its errors come before any output. -/
structure OnlyReads {α : Type} (step : CommandStep α) : Prop where
  keeps : ∀ before, (runOn step before).2 = before
  fails : FailsWith CommandError.PrecedesOutput step

variable {α β : Type} {allowed : CommandError → Prop}

namespace FailsWith

theorem done (value : α) : FailsWith allowed (pure value : CommandStep α) := by
  intro before error h
  cases h

theorem lift (action : StateM Workspace α) : FailsWith allowed (ExceptT.lift action) := by
  intro before error h
  cases h

theorem result {outcome : Except CommandError α} (h : ∀ error, outcome = .error error → allowed error) :
    FailsWith allowed (ExceptT.mk (pure outcome)) :=
  fun _ error herror => h error herror

theorem access {action : StateM Workspace (Except FileFault α)} {wrap : FileFault → CommandError}
    (h : ∀ fault, allowed (wrap fault)) : FailsWith allowed (SoapClasses.access action wrap) := by
  intro before error herror
  have hrun : (runOn (SoapClasses.access action wrap) before).1 =
      (Id.run (action.run before)).1.mapError wrap := rfl
  rw [hrun] at herror
  cases houtcome : (Id.run (action.run before)).1 with
  | ok value =>
    rw [houtcome] at herror
    cases herror
  | error fault =>
    rw [houtcome] at herror
    cases herror
    exact h fault

theorem bind {first : CommandStep α} {next : α → CommandStep β} (h : FailsWith allowed first)
    (hnext : ∀ value, FailsWith allowed (next value)) : FailsWith allowed (first >>= next) := by
  intro before error herror
  rw [runOn_bind] at herror
  cases hfirst : runOn first before with
  | mk outcome middle =>
    rw [hfirst] at herror
    cases outcome with
    | ok value => exact hnext value middle error herror
    | error fault =>
      cases herror
      exact h before error (congrArg Prod.fst hfirst)

end FailsWith

namespace OnlyReads

theorem done (value : α) : OnlyReads (pure value : CommandStep α) :=
  ⟨fun _ => rfl, .done value⟩

theorem result {outcome : Except CommandError α}
    (h : ∀ error, outcome = .error error → error.PrecedesOutput) :
    OnlyReads (ExceptT.mk (pure outcome)) :=
  ⟨fun _ => rfl, .result h⟩

theorem readFile {path : String} {wrap : FileFault → CommandError}
    (h : ∀ fault, (wrap fault).PrecedesOutput) : OnlyReads (access (FileAccess.readFile path) wrap) :=
  ⟨fun _ => rfl, .access h⟩

theorem isPresent (path : String) : OnlyReads (ExceptT.lift (FileAccess.isPresent path)) :=
  ⟨fun _ => rfl, .lift _⟩

theorem bind {first : CommandStep α} {next : α → CommandStep β} (h : OnlyReads first)
    (hnext : ∀ value, OnlyReads (next value)) : OnlyReads (first >>= next) := by
  refine ⟨fun before => ?_, h.fails.bind fun value => (hnext value).fails⟩
  have hkeeps := h.keeps before
  rw [runOn_bind]
  cases hfirst : runOn first before with
  | mk outcome middle =>
    rw [hfirst] at hkeeps
    subst hkeeps
    cases outcome with
    | ok value => exact (hnext value).keeps middle
    | error fault => rfl

theorem eq_before {step : CommandStep α} (h : OnlyReads step) {before after : Workspace}
    {outcome : Except CommandError α} (hrun : runOn step before = (outcome, after)) :
    after = before := by
  have hkeeps := h.keeps before
  rwa [hrun] at hkeeps

end OnlyReads

/-! ## Finding the classes -/

theorem precedesOutput_of_requireDistinctFiles {seen : List String} {classes : List PhpClass}
    {error : CommandError} (h : requireDistinctFiles seen classes = .error error) :
    error.PrecedesOutput := by
  induction classes generalizing seen with
  | nil => cases h
  | cons php rest ih =>
    rw [requireDistinctFiles] at h
    split at h
    · cases h
      trivial
    · exact ih h

theorem precedesOutput_of_classesToWrite {project : Project} {path : String} {bytes : List UInt8}
    {error : CommandError} (h : classesToWrite project path bytes = .error error) :
    error.PrecedesOutput := by
  rcases bind_eq_error_iff.mp h with hparse | ⟨document, -, hfound⟩
  · obtain ⟨cause, -, rfl⟩ := mapError_eq_error_iff.mp hparse
    trivial
  · rcases bind_eq_error_iff.mp hfound with hclasses | ⟨classes, -, hchecked⟩
    · obtain ⟨cause, -, rfl⟩ := mapError_eq_error_iff.mp hclasses
      trivial
    · rcases bind_eq_error_iff.mp hchecked with hshared | ⟨_, -, hdone⟩
      · exact precedesOutput_of_requireDistinctFiles hshared
      · cases hdone

/-- The classes to write, found without writing anything. -/
def findClasses (metadata : String) (settings : Option String) : CommandStep (List PhpClass) := do
  let project ← loadProject settings
  ExceptT.mk (pure (project.validate.mapError .projectInvalid))
  let bytes ← access (FileAccess.readFile metadata) (.metadataUnreadable metadata)
  ExceptT.mk (pure (classesToWrite project metadata bytes))

/-- Makes the output directory, writes the classes to it and reports their number. -/
def writeOutput (directory : String) (classes : List PhpClass) : CommandStep Unit := do
  access (makeDirectories directory) (.outputDirectory directory)
  writeClasses directory classes
  ExceptT.lift (FileAccess.print (generatedLine classes.length directory))

theorem generate_eq (metadata directory : String) (settings : Option String) :
    generate metadata directory settings =
      findClasses metadata settings >>= writeOutput directory := by
  simp only [generate, findClasses, bind_assoc]
  rfl

theorem onlyReads_readProject (path : String) : OnlyReads (readProject path : CommandStep Project) := by
  unfold readProject
  refine .bind (.readFile fun fault => trivial) fun bytes => ?_
  split
  · refine .result fun error h => ?_
    cases h
    trivial
  · refine .result fun error h => ?_
    unfold Project.parse at h
    split at h
    · cases h
    · cases h
      trivial

theorem onlyReads_loadProject (settings : Option String) :
    OnlyReads (loadProject settings : CommandStep Project) := by
  unfold loadProject
  cases settings with
  | some path => exact onlyReads_readProject path
  | none =>
    apply (OnlyReads.isPresent defaultProjectFile).bind
    intro present
    split
    · exact onlyReads_readProject defaultProjectFile
    · exact .done _

theorem onlyReads_findClasses (metadata : String) (settings : Option String) :
    OnlyReads (findClasses metadata settings) := by
  unfold findClasses
  refine (onlyReads_loadProject settings).bind fun project => ?_
  refine .bind (.result fun error h => ?_) fun _ => ?_
  · obtain ⟨cause, -, rfl⟩ := mapError_eq_error_iff.mp h
    trivial
  refine .bind (.readFile fun fault => trivial) fun bytes => ?_
  exact .result fun error => precedesOutput_of_classesToWrite

/-! ## Writing the output -/

theorem failsWith_writeOutput (directory : String) (classes : List PhpClass) :
    FailsWith (fun error => ¬ error.PrecedesOutput) (writeOutput directory classes) := by
  have hwrites : FailsWith (fun error => ¬ error.PrecedesOutput)
      (writeClasses directory classes : CommandStep Unit) := by
    induction classes with
    | nil => exact .done ()
    | cons php rest ih => exact .bind (.access fun fault => not_false) fun _ => ih
  unfold writeOutput
  exact .bind (.access fun fault => not_false) fun _ => hwrites.bind fun _ => .lift _

end SoapClasses
