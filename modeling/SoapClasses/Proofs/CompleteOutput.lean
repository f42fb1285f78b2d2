import SoapClasses.Proofs.OutputConfinement

/-!
# Complete output

Faults of the disk aside, a run of the generator writes the files of all classes or changes nothing. What
can go wrong with the project, with the description of the service or with one of the classes has gone
wrong before the output directory is made; when nothing has, and the classes are named by identifiers, a
run that succeeds adds the output directory, those above it, and one file for each class.
-/

namespace SoapClasses

/-- The classes have been written: each stands in a file of its own in the output directory, their number
is reported, and nothing else is new but the output directory and those above it. -/
structure OutputWritten (before after : Workspace) (directory : String)
    (classes : List PhpClass) : Prop extends OutputConfined before after directory classes where
  home : after.home = before.home
  /-- A path without names is that of the root or of the working directory. -/
  made : pathNames directory ≠ [] → after.tree.isDirectory after.home directory = true
  led : ∀ location, before.tree.node? location = none →
    after.tree.node? location = some .directory →
      ∃ path ∈ directory :: parentPaths directory,
        after.tree.placeOf after.home path = some location

variable {metadata directory : String} {settings : Option String} {before after : Workspace}
  {classes : List PhpClass}

theorem outputWritten_of_identifiers {prepared written : Workspace}
    (hmake : Id.run ((makeDirectories directory : StateM Workspace _).run before) = (.ok (), prepared))
    (hwrite : runOn (writeClasses directory classes) prepared = (.ok (), written))
    (hdistinct : (classes.map (fun php => php.name)).Nodup)
    (hnames : ∀ php ∈ classes, isIdentifier php.name = true) :
    OutputWritten before
      { written with printed := written.printed ++ generatedLine classes.length directory }
      directory classes := by
  have hprepared := addsDirectoriesAt_of_makeDirectories hmake
  have hfiles := filesWritten_of_writeClasses
    (fun php hmem => PhpClass.fileName_of_isIdentifier (hnames php hmem))
    (nodup_fileNames hdistinct) hwrite
  have hconfined := outputConfined_of_identifiers hprepared.toAddsDirectories hwrite hdistinct hnames
  refine ⟨hconfined, hfiles.home.trans hprepared.home, ?_, ?_⟩
  · intro hpath
    show written.tree.isDirectory written.home directory = true
    rw [hfiles.home]
    exact hfiles.grows.isDirectory (isDirectory_of_makeDirectories hpath hmake)
  · intro location hnone hdirectory
    have hother : ∀ php ∈ classes, written.fileOf directory php ≠ some location := by
      intro php hmem hfile
      obtain ⟨place, hplace, hnode⟩ := hfiles.written php hmem
      rw [hplace, Option.some.injEq] at hfile
      rw [hfile] at hnode
      cases hnode.symm.trans hdirectory
    have hsome : prepared.tree.node? location ≠ none := by
      rw [← hfiles.elsewhere location hother]
      intro habsent
      cases habsent.symm.trans hdirectory
    exact hprepared.placeOf_of_grows hfiles.grows hfiles.home hnone hsome

/-- There are classes to write: nothing is wrong with the project, with the description of the service,
with any of the classes or with their names. -/
def HasClasses (metadata : String) (settings : Option String) (before : Workspace) : Prop :=
  ∃ project document classes, GeneratedFrom metadata settings before project document classes

theorem runOn_generate_of_not_hasClasses (directory : String)
    (h : ¬ HasClasses metadata settings before) :
    ∃ error, error.PrecedesOutput ∧
      runOn (generate metadata directory settings) before = (.error error, before) := by
  have hreads := onlyReads_findClasses metadata settings
  cases hfind : runOn (findClasses metadata settings) before with
  | mk outcome middle =>
    have hsame := hreads.eq_before hfind
    subst hsame
    cases outcome with
    | ok classes =>
      obtain ⟨-, project, document, hfrom⟩ := findClasses_eq_ok_iff.mp hfind
      exact absurd ⟨project, document, classes, hfrom⟩ h
    | error error =>
      refine ⟨error, hreads.fails _ _ (congrArg Prod.fst hfind), ?_⟩
      rw [generate_eq, runOn_bind, hfind]

theorem not_precedesOutput_of_hasClasses (h : HasClasses metadata settings before)
    {error : CommandError}
    (hrun : runOn (generate metadata directory settings) before = (.error error, after)) :
    ¬ error.PrecedesOutput := by
  obtain ⟨project, document, classes, hfrom⟩ := h
  have hfind := (@findClasses_eq_ok_iff metadata settings before before classes).mpr
    ⟨rfl, project, document, hfrom⟩
  rw [generate_eq, runOn_bind, hfind] at hrun
  exact failsWith_writeOutput directory classes before error (congrArg Prod.fst hrun)

/-- A run without classes to write fails before any output and leaves everything as it was, and no other
run does so. A run that succeeds has classes to write, and has written them all if they are named by
identifiers. -/
theorem generate_all_or_nothing (metadata directory : String) (settings : Option String)
    (before : Workspace) :
    (¬ HasClasses metadata settings before → ∃ error, error.PrecedesOutput ∧
      runOn (generate metadata directory settings) before = (.error error, before)) ∧
    (∀ error after, runOn (generate metadata directory settings) before = (.error error, after) →
      error.PrecedesOutput → ¬ HasClasses metadata settings before ∧ after = before) ∧
    (∀ after, runOn (generate metadata directory settings) before = (.ok (), after) →
      ∃ project document classes,
        GeneratedFrom metadata settings before project document classes ∧
        ((∀ php ∈ classes, isIdentifier php.name = true) →
          OutputWritten before after directory classes)) := by
  refine ⟨runOn_generate_of_not_hasClasses directory, ?_, ?_⟩
  · intro error after hrun hprecedes
    have hnone : ¬ HasClasses metadata settings before :=
      fun hclasses => not_precedesOutput_of_hasClasses hclasses hrun hprecedes
    obtain ⟨_, -, hfailed⟩ := runOn_generate_of_not_hasClasses directory hnone
    exact ⟨hnone, congrArg Prod.snd (hrun.symm.trans hfailed)⟩
  · intro after hrun
    obtain ⟨project, document, classes, prepared, written, hfrom, hmake, hwrite, rfl⟩ :=
      generate_eq_ok hrun
    exact ⟨project, document, classes, hfrom,
      outputWritten_of_identifiers hmake hwrite hfrom.distinct⟩

/-- One run writes its class, another one finds no description and leaves everything as it was. -/
theorem generate_all_or_nothing_shop :
    (∃ after classes,
      runOn (generate "service.json" "build/out" none) (describing "Shop") = (.ok (), after) ∧
      after.printed = "Generated 1 class(es) in build/out\n" ∧
      OutputWritten (describing "Shop") after "build/out" classes) ∧
    ∃ error, runOn (generate "absent.json" "build/out" none) (describing "Shop") =
      (.error error, describing "Shop") := by
  constructor
  · have hran : (runOn (generate "service.json" "build/out" none) (describing "Shop")).1.isOk = true ∧
        (runOn (generate "service.json" "build/out" none) (describing "Shop")).2.printed =
          "Generated 1 class(es) in build/out\n" := by
      decide +kernel
    obtain ⟨hrun, hprinted⟩ := hran
    obtain ⟨project, document, classes, hfrom, hwritten⟩ :=
      (generate_all_or_nothing "service.json" "build/out" none (describing "Shop")).2.2 _
        (runOn_eq_ok_of_isOk hrun)
    exact ⟨_, classes, runOn_eq_ok_of_isOk hrun, hprinted,
      hwritten (hfrom.isIdentifier_iff.mpr (namesIdentifiers_shop hfrom))⟩
  · have habsent : ¬ HasClasses "absent.json" none (describing "Shop") := by
      rintro ⟨project, document, classes, hfrom⟩
      obtain ⟨bytes, hread, -⟩ := hfrom.described
      have hnone : ((describing "Shop").tree.read (describing "Shop").home "absent.json").isOk = false := by
        decide +kernel
      rw [hread] at hnone
      cases hnone
    obtain ⟨error, -, hrun⟩ :=
      (generate_all_or_nothing "absent.json" "build/out" none (describing "Shop")).1 habsent
    exact ⟨error, hrun⟩

end SoapClasses
