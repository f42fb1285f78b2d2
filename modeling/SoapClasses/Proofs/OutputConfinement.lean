import Mathlib.Data.List.Nodup
import SoapClasses.Proofs.CommandStages
import SoapClasses.Proofs.OutputFiles

/-!
# Confinement of the output

A run of the generator is meant to write one file for each class, all of them in the output directory,
and to make no other changes than the directories on the way. The names of types and of a client that
comes with the service description are not checked before they become names of files, so this holds
exactly for the descriptions whose names are identifiers.
-/

namespace SoapClasses

/-- What a successful run has found before it writes. -/
structure GeneratedFrom (metadata : String) (settings : Option String) (before : Workspace)
    (project : Project) (document : ServiceDocument) (classes : List PhpClass) : Prop where
  loaded : runOn (loadProject settings) before = (.ok project, before)
  valid : project.validate = .ok ()
  described : ∃ bytes, before.tree.read before.home metadata = .ok bytes ∧
    ServiceDocument.parse bytes = .ok document
  generated : project.classes document = .ok classes
  distinct : (classes.map (fun php => php.name)).Nodup

/-- The classes are named by identifiers, each stands in a file of its own in the output directory, behind
an opening tag and an empty line, and apart from these files there are new directories only. Their number
is reported. -/
structure OutputConfined (before after : Workspace) (directory : String)
    (classes : List PhpClass) : Prop where
  names : ∀ php ∈ classes, isIdentifier php.name = true
  written : ∀ php ∈ classes, ∃ location, after.fileOf directory php = some location ∧
    after.tree.node? location = some (.file ("<?php\n\n" ++ php.render).toUTF8.toList)
  elsewhere : ∀ location, (∀ php ∈ classes, after.fileOf directory php ≠ some location) →
    after.tree.node? location = before.tree.node? location ∨
      before.tree.node? location = none ∧ after.tree.node? location = some .directory
  distinct : (classes.map (after.fileOf directory)).Nodup
  reported : after.printed = before.printed ++
    ("Generated " ++ toString classes.length ++ " class(es) in " ++ directory ++ "\n")

variable {metadata directory : String} {settings : Option String} {before after : Workspace}
  {project : Project} {document : ServiceDocument} {classes : List PhpClass}

theorem classesToWrite_eq_ok_iff {path : String} {bytes : List UInt8} :
    classesToWrite project path bytes = .ok classes ↔
      ∃ document, ServiceDocument.parse bytes = .ok document ∧
        project.classes document = .ok classes ∧ (classes.map (fun php => php.name)).Nodup := by
  have hdistinct (found : List PhpClass) : requireDistinctFiles [] found = .ok () ↔
      (found.map (fun php => php.name)).Nodup := by
    rw [requireDistinctFiles_eq_ok_iff, firstRepeated_eq_none_iff]
    exact and_iff_left (fun _ _ => List.not_mem_nil)
  unfold classesToWrite
  simp only [bind_eq_ok_iff, mapError_eq_ok_iff, hdistinct]
  constructor
  · rintro ⟨document, hparse, found, hclasses, _, hnames, heq⟩
    cases heq
    exact ⟨document, hparse, hclasses, hnames⟩
  · rintro ⟨document, hparse, hclasses, hnames⟩
    exact ⟨document, hparse, classes, hclasses, (), hnames, rfl⟩

theorem findClasses_eq_ok_iff :
    runOn (findClasses metadata settings) before = (.ok classes, after) ↔
      after = before ∧ ∃ project document,
        GeneratedFrom metadata settings before project document classes := by
  constructor
  · intro h
    refine ⟨(onlyReads_findClasses metadata settings).eq_before h, ?_⟩
    obtain ⟨project, first, hload, hchecked⟩ := runOn_bind_eq_ok_iff.mp h
    have hfirst := (onlyReads_loadProject settings).eq_before hload
    subst hfirst
    obtain ⟨_, second, hcheck, hdescribed⟩ := runOn_bind_eq_ok_iff.mp hchecked
    obtain ⟨hvalid, rfl⟩ := runOn_mk_pure_eq_ok_iff.mp hcheck
    obtain ⟨bytes, third, hdescription, hgenerated⟩ := runOn_bind_eq_ok_iff.mp hdescribed
    obtain ⟨hread, rfl⟩ := runOn_readFile_eq_ok_iff.mp hdescription
    obtain ⟨hfound, -⟩ := runOn_mk_pure_eq_ok_iff.mp hgenerated
    obtain ⟨document, hparse, hclasses, hdistinct⟩ := classesToWrite_eq_ok_iff.mp hfound
    exact ⟨project, document, hload, mapError_eq_ok_iff.mp hvalid, ⟨bytes, hread, hparse⟩,
      hclasses, hdistinct⟩
  · rintro ⟨rfl, project, document, hfrom⟩
    obtain ⟨bytes, hread, hparse⟩ := hfrom.described
    refine runOn_bind_eq_ok_iff.mpr ⟨project, after, hfrom.loaded, ?_⟩
    refine runOn_bind_eq_ok_iff.mpr ⟨(), after, ?_, ?_⟩
    · exact runOn_mk_pure_eq_ok_iff.mpr ⟨mapError_eq_ok_iff.mpr hfrom.valid, rfl⟩
    · refine runOn_bind_eq_ok_iff.mpr ⟨bytes, after, runOn_readFile_eq_ok_iff.mpr ⟨hread, rfl⟩, ?_⟩
      refine runOn_mk_pure_eq_ok_iff.mpr ⟨?_, rfl⟩
      exact classesToWrite_eq_ok_iff.mpr ⟨document, hparse, hfrom.generated, hfrom.distinct⟩

/-- Output that is written with success: the directory is made, the classes are written to it and their
number is reported. -/
theorem writeOutput_eq_ok (h : runOn (writeOutput directory classes) before = (.ok (), after)) :
    ∃ prepared written,
      Id.run ((makeDirectories directory : StateM Workspace _).run before) = (.ok (), prepared) ∧
      runOn (writeClasses directory classes) prepared = (.ok (), written) ∧
      after = { written with
        printed := written.printed ++ generatedLine classes.length directory } := by
  obtain ⟨_, prepared, hmake, hfiles⟩ := runOn_bind_eq_ok_iff.mp h
  obtain ⟨_, written, hwrite, hprint⟩ := runOn_bind_eq_ok_iff.mp hfiles
  exact ⟨prepared, written, runOn_access_eq_ok_iff.mp hmake, hwrite,
    (congrArg Prod.snd (runOn_lift_eq_ok_iff.mp hprint)).symm⟩

theorem addsDirectoriesAt_of_makeDirectories {outcome : Except FileFault Unit}
    (h : Id.run ((makeDirectories directory : StateM Workspace _).run before) = (outcome, after)) :
    before.AddsDirectoriesAt (directory :: parentPaths directory) after := by
  have hmade := OnlyMakesDirectories.makeDirectories directory before
  rwa [show (makeDirectories directory : StateM Workspace _).run before = (outcome, after) from h]
    at hmade

theorem generate_eq_ok (h : runOn (generate metadata directory settings) before = (.ok (), after)) :
    ∃ project document classes prepared written,
      GeneratedFrom metadata settings before project document classes ∧
      Id.run ((makeDirectories directory : StateM Workspace _).run before) = (.ok (), prepared) ∧
      runOn (writeClasses directory classes) prepared = (.ok (), written) ∧
      after = { written with
        printed := written.printed ++ generatedLine classes.length directory } := by
  rw [generate_eq] at h
  obtain ⟨classes, middle, hfind, hwrite⟩ := runOn_bind_eq_ok_iff.mp h
  obtain ⟨rfl, project, document, hfrom⟩ := findClasses_eq_ok_iff.mp hfind
  obtain ⟨prepared, written, hmake, hfiles, rfl⟩ := writeOutput_eq_ok hwrite
  exact ⟨project, document, classes, prepared, written, hfrom, hmake, hfiles, rfl⟩

theorem nodup_fileNames (h : (classes.map (fun php => php.name)).Nodup) :
    (classes.map PhpClass.fileName).Nodup := by
  have hinjective : Function.Injective (fun name : String => name ++ ".php") := by
    intro name other heq
    have hchars := congrArg String.toList heq
    simp only [String.toList_append] at hchars
    exact String.toList_injective (List.append_cancel_right hchars)
  have hnames : classes.map PhpClass.fileName =
      (classes.map (fun php => php.name)).map (fun name => name ++ ".php") := by
    rw [List.map_map]
    rfl
  rw [hnames]
  exact List.Nodup.map hinjective h

theorem FilesWritten.nodup_fileOf (h : FilesWritten before after directory classes)
    (hdistinct : (classes.map PhpClass.fileName).Nodup) :
    (classes.map (after.fileOf directory)).Nodup := by
  cases hplace : after.tree.placeOf after.home directory with
  | none =>
    cases classes with
    | nil => exact List.nodup_nil
    | cons php rest =>
      obtain ⟨location, hfile, _⟩ := h.written php List.mem_cons_self
      rw [Workspace.fileOf, hplace] at hfile
      cases hfile
  | some place =>
    have hinjective : Function.Injective (fun name : String => some (place ++ [name])) := by
      intro name other heq
      simpa using heq
    have hfiles : classes.map (after.fileOf directory) =
        (classes.map PhpClass.fileName).map (fun name => some (place ++ [name])) := by
      rw [List.map_map]
      apply List.map_congr_left
      intro php _
      rw [Workspace.fileOf, hplace]
      rfl
    rw [hfiles]
    exact List.Nodup.map hinjective hdistinct

theorem outputConfined_of_identifiers {prepared written : Workspace}
    (hprepared : before.AddsDirectories prepared)
    (hwrite : runOn (writeClasses directory classes) prepared = (.ok (), written))
    (hdistinct : (classes.map (fun php => php.name)).Nodup)
    (hnames : ∀ php ∈ classes, isIdentifier php.name = true) :
    OutputConfined before
      { written with printed := written.printed ++ generatedLine classes.length directory }
      directory classes := by
  have hfileNames := nodup_fileNames hdistinct
  have hfiles := filesWritten_of_writeClasses
    (fun php hmem => PhpClass.fileName_of_isIdentifier (hnames php hmem)) hfileNames hwrite
  refine ⟨hnames, hfiles.written, ?_, hfiles.nodup_fileOf hfileNames, ?_⟩
  · intro location hother
    have hsame : written.tree.node? location = prepared.tree.node? location :=
      hfiles.elsewhere location hother
    show written.tree.node? location = _ ∨ _ ∧ written.tree.node? location = _
    rw [hsame]
    exact hprepared.tree location
  · show written.printed ++ _ = _
    rw [hfiles.printed, hprepared.printed, generatedLine]

theorem GeneratedFrom.isIdentifier_iff
    (h : GeneratedFrom metadata settings before project document classes) :
    (∀ php ∈ classes, isIdentifier php.name = true) ↔ project.NamesIdentifiers document := by
  rw [← Project.isIdentifier_classNames_iff h.valid, ← Project.names_classes h.generated]
  simp only [List.forall_mem_map]

/-- A run that succeeds confines its output exactly when the service description leads to identifiers
as names of classes. -/
theorem generate_confined_iff
    (h : runOn (generate metadata directory settings) before = (.ok (), after)) :
    ∃ project document classes,
      GeneratedFrom metadata settings before project document classes ∧
      (OutputConfined before after directory classes ↔ project.NamesIdentifiers document) := by
  obtain ⟨project, document, classes, prepared, written, hfrom, hmake, hwrite, rfl⟩ :=
    generate_eq_ok h
  have hprepared := (addsDirectoriesAt_of_makeDirectories hmake).toAddsDirectories
  refine ⟨project, document, classes, hfrom, ?_⟩
  constructor
  · intro hconfined
    exact hfrom.isIdentifier_iff.mp hconfined.names
  · intro hnames
    exact outputConfined_of_identifiers hprepared hwrite hfrom.distinct
      (hfrom.isIdentifier_iff.mpr hnames)

/-- A workspace with the description of a service that has a client of this name and nothing else. -/
def describing (client : String) : Workspace where
  tree := ⟨[(["service.json"], .file
    ("\x7b\"client\": \x7b\"name\": \"" ++ client
      ++ "\", \"namespace\": \"App\"\x7d\x7d").toUTF8.toList)]⟩

theorem namesIdentifiers_shop
    (h : GeneratedFrom "service.json" none (describing "Shop") project document classes) :
    project.NamesIdentifiers document := by
  obtain ⟨bytes, hread, hparse⟩ := h.described
  have hdocument : ((describing "Shop").tree.read (describing "Shop").home "service.json").toOption.bind
      (fun bytes => (ServiceDocument.parse bytes).toOption) =
        some ⟨[], some ⟨"Shop", "App", []⟩⟩ := by
    decide +kernel
  rw [hread] at hdocument
  simp only [Except.toOption, Option.bind_some, hparse, Option.some.injEq] at hdocument
  subst hdocument
  constructor
  · simp
  · simp [show isIdentifier "Shop" = true by decide]

theorem generate_confined_shop :
    ∃ after classes,
      runOn (generate "service.json" "out" none) (describing "Shop") = (.ok (), after) ∧
      OutputConfined (describing "Shop") after "out" classes := by
  have hrun : (runOn (generate "service.json" "out" none) (describing "Shop")).1.isOk = true := by
    decide +kernel
  obtain ⟨project, document, classes, hfrom, hiff⟩ :=
    generate_confined_iff (runOn_eq_ok_of_isOk hrun)
  exact ⟨_, classes, runOn_eq_ok_of_isOk hrun, hiff.mpr (namesIdentifiers_shop hfrom)⟩

/-- A client name with dots and a slash takes the file of the class out of the directory. -/
theorem generate_not_confined_dots :
    ∃ after, runOn (generate "service.json" "out" none) (describing "../Evil") = (.ok (), after) ∧
      ∀ classes, ¬ OutputConfined (describing "../Evil") after "out" classes := by
  obtain ⟨after, hrun, hplace, hpresent, hfile⟩ : ∃ after,
      runOn (generate "service.json" "out" none) (describing "../Evil") = (.ok (), after) ∧
      after.tree.placeOf after.home "out" = some ["out"] ∧
      after.tree.node? ["Evil.php"] ≠ none ∧
      after.tree.node? ["Evil.php"] ≠ some .directory := by
    refine ⟨_, runOn_eq_ok_of_isOk ?_, ?_⟩ <;> decide +kernel
  refine ⟨after, hrun, ?_⟩
  intro classes h
  have hother : ∀ php ∈ classes, after.fileOf "out" php ≠ some ["Evil.php"] := by
    intro php _ heq
    rw [Workspace.fileOf, hplace] at heq
    simp at heq
  rcases h.elsewhere ["Evil.php"] hother with hsame | ⟨_, hnew⟩
  · rw [hsame] at hpresent
    exact hpresent rfl
  · exact hfile hnew

end SoapClasses
