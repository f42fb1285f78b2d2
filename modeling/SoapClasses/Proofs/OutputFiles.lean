import SoapClasses.Proofs.ClassNames
import SoapClasses.Proofs.CommandRuns
import SoapClasses.Proofs.DirectoryMaking
import SoapClasses.Proofs.RepeatedNames

/-!
# Files of classes

Each class is written to a file of its name in the output directory. If the names are those of files,
and no two of them are equal, then the writing of one class leaves the directory where it is and the
files of the others as they are.
-/

namespace SoapClasses

open FileTree

namespace PhpClass

theorem fileName_of_isIdentifier {php : PhpClass} (h : isIdentifier php.name = true) :
    FileName php.fileName := by
  have hlong : 4 ≤ php.fileName.length := by
    have hending : ".php".length = 4 := by decide
    rw [fileName, String.length_append]
    omega
  refine ⟨⟨?_, ?_, ?_⟩, ?_⟩
  · intro heq
    simp [heq] at hlong
  · intro heq
    rw [heq] at hlong
    exact absurd hlong (by decide)
  · intro heq
    rw [heq] at hlong
    exact absurd hlong (by decide)
  · intro hmem
    rw [fileName, String.toList_append] at hmem
    rcases List.mem_append.mp hmem with hmem | hmem
    · have hcontinues := continuesIdentifier_of_mem h hmem
      exact absurd hcontinues (by decide)
    · exact absurd hmem (by decide)

/-- The content of the file of a class. -/
def fileBytes (php : PhpClass) : List UInt8 :=
  php.fileText.toUTF8.toList

end PhpClass

theorem requireDistinctFiles_eq_ok_iff {seen : List String} {classes : List PhpClass} :
    requireDistinctFiles seen classes = .ok () ↔
      firstRepeated seen (classes.map (fun php => php.name)) = none := by
  induction classes generalizing seen with
  | nil => exact iff_of_true rfl rfl
  | cons php rest ih =>
    rw [requireDistinctFiles, List.map_cons, firstRepeated]
    split
    · simp
    · exact ih

namespace FileTree

variable {tree next : FileTree} {home : Location} {directory name : String} {content : List UInt8}

/-- A file that is written to a directory stands in the place of the directory. -/
theorem write_joinPath (hname : FileName name)
    (h : tree.write home (joinPath directory name) content = .ok next) :
    ∃ place, tree.placeOf home directory = some place ∧
      tree.node? (place ++ [name]) ≠ some .directory ∧
      next = tree.set (place ++ [name]) (.file content) := by
  obtain ⟨destination, hlocate, hwrite⟩ := bind_eq_ok_iff.mp h
  obtain ⟨place, hplace, hwalk⟩ := locate_joinPath hname hlocate
  refine ⟨place, hplace, ?_⟩
  rcases (walk_singleton hname.toPlainName hwalk).2 with ⟨rfl, _⟩ | ⟨rfl, hfree⟩
  · simp only at hwrite
    split at hwrite
    · rename_i old hold
      exact ⟨by simp [hold], (Except.ok.inj hwrite).symm⟩
    · cases hwrite
  · exact ⟨by simp [hfree], (Except.ok.inj hwrite).symm⟩

end FileTree

/-- Where the file of a class stands: in the output directory, under its name. -/
def Workspace.fileOf (workspace : Workspace) (directory : String) (php : PhpClass) :
    Option Location :=
  (workspace.tree.placeOf workspace.home directory).map
    (fun place => place ++ [php.name ++ ".php"])

/-- The files of the classes have been written, and nothing else has changed. -/
structure FilesWritten (before after : Workspace) (directory : String) (classes : List PhpClass) :
    Prop where
  home : after.home = before.home
  printed : after.printed = before.printed
  grows : before.tree.Grows after.tree
  written : ∀ php ∈ classes, ∃ location, after.fileOf directory php = some location ∧
    after.tree.node? location = some (.file php.fileBytes)
  elsewhere : ∀ location, (∀ php ∈ classes, after.fileOf directory php ≠ some location) →
    after.tree.node? location = before.tree.node? location

theorem filesWritten_of_writeClasses {directory : String} {classes : List PhpClass}
    {before after : Workspace} (hnames : ∀ php ∈ classes, FileName php.fileName)
    (hdistinct : (classes.map PhpClass.fileName).Nodup)
    (h : runOn (writeClasses directory classes) before = (.ok (), after)) :
    FilesWritten before after directory classes := by
  induction classes generalizing before with
  | nil =>
    obtain ⟨_, rfl⟩ := runOn_pure_eq_ok_iff.mp h
    exact ⟨rfl, rfl, .refl _, fun _ hmem => (List.not_mem_nil hmem).elim, fun _ _ => rfl⟩
  | cons php rest ih =>
    obtain ⟨_, middle, hwrite, hrest⟩ := runOn_bind_eq_ok_iff.mp h
    obtain ⟨tree, htree, rfl⟩ := runOn_writeFile_eq_ok_iff.mp hwrite
    obtain ⟨place, hplace, hnode, rfl⟩ := write_joinPath (hnames php List.mem_cons_self) htree
    have hroot : place ++ [php.fileName] ≠ [] := by simp
    have hgrows := grows_set_file php.fileBytes hroot hnode
    rw [List.map_cons, List.nodup_cons] at hdistinct
    have hothers := ih (fun other hmem => hnames other (List.mem_cons_of_mem _ hmem))
      hdistinct.2 hrest
    have hafter : after.tree.placeOf after.home directory = some place := by
      rw [hothers.home]
      exact hothers.grows.placeOf_eq (hgrows.placeOf_eq hplace)
    have hfile : ∀ other, after.fileOf directory other = some (place ++ [other.fileName]) := by
      intro other
      rw [Workspace.fileOf, hafter]
      rfl
    refine ⟨hothers.home, hothers.printed, hgrows.trans hothers.grows, ?_, ?_⟩
    · intro other hmem
      rcases List.mem_cons.mp hmem with rfl | hmem
      · refine ⟨_, hfile _, ?_⟩
        rw [hothers.elsewhere]
        · rw [node?_set _ _ _ _ hroot, if_pos rfl]
          rfl
        · intro third hthird heq
          rw [hfile, Option.some.injEq] at heq
          have hname : third.fileName = other.fileName := by simpa using heq
          exact hdistinct.1 (hname ▸ List.mem_map_of_mem hthird)
      · exact hothers.written other hmem
    · intro location hother
      rw [hothers.elsewhere location (fun third hthird => hother third (List.mem_cons_of_mem _ hthird))]
      rw [node?_set _ _ _ _ hroot, if_neg]
      rintro rfl
      exact hother php List.mem_cons_self (hfile php)

end SoapClasses
