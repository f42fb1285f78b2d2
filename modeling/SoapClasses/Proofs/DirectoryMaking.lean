import SoapClasses.Proofs.FileTreePaths
import SoapClasses.Proofs.Outcomes

/-!
# Making directories

However the making of directories ends, it has only put new directories where nothing was, and only where
the path that is made or one of those above it leads. When it ends well, the path leads to a directory.
-/

namespace SoapClasses

namespace FileTree

variable {tree next last : FileTree} {home location : Location}

/-- The trees differ in new directories only. -/
def AddsDirectories (tree next : FileTree) : Prop :=
  ∀ location, next.node? location = tree.node? location ∨
    tree.node? location = none ∧ next.node? location = some .directory

theorem AddsDirectories.refl (tree : FileTree) : AddsDirectories tree tree :=
  fun _ => .inl rfl

theorem AddsDirectories.trans (h : AddsDirectories tree next) (h' : AddsDirectories next last) :
    AddsDirectories tree last := by
  intro location
  rcases h location with hsame | ⟨hnone, hnew⟩
  · rw [← hsame]
    exact h' location
  · rcases h' location with hsame | ⟨hnone', _⟩
    · exact .inr ⟨hnone, hsame.trans hnew⟩
    · rw [hnew] at hnone'
      cases hnone'

theorem AddsDirectories.grows (h : AddsDirectories tree next) : Grows tree next := by
  constructor
  · intro location hnode
    rcases h location with hsame | ⟨_, hnew⟩
    · exact hsame.trans hnode
    · exact hnew
  · intro location hnode
    rcases h location with hsame | ⟨hnone, _⟩
    · rw [hsame]
      exact hnode
    · exact absurd hnone hnode

/-- A directory is made where nothing was, and then its path leads there. -/
theorem eq_set_of_makeDirectory {path : String} (h : tree.makeDirectory home path = .ok next) :
    ∃ place, place ≠ [] ∧ tree.node? place = none ∧ next = tree.set place .directory ∧
      next.locate home path = .ok (.found place) := by
  obtain ⟨destination, hfollow, hmade⟩ := bind_eq_ok_iff.mp h
  cases destination with
  | found place => cases hmade
  | absent place slashBehind =>
    cases hmade
    obtain ⟨hnul, hempty, hlength, hwalk⟩ := follow_eq_ok_iff.mp hfollow
    have hfree := node?_of_walk_absent hwalk
    have hroot : place ≠ [] := by
      rintro rfl
      cases hfree
    obtain ⟨empties, hpieces, hempties⟩ := pathPieces_eq_append path
    refine ⟨place, hroot, hfree, rfl, follow_eq_ok_iff.mpr ⟨hnul, hempty, hlength, ?_⟩⟩
    rw [hpieces, walk_append_of_found (walk_set_directory hroot hwalk)]
    apply walk_of_empty _ hempties
    rw [node?_set tree place place _ hroot, if_pos rfl]

theorem addsDirectories_set {place : Location} (hroot : place ≠ [])
    (hfree : tree.node? place = none) : AddsDirectories tree (tree.set place .directory) := by
  intro location
  rw [node?_set tree place location _ hroot]
  split
  · rename_i heq
    exact .inr ⟨heq ▸ hfree, rfl⟩
  · exact .inl rfl

end FileTree

/-- The workspaces differ in new directories only. -/
structure Workspace.AddsDirectories (before after : Workspace) : Prop where
  home : after.home = before.home
  printed : after.printed = before.printed
  tree : FileTree.AddsDirectories before.tree after.tree

/-- The workspaces differ in new directories only, and one of these paths leads to each of them. -/
structure Workspace.AddsDirectoriesAt (paths : List String) (before after : Workspace) : Prop
    extends before.AddsDirectories after where
  led : ∀ location, before.tree.node? location = none → after.tree.node? location ≠ none →
    ∃ path ∈ paths, after.tree.placeOf after.home path = some location

namespace Workspace.AddsDirectoriesAt

variable {paths others : List String} {before middle after : Workspace}

theorem refl (paths : List String) (workspace : Workspace) : AddsDirectoriesAt paths workspace workspace :=
  ⟨⟨rfl, rfl, .refl _⟩, fun _ hnone hsome => absurd hnone hsome⟩

theorem mono (h : AddsDirectoriesAt paths before after) (hmore : paths ⊆ others) :
    AddsDirectoriesAt others before after := by
  refine ⟨h.toAddsDirectories, ?_⟩
  intro location hnone hsome
  obtain ⟨path, hmem, hplace⟩ := h.led location hnone hsome
  exact ⟨path, hmore hmem, hplace⟩

theorem placeOf_of_grows (h : AddsDirectoriesAt paths before middle)
    (hgrows : middle.tree.Grows after.tree) (hhome : after.home = middle.home) {location : Location}
    (hnone : before.tree.node? location = none) (hsome : middle.tree.node? location ≠ none) :
    ∃ path ∈ paths, after.tree.placeOf after.home path = some location := by
  obtain ⟨path, hmem, hplace⟩ := h.led location hnone hsome
  refine ⟨path, hmem, ?_⟩
  rw [hhome]
  exact hgrows.placeOf_eq hplace

theorem trans (h : AddsDirectoriesAt paths before middle) (h' : AddsDirectoriesAt paths middle after) :
    AddsDirectoriesAt paths before after := by
  refine ⟨⟨h'.home.trans h.home, h'.printed.trans h.printed, h.tree.trans h'.tree⟩, ?_⟩
  intro location hnone hsome
  by_cases hmiddle : middle.tree.node? location = none
  · exact h'.led location hmiddle hsome
  · exact h.placeOf_of_grows h'.tree.grows h'.home hnone hmiddle

end Workspace.AddsDirectoriesAt

/-- Whatever the action returns, it has only made directories that these paths lead to. -/
def OnlyMakesDirectories {α : Type} (paths : List String) (action : StateM Workspace α) : Prop :=
  ∀ workspace : Workspace, workspace.AddsDirectoriesAt paths (action.run workspace).2

namespace OnlyMakesDirectories

variable {α β : Type} {paths others : List String}

theorem done (paths : List String) (value : α) : OnlyMakesDirectories paths (pure value) :=
  fun workspace => .refl paths workspace

theorem mono {action : StateM Workspace α} (h : OnlyMakesDirectories paths action)
    (hmore : paths ⊆ others) : OnlyMakesDirectories others action :=
  fun workspace => (h workspace).mono hmore

theorem bind {first : StateM Workspace α} {next : α → StateM Workspace β}
    (h : OnlyMakesDirectories paths first) (hnext : ∀ value, OnlyMakesDirectories paths (next value)) :
    OnlyMakesDirectories paths (first >>= next) := by
  intro workspace
  exact (h workspace).trans (hnext (first.run workspace).1 (first.run workspace).2)

theorem makeDirectory (path : String) :
    OnlyMakesDirectories [path] (FileAccess.makeDirectory path : StateM Workspace _) := by
  intro workspace
  show workspace.AddsDirectoriesAt [path]
    (workspace.update (workspace.tree.makeDirectory workspace.home path)).2
  cases h : workspace.tree.makeDirectory workspace.home path with
  | error fault => exact .refl _ workspace
  | ok tree =>
    obtain ⟨place, hroot, hfree, rfl, hlocate⟩ := FileTree.eq_set_of_makeDirectory h
    refine ⟨⟨rfl, rfl, FileTree.addsDirectories_set hroot hfree⟩, ?_⟩
    intro location hnone hsome
    have hplace : location = place := by
      by_contra hother
      refine hsome ?_
      show (workspace.tree.set place .directory).node? location = none
      rw [FileTree.node?_set _ _ _ _ hroot, if_neg hother, hnone]
    rw [hplace]
    exact ⟨path, List.mem_singleton_self path, FileTree.placeOf_of_locate hlocate⟩

theorem isDirectory (paths : List String) (path : String) :
    OnlyMakesDirectories paths (FileAccess.isDirectory path : StateM Workspace _) :=
  fun workspace => .refl paths workspace

theorem ensureDirectory (path : String) :
    OnlyMakesDirectories [path] (SoapClasses.ensureDirectory path : StateM Workspace _) := by
  apply (makeDirectory path).bind
  intro result
  split
  · apply (isDirectory _ path).bind
    intro present
    split <;> exact done _ _
  · exact done _ _

theorem ensureDirectories (paths : List String) :
    OnlyMakesDirectories paths (SoapClasses.ensureDirectories paths : StateM Workspace _) := by
  induction paths with
  | nil => exact done _ _
  | cons path above ih =>
    have hfirst : OnlyMakesDirectories (path :: above)
        (SoapClasses.ensureDirectory path : StateM Workspace _) :=
      (ensureDirectory path).mono (List.cons_subset_cons path (List.nil_subset above))
    apply hfirst.bind
    intro result
    split
    · apply (ih.mono (List.subset_cons_self path above)).bind
      intro outcome
      split
      · exact hfirst
      · exact done _ _
    · exact done _ _

theorem makeDirectories (path : String) :
    OnlyMakesDirectories (path :: parentPaths path)
      (SoapClasses.makeDirectories path : StateM Workspace _) := by
  unfold SoapClasses.makeDirectories
  split
  · exact done _ _
  · exact ensureDirectories _

end OnlyMakesDirectories

section

variable {path : String} {before after : Workspace}

/-- An action goes on from what its first part has returned, on the workspace that this part left. -/
theorem run_bind_of_run {α β : Type} {first : StateM Workspace α} {next : α → StateM Workspace β}
    {value : α} {middle : Workspace} (h : Id.run (first.run before) = (value, middle)) :
    Id.run ((first >>= next).run before) = Id.run ((next value).run middle) := by
  rw [StateT.run_bind, show first.run before = pure (value, middle) from h, pure_bind]

theorem run_ensureDirectory (path : String) (before : Workspace) :
    Id.run ((ensureDirectory path : StateM Workspace _).run before) =
      match before.tree.makeDirectory before.home path with
      | .ok tree => (.ok (), { before with tree := tree })
      | .error .alreadyExists =>
        (if before.tree.isDirectory before.home path then .ok () else .error .alreadyExists, before)
      | .error fault => (.error fault, before) := by
  have hmake : Id.run ((FileAccess.makeDirectory path : StateM Workspace _).run before) =
      before.update (before.tree.makeDirectory before.home path) := rfl
  rw [ensureDirectory, run_bind_of_run hmake]
  cases hmade : before.tree.makeDirectory before.home path with
  | ok tree => rfl
  | error fault =>
    cases fault
    case alreadyExists =>
      show Id.run (StateT.run (if before.tree.isDirectory before.home path = true then _ else _) before) = _
      split <;> rfl
    all_goals rfl

theorem isDirectory_of_ensureDirectory
    (h : Id.run ((ensureDirectory path : StateM Workspace _).run before) = (.ok (), after)) :
    after.tree.isDirectory after.home path = true := by
  rw [run_ensureDirectory] at h
  split at h
  · rename_i tree hmade
    obtain ⟨place, hroot, -, rfl, hlocate⟩ := FileTree.eq_set_of_makeDirectory hmade
    cases h
    refine FileTree.isDirectory_iff.mpr ⟨place, hlocate, ?_⟩
    rw [FileTree.node?_set _ _ _ _ hroot, if_pos rfl]
  · obtain ⟨hpresent, rfl⟩ := Prod.mk.inj h
    split at hpresent
    · rename_i hdirectory
      exact hdirectory
    · cases hpresent
  · cases h

theorem isDirectory_of_ensureDirectories {above : List String}
    (h : Id.run ((ensureDirectories (path :: above) : StateM Workspace _).run before) =
      (.ok (), after)) : after.tree.isDirectory after.home path = true := by
  cases hfirst : Id.run ((ensureDirectory path : StateM Workspace _).run before) with
  | mk outcome middle =>
    rw [ensureDirectories, run_bind_of_run hfirst] at h
    split at h
    · cases habove : Id.run ((ensureDirectories above : StateM Workspace _).run middle) with
      | mk outcome last =>
        rw [run_bind_of_run habove] at h
        split at h
        · exact isDirectory_of_ensureDirectory h
        · cases h
    · cases h
      exact isDirectory_of_ensureDirectory hfirst

theorem isDirectory_of_makeDirectories (hpath : pathNames path ≠ [])
    (h : Id.run ((makeDirectories path : StateM Workspace _).run before) = (.ok (), after)) :
    after.tree.isDirectory after.home path = true := by
  rw [makeDirectories, if_neg (by simpa using hpath)] at h
  exact isDirectory_of_ensureDirectories h

end

end SoapClasses
