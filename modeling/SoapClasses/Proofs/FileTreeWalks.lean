import SoapClasses.FileTrees

/-!
# Walks in trees of files

A name on a walk is either that of a next place or missing, and after a missing name there is nothing
but slashes. So a walk that ends in the name of a file goes through the directory of the file first,
and in a tree that has grown it leads to the same place.
-/

namespace SoapClasses

/-- Names on a path that stand for something in a directory. -/
structure PlainName (name : String) : Prop where
  nonempty : name ≠ ""
  notDot : name ≠ "."
  notDotDot : name ≠ ".."

namespace FileTree

/-- From a directory a name leads on, to the next location. -/
def Enters (tree : FileTree) (start : Location) (name : String) (next : Location) : Prop :=
  tree.node? start = some .directory ∧
    ((name = "" ∨ name = ".") ∧ next = start ∨ name = ".." ∧ next = start.dropLast ∨
      PlainName name ∧ name.utf8ByteSize ≤ nameLimit ∧ tree.node? (start ++ [name]) ≠ none ∧
        next = start ++ [name])

/-- A directory could hold something of the name, but does not. -/
structure Misses (tree : FileTree) (start : Location) (name : String) : Prop where
  directory : tree.node? start = some .directory
  plain : PlainName name
  short : name.utf8ByteSize ≤ nameLimit
  free : tree.node? (start ++ [name]) = none

variable {tree next last : FileTree} {start location : Location} {pieces : List String}
  {destination : Destination}

theorem walk_cons_of_enters {name : String} {place : Location} (h : tree.Enters start name place)
    (rest : List String) : tree.walk start (name :: rest) = tree.walk place rest := by
  obtain ⟨hstart, hplace⟩ := h
  rw [walk, hstart]
  rcases hplace with ⟨rfl | rfl, rfl⟩ | ⟨rfl, rfl⟩ | ⟨hplain, hshort, hnode, rfl⟩
  · rfl
  · rfl
  · rfl
  · have hstay : (name == "" || name == ".") = false := by simp [hplain.nonempty, hplain.notDot]
    have hup : (name == "..") = false := by simp [hplain.notDotDot]
    have hlong : ¬ nameLimit < name.utf8ByteSize := by omega
    obtain ⟨node, hnode⟩ := Option.ne_none_iff_exists'.mp hnode
    simp only [hstay, hup, Bool.false_eq_true, if_false, if_neg hlong, hnode]

/-- A walk goes on to the next location, or it ends at a name that is missing. -/
theorem walk_cons_eq_ok {name : String} {rest : List String}
    (h : tree.walk start (name :: rest) = .ok destination) :
    (∃ place, tree.Enters start name place ∧ tree.walk place rest = .ok destination) ∨
      tree.Misses start name ∧ (∀ piece ∈ rest, piece = "") ∧
        destination = .absent (start ++ [name]) (!rest.isEmpty) := by
  rw [walk] at h
  split at h
  · rename_i hstart
    split at h
    · rename_i hstay
      have hstay : name = "" ∨ name = "." := by simpa using hstay
      exact .inl ⟨start, ⟨hstart, .inl ⟨hstay, rfl⟩⟩, h⟩
    · rename_i hstay
      split at h
      · rename_i hup
        exact .inl ⟨start.dropLast, ⟨hstart, .inr (.inl ⟨by simpa using hup, rfl⟩)⟩, h⟩
      · rename_i hup
        have hplain : PlainName name := by
          simp only [Bool.or_eq_true, beq_iff_eq, not_or] at hstay hup
          exact ⟨hstay.1, hstay.2, hup⟩
        split at h
        · cases h
        · rename_i hlong
          have hshort : name.utf8ByteSize ≤ nameLimit := by omega
          split at h
          · rename_i node hnode
            have hpresent : tree.node? (start ++ [name]) ≠ none := by simp [hnode]
            exact .inl ⟨start ++ [name], ⟨hstart, .inr (.inr ⟨hplain, hshort, hpresent, rfl⟩)⟩, h⟩
          · rename_i hfree
            split at h
            · rename_i hempty
              refine .inr ⟨⟨hstart, hplain, hshort, hfree⟩, ?_, (Except.ok.inj h).symm⟩
              simpa using hempty
            · cases h
  · cases h

theorem walk_append_singleton {name : String} (hname : PlainName name)
    (h : tree.walk start (pieces ++ [name]) = .ok destination) :
    ∃ directory, tree.walk start pieces = .ok (.found directory) ∧
      tree.walk directory [name] = .ok destination := by
  induction pieces generalizing start with
  | nil => exact ⟨start, rfl, h⟩
  | cons piece rest ih =>
    rcases walk_cons_eq_ok h with ⟨place, henters, hwalk⟩ | ⟨_, hempty, _⟩
    · obtain ⟨directory, hfound, hlast⟩ := ih hwalk
      exact ⟨directory, (walk_cons_of_enters henters rest).trans hfound, hlast⟩
    · exact absurd (hempty name (by simp)) hname.nonempty

theorem walk_append_of_found (h : tree.walk start pieces = .ok (.found location))
    (rest : List String) : tree.walk start (pieces ++ rest) = tree.walk location rest := by
  induction pieces generalizing start with
  | nil =>
    cases h
    rfl
  | cons piece pieces ih =>
    rcases walk_cons_eq_ok h with ⟨place, henters, hwalk⟩ | ⟨_, _, heq⟩
    · rw [List.cons_append, walk_cons_of_enters henters]
      exact ih hwalk
    · cases heq

theorem walk_singleton {name : String} (hname : PlainName name)
    (h : tree.walk start [name] = .ok destination) :
    tree.node? start = some .directory ∧
      (destination = .found (start ++ [name]) ∧ tree.node? (start ++ [name]) ≠ none ∨
        destination = .absent (start ++ [name]) false ∧ tree.node? (start ++ [name]) = none) := by
  rcases walk_cons_eq_ok h with ⟨place, ⟨hstart, hplace⟩, hwalk⟩ | ⟨hmisses, _, heq⟩
  · refine ⟨hstart, .inl ?_⟩
    rcases hplace with ⟨hstay | hstay, _⟩ | ⟨hup, _⟩ | ⟨_, _, hnode, rfl⟩
    · exact absurd hstay hname.nonempty
    · exact absurd hstay hname.notDot
    · exact absurd hup hname.notDotDot
    · exact ⟨(Except.ok.inj hwalk).symm, hnode⟩
  · exact ⟨hmisses.directory, .inr ⟨heq, hmisses.free⟩⟩

theorem node?_of_walk_absent {slashBehind : Bool}
    (h : tree.walk start pieces = .ok (.absent location slashBehind)) :
    tree.node? location = none := by
  induction pieces generalizing start with
  | nil => cases h
  | cons piece rest ih =>
    rcases walk_cons_eq_ok h with ⟨place, _, hwalk⟩ | ⟨hmisses, _, heq⟩
    · exact ih hwalk
    · cases heq
      exact hmisses.free

/-- Directories stay, and nothing goes away. -/
structure Grows (tree next : FileTree) : Prop where
  directories : ∀ location, tree.node? location = some .directory →
    next.node? location = some .directory
  present : ∀ location, tree.node? location ≠ none → next.node? location ≠ none

theorem Grows.refl (tree : FileTree) : Grows tree tree :=
  ⟨fun _ h => h, fun _ h => h⟩

theorem Grows.trans (h : Grows tree next) (h' : Grows next last) : Grows tree last where
  directories location hnode := h'.directories location (h.directories location hnode)
  present location hnode := h'.present location (h.present location hnode)

theorem Grows.enters (h : Grows tree next) {name : String} {place : Location}
    (henters : tree.Enters start name place) : next.Enters start name place := by
  obtain ⟨hstart, hplace⟩ := henters
  refine ⟨h.directories start hstart, ?_⟩
  rcases hplace with hstay | hup | ⟨hplain, hshort, hnode, heq⟩
  · exact .inl hstay
  · exact .inr (.inl hup)
  · exact .inr (.inr ⟨hplain, hshort, h.present _ hnode, heq⟩)

theorem Grows.walk_found (h : Grows tree next)
    (hwalk : tree.walk start pieces = .ok (.found location)) :
    next.walk start pieces = .ok (.found location) := by
  induction pieces generalizing start with
  | nil => exact hwalk
  | cons piece rest ih =>
    rcases walk_cons_eq_ok hwalk with ⟨place, henters, hrest⟩ | ⟨_, _, heq⟩
    · rw [walk_cons_of_enters (h.enters henters)]
      exact ih hrest
    · cases heq

theorem grows_set_file (content : List UInt8) (hroot : location ≠ [])
    (h : tree.node? location ≠ some .directory) :
    Grows tree (tree.set location (.file content)) := by
  constructor
  · intro other hother
    have hne : other ≠ location := by
      rintro rfl
      exact h hother
    rw [node?_set tree location other _ hroot, if_neg hne]
    exact hother
  · intro other hother
    rw [node?_set tree location other _ hroot]
    split
    · simp
    · exact hother

theorem grows_set_directory (hroot : location ≠ []) : Grows tree (tree.set location .directory) := by
  constructor
  · intro other hother
    rw [node?_set tree location other _ hroot]
    split
    · rfl
    · exact hother
  · intro other hother
    rw [node?_set tree location other _ hroot]
    split
    · simp
    · exact hother

theorem walk_of_empty (hstart : tree.node? start = some .directory)
    (hempty : ∀ piece ∈ pieces, piece = "") : tree.walk start pieces = .ok (.found start) := by
  induction pieces with
  | nil => rfl
  | cons piece rest ih =>
    have hstay : tree.Enters start piece start :=
      ⟨hstart, .inl ⟨.inl (hempty piece List.mem_cons_self), rfl⟩⟩
    rw [walk_cons_of_enters hstay]
    exact ih (fun other hmem => hempty other (List.mem_cons_of_mem _ hmem))

/-- Where a name was missing, the walk leads to the directory that has been made there. -/
theorem walk_set_directory {slashBehind : Bool} (hroot : location ≠ [])
    (h : tree.walk start pieces = .ok (.absent location slashBehind)) :
    (tree.set location .directory).walk start pieces = .ok (.found location) := by
  have hgrows := @grows_set_directory tree location hroot
  have hmade : (tree.set location .directory).node? location = some .directory := by
    rw [node?_set tree location location _ hroot, if_pos rfl]
  induction pieces generalizing start with
  | nil => cases h
  | cons piece rest ih =>
    rcases walk_cons_eq_ok h with ⟨place, henters, hrest⟩ | ⟨hmisses, hempty, heq⟩
    · rw [walk_cons_of_enters (hgrows.enters henters)]
      exact ih hrest
    · cases heq
      have henters : (tree.set (start ++ [piece]) .directory).Enters start piece (start ++ [piece]) := by
        refine ⟨hgrows.directories start hmisses.directory, .inr (.inr ⟨hmisses.plain, hmisses.short,
          ?_, rfl⟩)⟩
        rw [hmade]
        exact Option.some_ne_none _
      rw [walk_cons_of_enters henters]
      exact walk_of_empty hmade hempty

end FileTree

end SoapClasses
