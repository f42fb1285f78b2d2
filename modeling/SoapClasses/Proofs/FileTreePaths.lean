import Mathlib.Data.List.DropRight
import SoapClasses.Proofs.FileTreeWalks
import SoapClasses.Proofs.TextPieceLaws

/-!
# Paths of files in trees

The path of a file in a directory leads to the place of the directory and from there to the name of the
file.
-/

namespace SoapClasses

/-- Names of files: plain names without slashes. -/
structure FileName (name : String) : Prop extends PlainName name where
  noSlash : '/' ∉ name.toList

theorem isAbsolutePath_eq_false {name : String} (h : '/' ∉ name.toList) :
    isAbsolutePath name = false := by
  unfold isAbsolutePath
  cases hn : name.toList with
  | nil => rfl
  | cons c rest =>
    rw [hn] at h
    have hc : c ≠ '/' := fun heq => h (heq ▸ List.mem_cons_self)
    simp [isSlash, hc]

theorem isAbsolutePath_append {path : String} (h : path ≠ "") (behind : String) :
    isAbsolutePath (path ++ behind) = isAbsolutePath path := by
  unfold isAbsolutePath
  cases hpath : path.toList with
  | nil => exact absurd (String.toList_injective hpath) h
  | cons c rest => simp [hpath]

theorem joinPath_eq {directory name : String} (hname : '/' ∉ name.toList)
    (hdirectory : directory ≠ "") :
    ∃ front, joinPath directory name = front ++ "/" ++ name ∧
      (directory = front ∨ directory = front ++ "/") := by
  have habsolute : (isAbsolutePath name || directory == "") = false := by
    simp [isAbsolutePath_eq_false hname, hdirectory]
  unfold joinPath
  rw [habsolute]
  cases hlast : directory.toList.getLast? with
  | none =>
    have hnil : directory.toList = [] := List.getLast?_eq_none_iff.mp hlast
    exact absurd (String.toList_injective hnil) hdirectory
  | some c =>
    cases hslash : isSlash c with
    | false => exact ⟨directory, by simp [hslash], .inl rfl⟩
    | true =>
      have hc : c = '/' := by simpa [isSlash] using hslash
      obtain ⟨front, hfront⟩ := List.getLast?_eq_some_iff.mp hlast
      have heq : directory = String.ofList front ++ "/" := by
        apply String.toList_injective
        simp [hfront, hc]
      exact ⟨String.ofList front, by simp [hslash, ← heq], .inr heq⟩

theorem pathPieces_append_slash (front name : String) :
    pathPieces (front ++ "/" ++ name) = pathPieces front ++ pathPieces name := by
  have hchars : (front ++ "/" ++ name).toList = front.toList ++ '/' :: name.toList := by simp
  simp only [pathPieces, splitText, hchars]
  rw [piecesOf_append_cons (by rfl), List.map_append]

/-- Behind the last name of a path there are slashes only. -/
theorem pathPieces_eq_append (path : String) : ∃ empties, pathPieces path =
    piecesToLastName path ++ empties ∧ ∀ piece ∈ empties, piece = "" := by
  refine ⟨(pathPieces path).rtakeWhile (· == ""), ?_, ?_⟩
  · exact List.rdropWhile_append_rtakeWhile.symm
  · intro piece hmem
    simpa using List.mem_rtakeWhile_imp hmem

theorem pathPieces_of_noSlash {name : String} (h : '/' ∉ name.toList) : pathPieces name = [name] := by
  have hnone : ∀ c ∈ name.toList, isSlash c = false := by
    intro c hc
    simpa [isSlash] using fun heq : c = '/' => h (heq ▸ hc)
  simp [pathPieces, splitText, piecesOf_of_none hnone]

namespace FileTree

/-- Where the path of a directory leads; the empty path is the working directory. -/
def placeOf (tree : FileTree) (home : Location) (directory : String) : Option Location :=
  if directory = "" then some home
  else
    match tree.locate home directory with
    | .ok (.found place) => some place
    | _ => none

variable {tree next : FileTree} {home : Location} {directory name : String}
  {destination : Destination}

theorem follow_eq_ok_iff {path : String} {pieces : List String} :
    tree.follow home path pieces = .ok destination ↔
      '\x00' ∉ path.toList ∧ path ≠ "" ∧ path.utf8ByteSize < pathLimit ∧
        tree.walk (if isAbsolutePath path then [] else home) pieces = .ok destination := by
  unfold follow
  by_cases hnul : '\x00' ∈ path.toList
  · simp [hnul]
  · by_cases hempty : path = ""
    · simp [hempty]
    · by_cases hlong : pathLimit ≤ path.utf8ByteSize
      · simp [hnul, hempty, hlong, Nat.not_lt.mpr hlong]
      · simp [hnul, hempty, hlong, Nat.not_le.mp hlong]

theorem placeOf_of_locate {place : Location} (h : tree.locate home directory = .ok (.found place)) :
    tree.placeOf home directory = some place := by
  rw [placeOf, if_neg (follow_eq_ok_iff.mp h).2.1, h]

theorem Grows.locate_found {place : Location} (h : Grows tree next)
    (hlocate : tree.locate home directory = .ok (.found place)) :
    next.locate home directory = .ok (.found place) := by
  obtain ⟨hnul, hempty, hlength, hwalk⟩ := follow_eq_ok_iff.mp hlocate
  exact follow_eq_ok_iff.mpr ⟨hnul, hempty, hlength, h.walk_found hwalk⟩

theorem Grows.placeOf_eq {place : Location} (h : Grows tree next)
    (hplace : tree.placeOf home directory = some place) :
    next.placeOf home directory = some place := by
  by_cases hdirectory : directory = ""
  · rw [placeOf, if_pos hdirectory] at hplace ⊢
    exact hplace
  · rw [placeOf, if_neg hdirectory] at hplace
    split at hplace
    · rename_i found hlocate
      rw [Option.some.inj hplace] at hlocate
      exact placeOf_of_locate (h.locate_found hlocate)
    · cases hplace

theorem isDirectory_iff {path : String} : tree.isDirectory home path = true ↔
    ∃ place, tree.locate home path = .ok (.found place) ∧ tree.node? place = some .directory := by
  unfold isDirectory
  split
  · rename_i place hlocate
    rw [hlocate]
    simp
  · rename_i hother
    refine iff_of_false Bool.false_ne_true ?_
    rintro ⟨place, hlocate, -⟩
    exact hother place hlocate

theorem Grows.isDirectory {path : String} (h : Grows tree next)
    (hpath : tree.isDirectory home path = true) : next.isDirectory home path = true := by
  obtain ⟨place, hlocate, hnode⟩ := isDirectory_iff.mp hpath
  exact isDirectory_iff.mpr ⟨place, h.locate_found hlocate, h.directories place hnode⟩

theorem follow_of_append {path behind : String} {pieces others : List String}
    (h : tree.follow home (path ++ behind) pieces = .ok destination) (hpath : path ≠ "")
    {place : Location}
    (hwalk : tree.walk (if isAbsolutePath (path ++ behind) then [] else home) others =
      .ok (.found place)) :
    tree.follow home path others = .ok (.found place) := by
  obtain ⟨hnul, _, hlength, _⟩ := follow_eq_ok_iff.mp h
  rw [isAbsolutePath_append hpath] at hwalk
  refine follow_eq_ok_iff.mpr ⟨?_, hpath, ?_, hwalk⟩
  · intro hmem
    exact hnul (by simp [hmem])
  · rw [String.utf8ByteSize_append] at hlength
    omega

/-- The path of a file in a directory leads on from the place of the directory. -/
theorem locate_joinPath (hname : FileName name)
    (h : tree.locate home (joinPath directory name) = .ok destination) :
    ∃ place, tree.placeOf home directory = some place ∧
      tree.walk place [name] = .ok destination := by
  by_cases hdirectory : directory = ""
  · subst hdirectory
    refine ⟨home, rfl, ?_⟩
    have hjoin : joinPath "" name = name := by simp [joinPath]
    rw [hjoin, locate, pathPieces_of_noSlash hname.noSlash] at h
    obtain ⟨_, _, _, hwalk⟩ := follow_eq_ok_iff.mp h
    simpa [isAbsolutePath_eq_false hname.noSlash] using hwalk
  · obtain ⟨front, hjoin, hfront⟩ := joinPath_eq hname.noSlash hdirectory
    rw [hjoin, locate, pathPieces_append_slash, pathPieces_of_noSlash hname.noSlash] at h
    obtain ⟨_, _, _, hwalk⟩ := follow_eq_ok_iff.mp h
    obtain ⟨place, hfound, hlast⟩ := walk_append_singleton hname.toPlainName hwalk
    refine ⟨place, ?_, hlast⟩
    have hplace : tree.locate home directory = .ok (.found place) := by
      rcases hfront with rfl | rfl
      · rw [String.append_assoc] at h hfound
        exact follow_of_append h hdirectory hfound
      · have hstay : tree.walk place [""] = .ok (.found place) := by
          have henters : tree.Enters place "" place :=
            ⟨(walk_singleton hname.toPlainName hlast).1, .inl ⟨.inl rfl, rfl⟩⟩
          rw [walk_cons_of_enters henters]
          rfl
        have hpieces : pathPieces (front ++ "/") = pathPieces front ++ [""] := by
          have hnothing : pathPieces "" = [""] := rfl
          rw [← hnothing, ← pathPieces_append_slash front "", String.append_empty]
        rw [locate, hpieces]
        apply follow_of_append h hdirectory
        rw [walk_append_of_found hfound]
        exact hstay
    simp [placeOf, hdirectory, hplace]

end FileTree

end SoapClasses
