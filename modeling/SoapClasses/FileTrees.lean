import SoapClasses.Associations
import SoapClasses.FileAccess

/-!
# A tree of files

Files and directories are known by their location, the names on the way from the root. A path is
walked name by name; every name on the way must be that of a directory.
-/

namespace SoapClasses

/-- What stands at a location. -/
inductive FileNode where
  | directory
  | file (content : List UInt8)
  deriving DecidableEq, Repr

abbrev Location := List String

/-- Files and directories by their locations. The root is always there. -/
structure FileTree where
  entries : List (Location × FileNode) := []
  deriving DecidableEq, Repr

/-- Where a path leads. -/
inductive Destination where
  | found (location : Location)
  /-- Only the last name is missing; behind it the path may have slashes. -/
  | absent (location : Location) (slashBehind : Bool)

namespace FileTree

def node? (tree : FileTree) (location : Location) : Option FileNode :=
  if location = [] then some .directory else tree.entries.lookup location

def set (tree : FileTree) (location : Location) (node : FileNode) : FileTree :=
  ⟨setEntry location node tree.entries⟩

theorem node?_set (tree : FileTree) (location other : Location) (node : FileNode)
    (h : location ≠ []) :
    (tree.set location node).node? other = if other = location then some node else tree.node? other := by
  by_cases root : other = []
  · simp [node?, root, Ne.symm h]
  · simp [node?, set, root, lookup_setEntry]

def nameLimit : Nat := 255

/-- The length in bytes that a path must stay below. -/
def pathLimit : Nat := 4096

/-- Follows the pieces of a path from a location. -/
def walk (tree : FileTree) : Location → List String → Except FileFault Destination
  | location, [] => .ok (.found location)
  | location, name :: rest =>
    match tree.node? location with
    | some .directory =>
      if name == "" || name == "." then walk tree location rest
      else if name == ".." then walk tree location.dropLast rest
      else if nameLimit < name.utf8ByteSize then .error .nameTooLong
      else
        match tree.node? (location ++ [name]) with
        | some _ => walk tree (location ++ [name]) rest
        | none =>
          if rest.all (· == "") then .ok (.absent (location ++ [name]) (!rest.isEmpty))
          else .error .notFound
    | _ => .error .notDirectory

/-- Follows pieces of a path from its start, the root or a working directory. -/
def follow (tree : FileTree) (home : Location) (path : String) (pieces : List String) :
    Except FileFault Destination :=
  if path.toList.any (· == '\x00') then .error .nulInPath
  else if path == "" then .error .notFound
  else if pathLimit ≤ path.utf8ByteSize then .error .nameTooLong
  else tree.walk (if isAbsolutePath path then [] else home) pieces

def locate (tree : FileTree) (home : Location) (path : String) : Except FileFault Destination :=
  tree.follow home path (pathPieces path)

def read (tree : FileTree) (home : Location) (path : String) : Except FileFault (List UInt8) := do
  match ← tree.locate home path with
  | .absent _ _ => .error .notFound
  | .found location =>
    match tree.node? location with
    | some (.file content) => .ok content
    | some .directory => .error .isDirectory
    | none => .error .notFound

/-- Whether a path leads to a file or directory. -/
def isPresent (tree : FileTree) (home : Location) (path : String) : Bool :=
  match tree.locate home path with
  | .ok (.found _) => true
  | _ => false

/-- The tree with a file written at a path. -/
def write (tree : FileTree) (home : Location) (path : String) (content : List UInt8) :
    Except FileFault FileTree := do
  match ← tree.locate home path with
  | .absent location slashBehind =>
    if slashBehind then .error .isDirectory else .ok (tree.set location (.file content))
  | .found location =>
    match tree.node? location with
    | some (.file _) => .ok (tree.set location (.file content))
    | _ => .error .isDirectory

/-- The tree with one new directory. Slashes behind its name do not count. -/
def makeDirectory (tree : FileTree) (home : Location) (path : String) :
    Except FileFault FileTree := do
  match ← tree.follow home path (piecesToLastName path) with
  | .absent location _ => .ok (tree.set location .directory)
  | .found _ => .error .alreadyExists

def isDirectory (tree : FileTree) (home : Location) (path : String) : Bool :=
  match tree.locate home path with
  | .ok (.found location) => tree.node? location = some .directory
  | _ => false

end FileTree

/-- A tree of files with a working directory, and what has been printed. -/
structure Workspace where
  tree : FileTree := {}
  home : Location := []
  printed : String := ""
  deriving DecidableEq, Repr

namespace Workspace

/-- The result of a change of the tree, and the workspace after it. -/
def update (workspace : Workspace) (result : Except FileFault FileTree) :
    Except FileFault Unit × Workspace :=
  match result with
  | .ok tree => (.ok (), { workspace with tree := tree })
  | .error fault => (.error fault, workspace)

end Workspace

instance : FileAccess (StateM Workspace) where
  readFile path := fun workspace => (workspace.tree.read workspace.home path, workspace)
  isPresent path := fun workspace => (workspace.tree.isPresent workspace.home path, workspace)
  isDirectory path := fun workspace => (workspace.tree.isDirectory workspace.home path, workspace)
  makeDirectory path := fun workspace =>
    workspace.update (workspace.tree.makeDirectory workspace.home path)
  writeFile path content := fun workspace =>
    workspace.update (workspace.tree.write workspace.home path content.toUTF8.toList)
  print text := fun workspace => ((), { workspace with printed := workspace.printed ++ text })

end SoapClasses
