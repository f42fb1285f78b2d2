import SoapClasses.TextPieces

/-!
# Paths of files

A path is a text whose names are set apart by slashes. A slash in front starts at the root; otherwise
the path starts at a working directory. Empty names and single dots change nothing on the way.
-/

namespace SoapClasses

def isSlash (c : Char) : Bool :=
  c == '/'

def isAbsolutePath (path : String) : Bool :=
  match path.toList with
  | c :: _ => isSlash c
  | [] => false

/-- The pieces of a path between its slashes, empty ones included. -/
def pathPieces (path : String) : List String :=
  splitText isSlash path

/-- The pieces of a path up to its last name, without the empty ones that slashes behind it make. -/
def piecesToLastName (path : String) : List String :=
  ((pathPieces path).reverse.dropWhile (· == "")).reverse

/-- The names of a path. A single dot counts only in front of a path that is not absolute. -/
def pathNames (path : String) : List String :=
  match pathPieces path with
  | [] => []
  | first :: rest =>
    (if first == "" then [] else [first]) ++ rest.filter (fun name => name != "" && name != ".")

/-- The path of a file in a directory; an absolute name stands for itself. -/
def joinPath (directory name : String) : String :=
  if isAbsolutePath name || directory == "" then name
  else
    match directory.toList.getLast? with
    | some c => if isSlash c then directory ++ name else directory ++ "/" ++ name
    | none => name

/-- The path of these names from the root or not. -/
def pathOfNames (absolute : Bool) (names : List String) : String :=
  (if absolute then "/" else "") ++ joinText "/" names

/-- The directories above a path, from the nearest to the farthest, without the root. -/
def parentPaths (path : String) : List String :=
  let names := pathNames path
  ((List.range names.length).reverse.map (fun n => names.take n)).filterMap (fun names =>
    if names.isEmpty then none else some (pathOfNames (isAbsolutePath path) names))

end SoapClasses
