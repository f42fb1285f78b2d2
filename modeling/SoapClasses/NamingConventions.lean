import SoapClasses.LetterCases
import SoapClasses.QualifiedNames

/-!
# Naming conventions

Service descriptions spell names as they like; generated classes use camel case for methods and
Pascal case for classes. A name is cut into words at dashes, dots and spaces, and the words are joined
with their first letters in upper case. Underscores are kept.
-/

namespace SoapClasses

/-- Dashes, dots and spaces stand between the words of a name. -/
def isWordSeparator (c : Char) : Bool :=
  c == '-' || c == '.' || c == ' '

/-- The first character in upper case, the rest as it is. -/
def capitalizeSpelling : List Char → List Char
  | [] => []
  | first :: rest => upperSpelling first ++ rest

/-- The first character in lower case, the rest as it is. -/
def uncapitalizeSpelling : List Char → List Char
  | [] => []
  | first :: rest => lowerSpelling first ++ rest

/-- The words of a name, each capitalized, without separators. -/
def pascalSpelling (name : List Char) : List Char :=
  (piecesOf isWordSeparator name).flatMap capitalizeSpelling

/-- The text with its first character in upper case. -/
def capitalize (text : String) : String :=
  String.ofList (capitalizeSpelling text.toList)

/-- The text with its first character in lower case. -/
def uncapitalize (text : String) : String :=
  String.ofList (uncapitalizeSpelling text.toList)

def pascalCase (name : String) : String :=
  String.ofList (pascalSpelling name.toList)

def camelCase (name : String) : String :=
  uncapitalize (pascalCase name)

def methodName (operation : String) : Except NamingError String :=
  let name := camelCase operation
  if isIdentifier name then .ok name else .error (.invalidIdentifier .method operation)

/-- The name of the class for a schema type; a reserved word gets the ending `Type`. -/
def className (typeName : String) : String :=
  let name := pascalCase typeName
  if isReservedWord name then name ++ "Type" else name

end SoapClasses
