import SoapClasses.NamingErrors
import SoapClasses.TextPieces

/-!
# Qualified names

A qualified name is a sequence of identifiers with backslashes between them: the namespace, then the
short name of the class. Backslashes in front of it change nothing.
-/

namespace SoapClasses

/-- The backslash stands between the segments of a qualified name. -/
def isNameSeparator (c : Char) : Bool :=
  c == '\\'

def dropLeadingSeparators (name : String) : String :=
  dropLeading isNameSeparator name

/-- The name with exactly one backslash in front, so that it needs no import. -/
def absoluteName (name : String) : String :=
  "\\" ++ dropLeadingSeparators name

/-- The name without backslashes in front and at its end. -/
def trimSeparators (name : String) : String :=
  trimText isNameSeparator name

def isQualified (name : String) : Bool :=
  name.toList.any isNameSeparator

def nameSegments (name : String) : List String :=
  splitText isNameSeparator name

def shortName (name : String) : String :=
  (nameSegments name).getLastD name

/-- The name in a namespace, where the empty text is the global namespace. -/
def qualify (ns name : String) : String :=
  if ns == "" then name else ns ++ "\\" ++ name

/-- The segments of a name without its leading backslashes, all of them identifiers. -/
def identifierSegments (name : String) : Except NamingError (List String) :=
  let bare := dropLeadingSeparators name
  if bare == "" then .error .emptyTypeName
  else
    match (nameSegments bare).find? (fun segment => !isIdentifier segment) with
    | some segment => .error (.invalidIdentifier .typeName segment)
    | none => .ok (nameSegments bare)

/-- Whether a text names a namespace: nothing at all or identifiers, between any backslashes at the
ends. -/
def isNamespace (text : String) : Bool :=
  let bare := trimSeparators text
  bare == "" || (nameSegments bare).all isIdentifier

end SoapClasses
