import SoapClasses.Identifiers

/-!
# Why a name is refused
-/

namespace SoapClasses

/-- What a name was going to be the name of. -/
inductive NameRole where
  | property
  | method
  | parameter
  | typeName
  | className
  deriving DecidableEq, Repr

def NameRole.word : NameRole → String
  | .property => "property"
  | .method => "method"
  | .parameter => "parameter"
  | .typeName => "type"
  | .className => "class"

/-- A name that cannot be used. -/
inductive NamingError where
  /-- The name, or a segment of it, is no identifier. -/
  | invalidIdentifier (role : NameRole) (name : String)
  /-- Nothing is left of a qualified name without its leading separators. -/
  | emptyTypeName
  deriving DecidableEq, Repr

def NamingError.message : NamingError → String
  | .invalidIdentifier role name => "invalid " ++ role.word ++ " identifier: '" ++ name ++ "'"
  | .emptyTypeName => "type name cannot be empty"

def requireIdentifier (role : NameRole) (name : String) : Except NamingError Unit :=
  if isIdentifier name then .ok () else .error (.invalidIdentifier role name)

end SoapClasses
