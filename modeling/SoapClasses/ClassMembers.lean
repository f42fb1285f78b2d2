import SoapClasses.DocBlocks
import SoapClasses.MemberTables
import SoapClasses.NamingErrors

/-!
# Fields and methods
-/

namespace SoapClasses

/-- Who may use a member. -/
inductive Visibility where
  | publicMember
  | protectedMember
  | privateMember
  deriving DecidableEq, Repr

def Visibility.word : Visibility → String
  | .publicMember => "public"
  | .protectedMember => "protected"
  | .privateMember => "private"

/-- A field of a class. -/
structure Field where
  name : String
  visibility : Visibility := .privateMember
  typeHint : Option String := none
  /-- The literal that the field starts with. -/
  initial : Option String := none
  doc : Option DocBlock := none
  deriving DecidableEq, Repr

/-- A parameter of a method. -/
structure Parameter where
  name : String
  typeHint : Option String
  deriving DecidableEq, Repr

/-- A method of a class. -/
structure Method where
  name : String
  visibility : Visibility := .publicMember
  isStatic : Bool := false
  parameters : List Parameter := []
  returnType : Option String := none
  body : String := ""
  doc : Option DocBlock := none
  deriving DecidableEq, Repr

instance : Named Field where
  nameOf := Field.name

instance : Named Method where
  nameOf := Method.name

def Field.check (field : Field) : Except NamingError Unit :=
  requireIdentifier .property field.name

/-- Refuses a method with a name, of its own or of a parameter, that is no identifier; the first one
is reported. -/
def Method.check (method : Method) : Except NamingError Unit := do
  requireIdentifier .method method.name
  method.parameters.forM (fun parameter => requireIdentifier .parameter parameter.name)

end SoapClasses
