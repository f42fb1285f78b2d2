import SoapClasses.Drafts
import SoapClasses.NamingConventions
import SoapClasses.ServiceMetadata

/-!
# References to types

Signatures and doc blocks refer to other classes by a short display name; the class must then import
what the display name stands for. Built-in types, names of the global namespace and the class itself
are never imported. Names are told apart by their full spelling only: two names that end in the same
segment get no aliases.
-/

namespace SoapClasses

/-- What a display name is made of. -/
inductive ImportStyle where
  /-- The last segment; the whole name is imported. -/
  | plain
  /-- The last two segments; the namespace is imported. It keeps types of one short name apart. -/
  | withParent
  deriving DecidableEq, Repr

/-- A display name, and the name whose import makes it meaningful. -/
structure TypeReference where
  display : String
  imported : String
  deriving DecidableEq, Repr

/-- The reference to the name with the segments of a namespace and a last segment. -/
def TypeReference.ofSegments (style : ImportStyle) (parents : List String) (short : String) :
    TypeReference :=
  match style, parents.getLast? with
  | .withParent, some parent =>
    ⟨parent ++ "\\" ++ short, qualify (joinText "\\" parents.dropLast) parent⟩
  | _, _ => ⟨short, qualify (joinText "\\" parents) short⟩

/-- The edits that a reference needs in a class: the import of a qualified name other than the class
itself. It is not asked whether the name is imported already, as a second import changes nothing. -/
def TypeReference.edits (owner : ClassIdentity) (reference : TypeReference) : List ClassEdit :=
  if isQualified reference.imported && reference.imported != owner.qualifiedName then
    [.addImport reference.imported none]
  else []

/-- The display name of a type in a class, with the import that it needs. -/
def referTo (owner : ClassIdentity) (style : ImportStyle) (name : String) :
    Draft NamingError String :=
  if isBuiltinType name then .done name
  else
    match identifierSegments name with
    | .error error => .fail error
    | .ok segments =>
      let reference :=
        TypeReference.ofSegments style segments.dropLast (segments.getLastD "")
      ⟨reference.edits owner, .ok reference.display⟩

/-- The declared type of a property: built in, or the absolute name of a class. -/
def declaredType (property : SchemaProperty) : String :=
  if isBuiltinType property.typeName then property.typeName
  else
    "\\" ++ qualify (trimSeparators property.ns) (className property.typeName)

end SoapClasses
