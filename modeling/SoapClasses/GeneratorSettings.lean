import SoapClasses.ClassMembers

/-!
# Settings of the generator
-/

namespace SoapClasses

/-- How fields are written. -/
structure FieldSettings where
  visibility : Visibility := .privateMember
  /-- Write the type of a field in its declaration. -/
  typeHints : Bool := true
  /-- Write doc blocks. -/
  docBlocks : Bool := true
  /-- Make every field nullable, with null to start with. -/
  optionalValue : Bool := false
  deriving DecidableEq, Repr

/-- What every type class gets beside its fields. -/
structure TypeSettings where
  /-- Iteration over the first property. -/
  iterator : Bool := false
  /-- Serialisation of all properties. -/
  jsonSerializable : Bool := false
  /-- The first property as the result of the operation. -/
  resultProvider : Bool := false
  /-- The class that wraps the provided result. -/
  resultWrapper : Option String := none
  deriving DecidableEq, Repr

/-- All settings of the generator. -/
structure GeneratorSettings where
  field : FieldSettings := {}
  typeClass : TypeSettings := {}
  deriving DecidableEq, Repr

end SoapClasses
