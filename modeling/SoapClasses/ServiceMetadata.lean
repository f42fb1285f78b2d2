/-!
# Descriptions of services

A service is described by its complex types and, possibly, by one client with operations. A type has
properties with distinct names; each property carries what the schema says about its occurrence.
-/

namespace SoapClasses

/-- How often an element may occur at most. -/
inductive UpperBound where
  | unbounded
  | atMost (count : UInt32)
  deriving DecidableEq, Repr

/-- What the schema says about a property. -/
structure SchemaFacts where
  docs : Option String := none
  isNullable : Bool := false
  isList : Bool := false
  minOccurs : Option UInt32 := none
  maxOccurs : Option UpperBound := none
  deriving DecidableEq, Repr

/-- A property of a type: its declared type is a built-in one or the name of a type in a namespace. -/
structure SchemaProperty where
  name : String
  typeName : String
  ns : String
  facts : SchemaFacts := {}
  deriving DecidableEq, Repr

/-- The first name in the list that is among those already seen or that stands in the list before. -/
def firstRepeated (seen : List String) : List String → Option String
  | [] => none
  | name :: rest =>
    if seen.contains name then some name else firstRepeated (name :: seen) rest

theorem nodup_of_firstRepeated {seen names : List String}
    (h : firstRepeated seen names = none) : names.Nodup ∧ ∀ name ∈ names, name ∉ seen := by
  induction names generalizing seen with
  | nil => simp
  | cons name rest ih =>
    by_cases hs : name ∈ seen
    · simp [firstRepeated, hs] at h
    · have hc : seen.contains name = false := by simpa using hs
      simp only [firstRepeated, hc, Bool.false_eq_true, if_false] at h
      obtain ⟨hn, hd⟩ := ih h
      refine ⟨List.nodup_cons.mpr ⟨fun hm => hd name hm List.mem_cons_self, hn⟩, ?_⟩
      intro other hother
      rcases List.mem_cons.mp hother with rfl | hm
      · exact hs
      · exact fun hseen => hd other hm (List.mem_cons_of_mem _ hseen)

/-- A complex type. -/
structure SchemaType where
  ns : String
  name : String
  properties : List SchemaProperty
  /-- The name of the schema type that this type comes from. -/
  xsdType : String
  distinct : (properties.map SchemaProperty.name).Nodup
  deriving DecidableEq, Repr

/-- Two properties of a type with one name. -/
structure DuplicateProperty where
  property : String
  typeName : String
  deriving DecidableEq, Repr

def DuplicateProperty.message (e : DuplicateProperty) : String :=
  "duplicate property '" ++ e.property ++ "' in type '" ++ e.typeName ++ "'"

/-- The type with these properties, unless two of them share a name. The error names the first
property that repeats an earlier one. -/
def SchemaType.ofProperties (ns name : String) (properties : List SchemaProperty)
    (xsdType : String) : Except DuplicateProperty SchemaType :=
  match h : firstRepeated [] (properties.map SchemaProperty.name) with
  | none => .ok ⟨ns, name, properties, xsdType, (nodup_of_firstRepeated h).1⟩
  | some property => .error ⟨property, name⟩

/-- An argument of an operation, with a qualified or built-in type. -/
structure Argument where
  name : String
  typeName : String
  deriving DecidableEq, Repr

/-- The declared result of an operation. -/
structure ResultType where
  typeName : String
  /-- Set when the schema does not determine the shape of the result. -/
  isMixed : Bool := false
  deriving DecidableEq, Repr

/-- An operation of a service. -/
structure Operation where
  name : String
  arguments : List Argument
  result : ResultType
  docs : Option String := none
  deriving DecidableEq, Repr

/-- Whether the arguments are sent as one aggregate request. -/
def Operation.hasManyArguments (operation : Operation) : Bool :=
  1 < operation.arguments.length

/-- The client of a service. -/
structure ClientDescription where
  name : String
  ns : String
  operations : List Operation := []
  deriving DecidableEq, Repr

/-- All that is known about a service. -/
structure ServiceDocument where
  types : List SchemaType := []
  client : Option ClientDescription := none
  deriving DecidableEq, Repr

end SoapClasses
