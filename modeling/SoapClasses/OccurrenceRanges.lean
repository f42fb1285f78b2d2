import SoapClasses.ServiceMetadata

/-!
# Occurrence ranges

A repeated property is documented with the range of its indices, `int<min,max>`, where an open end is
the word `max`.
-/

namespace SoapClasses

/-- How often an element occurs; without a greatest count the range is open. -/
structure OccurrenceRange where
  least : UInt32
  greatest : Option UInt32
  deriving DecidableEq, Repr

namespace OccurrenceRange

/-- The range that the schema gives; a missing lower bound is zero and a missing upper bound is open. -/
def ofFacts (facts : SchemaFacts) : OccurrenceRange where
  least := facts.minOccurs.getD 0
  greatest := match facts.maxOccurs with
    | some (.atMost count) => some count
    | some .unbounded => none
    | none => none

def isOpen (range : OccurrenceRange) : Bool :=
  range.greatest.isNone

/-- The end of the range as it is written. -/
def upperText (range : OccurrenceRange) : String :=
  match range.greatest with
  | some count => toString count.toNat
  | none => "max"

def text (range : OccurrenceRange) : String :=
  "int<" ++ toString range.least.toNat ++ "," ++ range.upperText ++ ">"

/-- The arguments of a collection type with these indices and items. -/
def genericArguments (range : OccurrenceRange) (item : String) : String :=
  "<" ++ range.text ++ ", " ++ item ++ ">"

end OccurrenceRange

end SoapClasses
