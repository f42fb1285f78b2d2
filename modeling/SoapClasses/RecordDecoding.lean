import SoapClasses.JsonTrees
import SoapClasses.QuotedText
import SoapClasses.ServiceMetadata
import SoapClasses.ShortestDecimals
import SoapClasses.TextPieces

/-!
# Decoding records

A record is written as an object with named members, or as an array of its fields in order. Decoding
goes through the tree from left to right and reports the first thing that is wrong: a value of the
wrong kind, a field given twice, a place where the text is no JSON. Members of other names are ignored
as long as they are JSON. When the object has ended, the first required field that is missing is
reported.
-/

namespace SoapClasses

/-- What stands where something else was expected. -/
inductive FoundValue where
  | null
  | bool (value : Bool)
  | integer (value : Int)
  | float (value : Float)
  | text (value : String)
  | array
  | object

def FoundValue.message : FoundValue → String
  | .null => "null"
  | .bool true => "boolean \x60true\x60"
  | .bool false => "boolean \x60false\x60"
  | .integer value => "integer \x60" ++ toString value ++ "\x60"
  | .float value => "floating point \x60" ++ floatText value ++ "\x60"
  | .text value => "string " ++ quoted value
  | .array => "sequence"
  | .object => "map"

/-- The failure of decoding. -/
inductive DecodingError where
  /-- The text is no JSON, or it has a shape that no record can have. -/
  | malformed
  | invalidType (found : FoundValue) (expected : String)
  | invalidValue (found : FoundValue) (expected : String)
  | unknownVariant (name : String)
  | missingField (name : String)
  | duplicateField (name : String)
  /-- An array ends before a required field. -/
  | invalidLength (count : Nat) (record : String) (fields : Nat)
  /-- An upper bound is neither a count nor the word for none. -/
  | noUpperBound
  | duplicateProperty (duplicate : DuplicateProperty)

def backquoted (name : String) : String :=
  "\x60" ++ name ++ "\x60"

def DecodingError.message : DecodingError → String
  | .malformed => "malformed JSON"
  | .invalidType found expected => "invalid type: " ++ found.message ++ ", expected " ++ expected
  | .invalidValue found expected => "invalid value: " ++ found.message ++ ", expected " ++ expected
  | .unknownVariant name =>
    "unknown variant " ++ backquoted name ++ ", expected one of "
      ++ joinText ", " (["public", "protected", "private"].map backquoted)
  | .missingField name => "missing field " ++ backquoted name
  | .duplicateField name => "duplicate field " ++ backquoted name
  | .invalidLength count record fields =>
    "invalid length " ++ toString count ++ ", expected struct " ++ record ++ " with "
      ++ toString fields ++ " elements"
  | .noUpperBound => "data did not match any variant of untagged enum MaxOccurs"
  | .duplicateProperty duplicate => duplicate.message

abbrev Decoded (α : Type) := Except DecodingError α

namespace JsonTree

/-- What stands at the root of the tree, if it can be read. Arrays and objects are not looked into. -/
def found? : JsonTree → Option FoundValue
  | .null => some .null
  | .bool value => some (.bool value)
  | .integer value => some (.integer value)
  | .float value => some (.float value)
  | .text value => some (.text value)
  | .array _ => some .array
  | .object _ => some .object
  | .unreadable => none
  | .broken => none

/-- The error for a tree where something else was expected. -/
def mismatch (tree : JsonTree) (expected : String) : DecodingError :=
  match tree.found? with
  | some found => .invalidType found expected
  | none => .malformed

def decodeText : JsonTree → Decoded String
  | .text value => .ok value
  | tree => .error (tree.mismatch "a string")

def decodeFlag : JsonTree → Decoded Bool
  | .bool value => .ok value
  | tree => .error (tree.mismatch "a boolean")

def decodeCount : JsonTree → Decoded UInt32
  | .integer value =>
    if 0 ≤ value && value < 0x100000000 then .ok (UInt32.ofNat value.toNat)
    else .error (.invalidValue (.integer value) "u32")
  | tree => .error (tree.mismatch "u32")

def decodeOptional {α : Type} (decode : JsonTree → Decoded α) : JsonTree → Decoded (Option α)
  | .null => .ok none
  | tree => (decode tree).map some

def decodeList {α : Type} (decode : JsonTree → Decoded α) : JsonTree → Decoded (List α)
  | .array items => items.mapM decode
  | tree => .error (tree.mismatch "a sequence")

end JsonTree

/-- How a record is put together: the fields are collected one by one, in whatever order they come,
and the record is finished from the collection. -/
structure RecordForm (π α : Type) where
  /-- The name of the record in messages. -/
  name : String
  /-- The names of the fields, in the order of arrays. -/
  keys : List String
  start : π
  /-- Adds the value of a field to the collection. -/
  put : π → String → JsonTree → Decoded π
  /-- Finishes the record; a required field that is missing is reported by its place and name. -/
  finish : π → (Nat → String → DecodingError) → Decoded α

/-- The value of a field that has not been given before. -/
def RecordForm.fill {α : Type} (key : String) (slot : Option α) (value : Decoded α) : Decoded α :=
  match slot with
  | some _ => .error (.duplicateField key)
  | none => value

def RecordForm.required {α : Type} (slot : Option α) (missing : DecodingError) : Decoded α :=
  match slot with
  | some value => .ok value
  | none => .error missing

namespace RecordForm

variable {π α : Type}

def takeMember (form : RecordForm π α) (parts : π) (member : JsonTree × JsonTree) : Decoded π :=
  match member with
  | (.text key, value) =>
    if form.keys.contains key then form.put parts key value
    else if value.isWhole then .ok parts
    else .error .malformed
  | _ => .error .malformed

def decode (form : RecordForm π α) : JsonTree → Decoded α
  | .object members => do
    let parts ← members.foldlM form.takeMember form.start
    form.finish parts (fun _ key => .missingField key)
  | .array items => do
    let parts ← (form.keys.zip items).foldlM
      (fun parts item => form.put parts item.1 item.2) form.start
    let record ← form.finish parts
      (fun place _ => .invalidLength place form.name form.keys.length)
    if form.keys.length < items.length then .error .malformed else .ok record
  | tree => .error (tree.mismatch ("struct " ++ form.name))

end RecordForm

end SoapClasses
