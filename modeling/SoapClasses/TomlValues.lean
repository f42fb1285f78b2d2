/-!
# Values of TOML

A value keeps what a setting can be made of: texts, truth values, arrays and tables. Of a number, a date
or a time only its presence counts.
-/

namespace SoapClasses

/-- A value of TOML. -/
inductive TomlValue where
  | text (value : String)
  | flag (value : Bool)
  /-- A number, and whether the widest kind of its numbers can hold it. -/
  | number (fits : Bool)
  /-- A date, a time, or both. -/
  | moment
  | array (items : List TomlValue)
  | table (entries : List (String × TomlValue))

namespace TomlValue

mutual

def isReadable : TomlValue → Bool
  | .number fits => fits
  | .array items => itemsReadable items
  | .table entries => entriesReadable entries
  | _ => true

def itemsReadable : List TomlValue → Bool
  | [] => true
  | item :: rest => isReadable item && itemsReadable rest

def entriesReadable : List (String × TomlValue) → Bool
  | [] => true
  | (_, value) :: rest => isReadable value && entriesReadable rest

end

def text? : TomlValue → Option String
  | .text value => some value
  | _ => none

def flag? : TomlValue → Option Bool
  | .flag value => some value
  | _ => none

def isEmpty : TomlValue → Bool
  | .array items => items.isEmpty
  | .table entries => entries.isEmpty
  | _ => false

/-- The fields of a record of these names. A table has them by name, and what it has under other names
must be readable; an array has them in order, and a date or time has none. -/
def fields? (names : List String) : TomlValue → Option (List (String × TomlValue))
  | .table entries =>
    if entries.all (fun entry => names.contains entry.1 || entry.2.isReadable) then some entries
    else none
  | .array items => some (names.zip items)
  | .moment => some []
  | _ => none

end TomlValue

/-- A field that may be left out, read if it is there. -/
def readField? {α : Type} (fields : List (String × TomlValue)) (name : String)
    (read : TomlValue → Option α) : Option (Option α) :=
  match fields.lookup name with
  | none => some none
  | some value => (read value).map some

end SoapClasses
