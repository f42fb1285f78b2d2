import SoapClasses.Associations
import SoapClasses.TomlValues

/-!
# Tables of TOML

A document is a table that grows statement by statement. A table can be made in passing, by a header
below it or by a dotted key, and a header can define it once. A table made by dotted keys is closed to
headers of its own name, one defined by a header is closed to dotted keys from above, and values are
closed to everything.
-/

namespace SoapClasses

/-- How a table came about. -/
inductive TableOrigin where
  /-- Its name stood in the header of a table below. -/
  | passed
  /-- Its own header, or the document itself. -/
  | header
  /-- Its name stood before the last dot of a key. -/
  | dotted
  deriving DecidableEq, Repr

/-- What a name stands for. -/
inductive TomlItem where
  | value (value : TomlValue)
  | table (origin : TableOrigin) (entries : List (String × TomlItem))
  /-- The tables of repeated headers in double brackets, the last one first. -/
  | tables (last : List (String × TomlItem)) (earlier : List (List (String × TomlItem)))

/-- The names of a table and what they stand for. -/
abbrev TomlEntries := List (String × TomlItem)

namespace TomlEntries

/-- Changes the table at the end of a path and makes the tables on the way that are missing. The
change is told how the table came about. -/
def alter (made origin : TableOrigin) (path : List String)
    (change : TableOrigin → TomlEntries → Option TomlEntries) (entries : TomlEntries) :
    Option TomlEntries :=
  match path with
  | [] => change origin entries
  | name :: rest =>
    match entries.lookup name with
    | none => do
      let inner ← alter made made rest change []
      return setEntry name (.table made inner) entries
    | some (.value _) => none
    | some (.table old inner) =>
      if made = .dotted ∧ old = .header then none
      else do
        let inner ← alter made old rest change inner
        return setEntry name (.table old inner) entries
    | some (.tables last earlier) => do
      let last ← alter made .header rest change last
      return setEntry name (.tables last earlier) entries

/-- Gives a name that has none yet a value. -/
def define (name : String) (value : TomlValue) (entries : TomlEntries) : Option TomlEntries :=
  if (entries.lookup name).isSome then none else some (entries ++ [(name, .value value)])

/-- Gives a dotted key a value; the table before the last dot must have been made by dotted keys. -/
def assign (key : List String) (value : TomlValue) (entries : TomlEntries) : Option TomlEntries :=
  match key.dropLast with
  | [] => define (key.getLastD "") value entries
  | path =>
    alter .dotted .header path
      (fun origin inner =>
        if origin = .dotted then define (key.getLastD "") value inner else none) entries

def openTable (name : String) (entries : TomlEntries) : Option TomlEntries :=
  match entries.lookup name with
  | none => some (entries ++ [(name, .table .header [])])
  | some (.table .passed inner) => some (setEntry name (.table .header inner) entries)
  | some _ => none

/-- Adds a table to those of a header in double brackets. -/
def openElement (name : String) (entries : TomlEntries) : Option TomlEntries :=
  match entries.lookup name with
  | none => some (entries ++ [(name, .tables [] [])])
  | some (.tables last earlier) => some (setEntry name (.tables [] (last :: earlier)) entries)
  | some _ => none

end TomlEntries

mutual

def TomlItem.toValue : TomlItem → TomlValue
  | .value value => value
  | .table _ entries => .table (entryValues entries)
  | .tables last earlier => .array ((.table (entryValues last) :: tableValues earlier).reverse)

def entryValues : List (String × TomlItem) → List (String × TomlValue)
  | [] => []
  | (name, item) :: rest => (name, TomlItem.toValue item) :: entryValues rest

/-- The values of the tables of a header in double brackets. -/
def tableValues : List (List (String × TomlItem)) → List TomlValue
  | [] => []
  | entries :: rest => .table (entryValues entries) :: tableValues rest

end

end SoapClasses
