import SoapClasses.QualifiedNames

/-!
# The imports of a class

Each imported name stands once in the table, in the order of code points, with the alias that it was
first imported under, if any. Importing a name again changes nothing.
-/

namespace SoapClasses

/-- A name that a class refers to by its last segment, or by an alias. -/
structure Import where
  name : String
  aliasName : Option String
  deriving DecidableEq, Repr

/-- The imports with this one in its place, unless its name is there. -/
def insertImport (entry : Import) : List Import → List Import
  | [] => [entry]
  | head :: rest =>
    if entry.name < head.name then entry :: head :: rest
    else if head.name < entry.name then head :: insertImport entry rest
    else head :: rest

theorem name_of_mem_insertImport {entry other : Import} {entries : List Import}
    (h : other ∈ insertImport entry entries) : other = entry ∨ other ∈ entries := by
  induction entries with
  | nil => simpa [insertImport] using h
  | cons head rest ih =>
    simp only [insertImport] at h
    split at h
    · simpa using h
    · split at h
      · rcases List.mem_cons.mp h with h | h
        · exact .inr (h ▸ List.mem_cons_self)
        · exact (ih h).imp_right (List.mem_cons_of_mem _)
      · exact .inr h

theorem sorted_insertImport (entry : Import) (entries : List Import)
    (h : entries.Pairwise (fun a b => a.name < b.name)) :
    (insertImport entry entries).Pairwise (fun a b => a.name < b.name) := by
  induction entries with
  | nil => simp [insertImport]
  | cons head rest ih =>
    simp only [List.pairwise_cons] at h
    simp only [insertImport]
    split
    · rename_i hlt
      refine List.pairwise_cons.mpr ⟨?_, List.pairwise_cons.mpr h⟩
      intro other hother
      rcases List.mem_cons.mp hother with rfl | hmem
      · exact hlt
      · exact String.lt_trans hlt (h.1 other hmem)
    · split
      · rename_i hgt
        refine List.pairwise_cons.mpr ⟨?_, ih h.2⟩
        intro other hother
        rcases name_of_mem_insertImport hother with rfl | hmem
        · exact hgt
        · exact h.1 other hmem
      · exact List.pairwise_cons.mpr h

/-- Imports in the order of their names, each name once. -/
structure ImportTable where
  toList : List Import
  sorted : toList.Pairwise (fun a b => a.name < b.name)

namespace ImportTable

theorem ext {s t : ImportTable} (h : s.toList = t.toList) : s = t := by
  cases s
  cases t
  cases h
  rfl

instance : DecidableEq ImportTable := fun s t =>
  if h : s.toList = t.toList then isTrue (ext h) else isFalse (fun e => h (e ▸ rfl))

def empty : ImportTable :=
  ⟨[], List.Pairwise.nil⟩

/-- The table with a name, which stands there without leading backslashes. -/
def insert (table : ImportTable) (name : String) (aliasName : Option String) : ImportTable :=
  ⟨insertImport ⟨dropLeadingSeparators name, aliasName⟩ table.toList,
    sorted_insertImport _ _ table.sorted⟩

def find? (table : ImportTable) (name : String) : Option Import :=
  table.toList.find? (fun entry => entry.name == name)

def contains (table : ImportTable) (name : String) : Bool :=
  (table.find? (dropLeadingSeparators name)).isSome

@[simp] theorem toList_insert (table : ImportTable) (name : String) (aliasName : Option String) :
    (table.insert name aliasName).toList =
      insertImport ⟨dropLeadingSeparators name, aliasName⟩ table.toList := rfl

end ImportTable

end SoapClasses
