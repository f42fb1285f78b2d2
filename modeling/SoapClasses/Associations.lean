/-!
# Association lists

A list of keys with values. Setting a key replaces its value in place, or adds the key at the end; so
only that key is looked up differently afterwards.
-/

namespace SoapClasses

variable {κ α : Type} [BEq κ]

/-- The entries with the value of a key replaced, or added at the end. -/
def setEntry (key : κ) (value : α) : List (κ × α) → List (κ × α)
  | [] => [(key, value)]
  | (head, old) :: rest =>
    if head == key then (key, value) :: rest else (head, old) :: setEntry key value rest

theorem lookup_setEntry [LawfulBEq κ] (key other : κ) (value : α) (entries : List (κ × α)) :
    (setEntry key value entries).lookup other =
      if other == key then some value else entries.lookup other := by
  induction entries with
  | nil => cases h : other == key <;> simp [setEntry, List.lookup_cons, h]
  | cons entry rest ih =>
    obtain ⟨head, old⟩ := entry
    unfold setEntry
    split
    next same =>
      rw [beq_iff_eq] at same
      subst same
      cases h : other == head <;> simp [List.lookup_cons, h]
    next different =>
      cases h : other == head with
      | false => simp [List.lookup_cons, h, ih]
      | true =>
        rw [beq_iff_eq] at h
        subst h
        simp [different]

end SoapClasses
