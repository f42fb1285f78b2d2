/-!
# Members in the order of their names

The members of a class are kept in the order in which their names were first seen. A name stands at
most once in a table: putting a member whose name is there already replaces the old one in its place.
A table of names whose members are their own names is a set that remembers the order of arrival.
-/

namespace SoapClasses

/-- What has a name to be looked up by. -/
class Named (α : Type) where
  nameOf : α → String

instance : Named String where
  nameOf name := name

open Named

variable {α : Type} [Named α]

/-- The members with this one in the place of the one of its name, or at the end. -/
def putMember (member : α) : List α → List α
  | [] => [member]
  | head :: rest =>
    if nameOf head = nameOf member then member :: rest else head :: putMember member rest

theorem mem_names_putMember (member : α) (members : List α) (name : String) :
    name ∈ (putMember member members).map nameOf ↔
      name = nameOf member ∨ name ∈ members.map nameOf := by
  induction members with
  | nil => simp [putMember]
  | cons head rest ih =>
    by_cases h : nameOf head = nameOf member
    · simp [putMember, h]
    · simp only [putMember, if_neg h, List.map_cons, List.mem_cons, ih]
      constructor
      · rintro (h | h | h)
        · exact .inr (.inl h)
        · exact .inl h
        · exact .inr (.inr h)
      · rintro (h | h | h)
        · exact .inr (.inl h)
        · exact .inl h
        · exact .inr (.inr h)

theorem nodup_putMember (member : α) (members : List α) (h : (members.map nameOf).Nodup) :
    ((putMember member members).map nameOf).Nodup := by
  induction members with
  | nil => simp [putMember]
  | cons head rest ih =>
    simp only [List.map_cons, List.nodup_cons] at h
    by_cases hn : nameOf head = nameOf member
    · simp only [putMember, if_pos hn, List.map_cons, List.nodup_cons]
      exact hn ▸ h
    · simp only [putMember, if_neg hn, List.map_cons, List.nodup_cons, mem_names_putMember]
      exact ⟨fun hc => hc.elim hn h.1, ih h.2⟩

/-- Members in the order in which their names were first seen, no two of one name. -/
structure MemberTable (α : Type) [Named α] where
  toList : List α
  distinct : (toList.map nameOf).Nodup

namespace MemberTable

theorem ext {s t : MemberTable α} (h : s.toList = t.toList) : s = t := by
  cases s
  cases t
  cases h
  rfl

instance [DecidableEq α] : DecidableEq (MemberTable α) := fun s t =>
  if h : s.toList = t.toList then isTrue (ext h) else isFalse (fun e => h (e ▸ rfl))

def empty : MemberTable α :=
  ⟨[], List.nodup_nil⟩

/-- The table with this member in the place of the one of its name, or at the end. -/
def put (table : MemberTable α) (member : α) : MemberTable α :=
  ⟨putMember member table.toList, nodup_putMember member table.toList table.distinct⟩

/-- The table without the member of a name; the others keep their order. -/
def erase (table : MemberTable α) (name : String) : MemberTable α :=
  ⟨table.toList.filter (fun member => nameOf member != name),
    table.distinct.sublist (List.filter_sublist.map nameOf)⟩

def find? (table : MemberTable α) (name : String) : Option α :=
  table.toList.find? (fun member => nameOf member == name)

def contains (table : MemberTable α) (name : String) : Bool :=
  (table.find? name).isSome

@[simp] theorem toList_put (table : MemberTable α) (member : α) :
    (table.put member).toList = putMember member table.toList := rfl

@[simp] theorem toList_erase (table : MemberTable α) (name : String) :
    (table.erase name).toList = table.toList.filter (fun member => nameOf member != name) := rfl

end MemberTable

end SoapClasses
