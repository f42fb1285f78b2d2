import SoapClasses.ImportTables
import SoapClasses.Proofs.MemberTableUpdates

/-!
# Updates of import tables

Importing a name keeps every entry of the table, so the first alias of a name stays. A table in which
the name stands already does not change at all, and doing a list of imports again changes nothing.
Without aliases the order of the imports does not matter either.
-/

namespace SoapClasses

theorem mem_insertImport_of_mem {entry other : Import} {entries : List Import}
    (h : other ∈ entries) : other ∈ insertImport entry entries := by
  induction entries with
  | nil => simp at h
  | cons head rest ih =>
    simp only [insertImport]
    split
    · exact List.mem_cons_of_mem _ h
    · split
      · rcases List.mem_cons.mp h with h | h
        · exact h ▸ List.mem_cons_self
        · exact List.mem_cons_of_mem _ (ih h)
      · exact h

theorem name_mem_insertImport (entry : Import) (entries : List Import) :
    entry.name ∈ (insertImport entry entries).map Import.name := by
  induction entries with
  | nil => simp [insertImport]
  | cons head rest ih =>
    simp only [insertImport]
    split
    · simp
    · split
      · simp [ih]
      · rename_i hge hle
        have heq : entry.name = head.name :=
          String.le_antisymm (String.not_lt.mp hle) (String.not_lt.mp hge)
        simp [heq]

/-- In a sorted list the search for the place of an entry meets its name if it is there. -/
theorem insertImport_of_name_mem (entry : Import) (entries : List Import)
    (hs : entries.Pairwise (fun a b => a.name < b.name))
    (h : entry.name ∈ entries.map Import.name) : insertImport entry entries = entries := by
  induction entries with
  | nil => simp at h
  | cons head rest ih =>
    rw [List.pairwise_cons] at hs
    rw [List.map_cons, List.mem_cons] at h
    rcases h with heq | hmem
    · simp [insertImport, heq]
    · obtain ⟨other, hother, hname⟩ := List.mem_map.mp hmem
      have hlt : head.name < entry.name := hname ▸ hs.1 other hother
      have hnot : ¬ entry.name < head.name := String.lt_asymm hlt
      simp [insertImport, hlt, hnot, ih hs.2 hmem]

theorem find?_eq_none_of_lt {name : String} {entries : List Import}
    (h : ∀ entry ∈ entries, name < entry.name) :
    entries.find? (fun entry => entry.name == name) = none := by
  rw [List.find?_eq_none]
  intro entry hmem
  simpa using (String.ne_of_lt (h entry hmem)).symm

theorem find?_insertImport (entry : Import) {entries : List Import}
    (hs : entries.Pairwise (fun a b => a.name < b.name)) (name : String) :
    (insertImport entry entries).find? (fun other => other.name == name) =
      (entries.find? (fun other => other.name == name)).or
        (if entry.name = name then some entry else none) := by
  induction entries with
  | nil => by_cases h : entry.name = name <;> simp [insertImport, h]
  | cons head rest ih =>
    rw [List.pairwise_cons] at hs
    simp only [insertImport]
    split
    · rename_i hlt
      by_cases h : entry.name = name
      · have hall : ∀ other ∈ head :: rest, name < other.name := by
          intro other hmem
          rcases List.mem_cons.mp hmem with rfl | hmem
          · exact h ▸ hlt
          · exact h ▸ String.lt_trans hlt (hs.1 other hmem)
        rw [find?_eq_none_of_lt hall]
        simp [h]
      · simp [h]
    · split
      · by_cases h : head.name = name
        · simp [h]
        · simp [h, ih hs.2]
      · rename_i hge hle
        have heq : entry.name = head.name :=
          String.le_antisymm (String.not_lt.mp hle) (String.not_lt.mp hge)
        by_cases h : head.name = name
        · simp [h]
        · simp [heq, h]

namespace ImportTable

/-- The imported names, in their order. -/
def names (table : ImportTable) : List String :=
  table.toList.map Import.name

theorem mem_insert_of_mem {table : ImportTable} {entry : Import} (h : entry ∈ table.toList)
    (name : String) (aliasName : Option String) : entry ∈ (table.insert name aliasName).toList :=
  mem_insertImport_of_mem h

theorem name_mem_insert (table : ImportTable) (name : String) (aliasName : Option String) :
    dropLeadingSeparators name ∈ (table.insert name aliasName).names :=
  name_mem_insertImport ⟨dropLeadingSeparators name, aliasName⟩ table.toList

theorem insert_of_name_mem {table : ImportTable} {name : String}
    (h : dropLeadingSeparators name ∈ table.names) (aliasName : Option String) :
    table.insert name aliasName = table :=
  ImportTable.ext
    (insertImport_of_name_mem ⟨dropLeadingSeparators name, aliasName⟩ table.toList table.sorted h)

/-- Importing a name has an effect on that name only, and only if it is not imported yet. -/
theorem find?_insert (table : ImportTable) (imported : String) (aliasName : Option String)
    (name : String) : (table.insert imported aliasName).find? name =
      (table.find? name).or
        (if dropLeadingSeparators imported = name then some ⟨name, aliasName⟩ else none) := by
  rw [find?, toList_insert, find?_insertImport _ table.sorted, find?]
  by_cases h : dropLeadingSeparators imported = name <;> simp [h]

/-- The table with all these names imported, in order. -/
def insertAll (table : ImportTable) (entries : List Import) : ImportTable :=
  entries.foldl (fun grown entry => grown.insert entry.name entry.aliasName) table

theorem mem_insertAll_of_mem {table : ImportTable} {other : Import} (h : other ∈ table.toList)
    (entries : List Import) : other ∈ (table.insertAll entries).toList := by
  induction entries generalizing table with
  | nil => exact h
  | cons head rest ih => exact ih (mem_insert_of_mem h head.name head.aliasName)

theorem name_mem_insertAll (table : ImportTable) {entries : List Import} {entry : Import}
    (h : entry ∈ entries) : dropLeadingSeparators entry.name ∈ (table.insertAll entries).names := by
  induction entries generalizing table with
  | nil => simp at h
  | cons head rest ih =>
    rcases List.mem_cons.mp h with rfl | h
    · obtain ⟨other, hother, hname⟩ :=
        List.mem_map.mp (name_mem_insert table entry.name entry.aliasName)
      exact List.mem_map.mpr ⟨other, mem_insertAll_of_mem hother rest, hname⟩
    · exact ih (table.insert head.name head.aliasName) h

theorem mem_insertAll {table : ImportTable} {entries : List Import} {other : Import}
    (h : other ∈ (table.insertAll entries).toList) :
    other ∈ table.toList ∨
      ∃ entry ∈ entries, other = ⟨dropLeadingSeparators entry.name, entry.aliasName⟩ := by
  induction entries generalizing table with
  | nil => exact .inl h
  | cons head rest ih =>
    have hrest : other ∈ (table.insert head.name head.aliasName).toList ∨
        ∃ entry ∈ rest, other = ⟨dropLeadingSeparators entry.name, entry.aliasName⟩ := ih h
    rcases hrest with hmem | ⟨entry, hentry, heq⟩
    · rcases name_of_mem_insertImport hmem with heq | hmem
      · exact .inr ⟨head, List.mem_cons_self, heq⟩
      · exact .inl hmem
    · exact .inr ⟨entry, List.mem_cons_of_mem _ hentry, heq⟩

theorem insertAll_of_names_mem {table : ImportTable} {entries : List Import}
    (h : ∀ entry ∈ entries, dropLeadingSeparators entry.name ∈ table.names) :
    table.insertAll entries = table := by
  induction entries with
  | nil => rfl
  | cons head rest ih =>
    have hhead := insert_of_name_mem (h head List.mem_cons_self) head.aliasName
    have hrest := ih (fun entry hentry => h entry (List.mem_cons_of_mem _ hentry))
    simp only [insertAll, List.foldl_cons, hhead] at hrest ⊢
    exact hrest

theorem insertAll_insertAll (table : ImportTable) (entries : List Import) :
    (table.insertAll entries).insertAll entries = table.insertAll entries := by
  apply insertAll_of_names_mem
  intro entry hentry
  exact name_mem_insertAll table hentry

theorem find?_insertAll (table : ImportTable) (entries : List Import) (name : String) :
    (table.insertAll entries).find? name = (table.find? name).or
      ((entries.find? (fun entry => dropLeadingSeparators entry.name == name)).map
        (fun entry => ⟨name, entry.aliasName⟩)) := by
  induction entries generalizing table with
  | nil => simp [insertAll]
  | cons head rest ih =>
    have hrest := ih (table.insert head.name head.aliasName)
    rw [find?_insert, Option.or_assoc] at hrest
    simp only [insertAll, List.foldl_cons] at hrest ⊢
    rw [hrest]
    by_cases h : dropLeadingSeparators head.name = name
    · simp [h]
    · simp [h]

theorem find?_eq_some_iff (table : ImportTable) (name : String) (entry : Import) :
    table.find? name = some entry ↔ entry ∈ table.toList ∧ entry.name = name := by
  apply find?_key_eq_some_iff
  rw [List.Nodup, List.pairwise_map]
  exact table.sorted.imp String.ne_of_lt

theorem eq_of_find? {s t : ImportTable} (h : ∀ name, s.find? name = t.find? name) : s = t := by
  have hs : s.toList.Nodup := s.sorted.imp (fun hlt heq => String.ne_of_lt hlt (congrArg _ heq))
  have ht : t.toList.Nodup := t.sorted.imp (fun hlt heq => String.ne_of_lt hlt (congrArg _ heq))
  have hperm : s.toList.Perm t.toList := by
    rw [List.perm_ext_iff_of_nodup hs ht]
    intro entry
    have hfound := find?_eq_some_iff s entry.name entry
    rw [h, find?_eq_some_iff] at hfound
    simpa using hfound.symm
  apply ImportTable.ext
  refine hperm.eq_of_pairwise ?_ s.sorted t.sorted
  intro entry other _ _ hlt hgt
  exact absurd hgt (String.lt_asymm hlt)

/-- The order of imports does not matter as long as none of them has an alias. -/
theorem insertAll_eq_of_perm (table : ImportTable) {entries others : List Import}
    (hperm : entries.Perm others) (hplain : ∀ entry ∈ entries, entry.aliasName = none) :
    table.insertAll entries = table.insertAll others := by
  apply eq_of_find?
  intro name
  rw [find?_insertAll, find?_insertAll, map_find?_eq_of_perm hperm]
  intro entry hmem other hother _ _
  rw [hplain entry hmem, hplain other hother]

/-- Exactly the names with the property are imported, none of them under an alias. -/
structure ImportsExactly (table : ImportTable) (Imported : String → Prop) : Prop where
  noAlias : ∀ entry ∈ table.toList, entry.aliasName = none
  mem_names_iff : ∀ name, name ∈ table.names ↔ Imported name

theorem importsExactly_insertAll {names : List String}
    (h : ∀ name ∈ names, dropLeadingSeparators name = name) :
    (empty.insertAll (names.map (fun name => ⟨name, none⟩))).ImportsExactly (· ∈ names) := by
  have hentries : ∀ entry ∈ (empty.insertAll (names.map (fun name => ⟨name, none⟩))).toList,
      ∃ name ∈ names, entry = ⟨name, none⟩ := by
    intro entry hmem
    rcases mem_insertAll hmem with hnone | ⟨other, hother, rfl⟩
    · cases hnone
    · obtain ⟨name, hname, rfl⟩ := List.mem_map.mp hother
      exact ⟨name, hname, by rw [h name hname]⟩
  constructor
  · intro entry hmem
    obtain ⟨name, _, rfl⟩ := hentries entry hmem
    rfl
  · intro name
    constructor
    · intro hmem
      obtain ⟨entry, hentry, rfl⟩ := List.mem_map.mp hmem
      obtain ⟨other, hother, rfl⟩ := hentries entry hentry
      exact hother
    · intro hmem
      have himported := name_mem_insertAll empty
        (List.mem_map_of_mem (f := fun name => (⟨name, none⟩ : Import)) hmem)
      rwa [h name hmem] at himported

/-- Of names without backslashes in front, those that are needed are imported. -/
theorem importsExactly_filter {names : List String} {isNeeded : String → Bool} {Needed : String → Prop}
    (hbare : ∀ name ∈ names, dropLeadingSeparators name = name)
    (hneeded : ∀ name, isNeeded name = true ↔ Needed name) :
    (empty.insertAll ((names.filter isNeeded).map (fun name => ⟨name, none⟩))).ImportsExactly
      (fun name => name ∈ names ∧ Needed name) := by
  have hfiltered : ∀ name ∈ names.filter isNeeded, dropLeadingSeparators name = name :=
    fun name hmem => hbare name (List.mem_filter.mp hmem).1
  have hexact := importsExactly_insertAll hfiltered
  refine ⟨hexact.noAlias, ?_⟩
  intro name
  rw [hexact.mem_names_iff, List.mem_filter, hneeded]

end ImportTable

end SoapClasses
