import SoapClasses.MemberTables

/-!
# Updates of member tables

Two tables with the same names in the same order and the same member under each name are equal. A put
adds its name at the end unless the name is there, and changes what stands under that name only. So a
list of puts leaves the last member of each name, and doing all of them again changes nothing. Where the
members of one name are equal, the order of the puts only decides the order of the table.
-/

namespace SoapClasses

open Named

variable {α : Type} [Named α]

theorem find?_putMember (member : α) (members : List α) (name : String) :
    (putMember member members).find? (fun other => nameOf other == name) =
      if name = nameOf member then some member
      else members.find? (fun other => nameOf other == name) := by
  induction members with
  | nil =>
    by_cases h : name = nameOf member
    · simp [putMember, h]
    · simp [putMember, h, Ne.symm h]
  | cons head rest ih =>
    by_cases hh : nameOf head = nameOf member
    · by_cases h : name = nameOf member
      · simp [putMember, hh, h]
      · simp [putMember, hh, h, Ne.symm h]
    · by_cases hn : nameOf head = name
      · have hne : name ≠ nameOf member := hn ▸ hh
        simp [putMember, hn, hne]
      · simp [putMember, hh, hn, ih]

theorem names_putMember_of_mem (member : α) (members : List α)
    (h : nameOf member ∈ members.map nameOf) :
    (putMember member members).map nameOf = members.map nameOf := by
  induction members with
  | nil => simp at h
  | cons head rest ih =>
    by_cases hh : nameOf head = nameOf member
    · simp [putMember, hh]
    · have hr : nameOf member ∈ rest.map nameOf := by
        rcases List.mem_cons.mp h with h | h
        · exact absurd h.symm hh
        · exact h
      simp [putMember, hh, ih hr]

theorem putMember_of_not_mem (member : α) (members : List α)
    (h : nameOf member ∉ members.map nameOf) : putMember member members = members ++ [member] := by
  induction members with
  | nil => rfl
  | cons head rest ih =>
    rw [List.map_cons, List.mem_cons, not_or] at h
    simp [putMember, Ne.symm h.1, ih h.2]

theorem eraseDups_of_nodup {names : List String} (h : names.Nodup) : names.eraseDups = names := by
  induction names with
  | nil => rfl
  | cons name rest ih =>
    rw [List.nodup_cons] at h
    have hkept : rest.filter (fun other => !other == name) = rest := by
      apply List.filter_eq_self.mpr
      intro other hmem
      simpa using fun heq : other = name => h.1 (heq ▸ hmem)
    rw [List.eraseDups_cons, hkept, ih h.2]

theorem find?_key_eq_some_iff {β : Type} {key : β → String} {entries : List β}
    (h : (entries.map key).Nodup) (name : String) (entry : β) :
    entries.find? (fun other => key other == name) = some entry ↔
      entry ∈ entries ∧ key entry = name := by
  induction entries with
  | nil => simp
  | cons head rest ih =>
    rw [List.map_cons, List.nodup_cons] at h
    by_cases hh : key head = name
    · have hrest : ∀ other ∈ rest, key other ≠ name := by
        intro other hother ho
        exact h.1 (List.mem_map.mpr ⟨other, hother, ho.trans hh.symm⟩)
      simp only [List.find?_cons, hh, beq_self_eq_true, Option.some.injEq, List.mem_cons]
      constructor
      · rintro rfl
        exact ⟨.inl rfl, hh⟩
      · rintro ⟨rfl | hmem, hn⟩
        · rfl
        · exact absurd hn (hrest entry hmem)
    · have hf : (key head == name) = false := by simpa using hh
      simp only [List.find?_cons, hf, ih h.2, List.mem_cons]
      constructor
      · rintro ⟨hmem, hn⟩
        exact ⟨.inr hmem, hn⟩
      · rintro ⟨rfl | hmem, hn⟩
        · exact absurd hn hh
        · exact ⟨hmem, hn⟩

/-- What is found does not depend on the order if everything that could be found is seen as the same. -/
theorem map_find?_eq_of_perm {β γ : Type} {p : β → Bool} {f : β → γ} {entries others : List β}
    (hperm : entries.Perm others)
    (hsame : ∀ entry ∈ entries, ∀ other ∈ entries, p entry = true → p other = true →
      f entry = f other) : (entries.find? p).map f = (others.find? p).map f := by
  cases hfound : entries.find? p with
  | none =>
    have hnone : others.find? p = none := by
      rw [List.find?_eq_none] at hfound ⊢
      exact fun entry hmem => hfound entry (hperm.mem_iff.mpr hmem)
    rw [hnone]
  | some entry =>
    have hentry := List.mem_of_find?_eq_some hfound
    have hholds := List.find?_some hfound
    cases hother : others.find? p with
    | none =>
      have hfails := List.find?_eq_none.mp hother entry (hperm.mem_iff.mp hentry)
      exact absurd hholds hfails
    | some other =>
      have hmem := hperm.mem_iff.mpr (List.mem_of_find?_eq_some hother)
      have hequal := hsame entry hentry other hmem hholds (List.find?_some hother)
      rw [Option.map_some, Option.map_some, hequal]

/-- A name that is a member already keeps its place in a set of names. -/
theorem prefix_putMember (name : String) (names : List String) : names <+: putMember name names := by
  induction names with
  | nil => exact List.nil_prefix
  | cons head rest ih =>
    by_cases h : head = name
    · subst h
      simp [putMember, nameOf]
    · have hn : nameOf head ≠ nameOf name := h
      simpa [putMember, hn] using ih

namespace MemberTable

/-- The names of the members, in their order. -/
def names (table : MemberTable α) : List String :=
  table.toList.map nameOf

theorem find?_put (table : MemberTable α) (member : α) (name : String) :
    (table.put member).find? name = if name = nameOf member then some member else table.find? name :=
  find?_putMember member table.toList name

theorem mem_names_put (table : MemberTable α) (member : α) (name : String) :
    name ∈ (table.put member).names ↔ name = nameOf member ∨ name ∈ table.names :=
  mem_names_putMember member table.toList name

theorem names_put_of_mem (table : MemberTable α) (member : α) (h : nameOf member ∈ table.names) :
    (table.put member).names = table.names :=
  names_putMember_of_mem member table.toList h

theorem names_put_of_not_mem (table : MemberTable α) (member : α) (h : nameOf member ∉ table.names) :
    (table.put member).names = table.names ++ [nameOf member] := by
  rw [names, toList_put, putMember_of_not_mem member table.toList h, List.map_append]
  rfl

theorem find?_eq_some_iff (table : MemberTable α) (name : String) (member : α) :
    table.find? name = some member ↔ member ∈ table.toList ∧ nameOf member = name :=
  find?_key_eq_some_iff table.distinct name member

theorem eq_of_names_of_find? {s t : MemberTable α} (hn : s.names = t.names)
    (hf : ∀ name, s.find? name = t.find? name) : s = t := by
  apply MemberTable.ext
  have hl : s.toList.length = t.toList.length := by
    simpa [names] using congrArg List.length hn
  apply List.ext_getElem hl
  intro i hs ht
  have hname : nameOf s.toList[i] = nameOf t.toList[i] := by
    simpa [names] using List.getElem_of_eq hn (by simpa [names] using hs)
  have hfound : s.find? (nameOf s.toList[i]) = some s.toList[i] :=
    (find?_eq_some_iff s _ _).mpr ⟨List.getElem_mem hs, rfl⟩
  have hother : t.find? (nameOf s.toList[i]) = some t.toList[i] :=
    (find?_eq_some_iff t _ _).mpr ⟨List.getElem_mem ht, hname.symm⟩
  rw [hf, hother] at hfound
  exact (Option.some.inj hfound).symm

theorem put_of_mem {table : MemberTable α} {member : α} (h : member ∈ table.toList) :
    table.put member = table := by
  apply eq_of_names_of_find? (names_put_of_mem table member (List.mem_map_of_mem h))
  intro name
  rw [find?_put]
  split
  · rename_i hname
    exact ((table.find?_eq_some_iff name member).mpr ⟨h, hname.symm⟩).symm
  · rfl

theorem nodup (table : MemberTable α) : table.toList.Nodup :=
  List.Pairwise.of_map nameOf (fun _ _ hnames heq => hnames (congrArg nameOf heq)) table.distinct

theorem perm_of_find? {s t : MemberTable α} (h : ∀ name, s.find? name = t.find? name) :
    s.toList.Perm t.toList := by
  rw [List.perm_ext_iff_of_nodup s.nodup t.nodup]
  intro member
  have hfound := find?_eq_some_iff s (nameOf member) member
  rw [h, find?_eq_some_iff] at hfound
  simpa using hfound.symm

/-- The table with all these members put into it, in order. -/
def putAll (table : MemberTable α) (members : List α) : MemberTable α :=
  members.foldl put table

theorem mem_names_putAll (table : MemberTable α) (members : List α) (name : String) :
    name ∈ (table.putAll members).names ↔ name ∈ members.map nameOf ∨ name ∈ table.names := by
  induction members generalizing table with
  | nil => simp [putAll]
  | cons head rest ih =>
    have h := ih (table.put head)
    rw [mem_names_put] at h
    simp only [putAll, List.foldl_cons, List.map_cons, List.mem_cons] at h ⊢
    rw [h, or_left_comm, or_assoc]

theorem find?_putAll (table : MemberTable α) (members : List α) (name : String) :
    (table.putAll members).find? name =
      (members.reverse.find? (fun member => nameOf member == name)).or (table.find? name) := by
  induction members generalizing table with
  | nil => simp [putAll]
  | cons head rest ih =>
    have h := ih (table.put head)
    rw [find?_put] at h
    simp only [putAll, List.foldl_cons, List.reverse_cons, List.find?_append] at h ⊢
    rw [h, Option.or_assoc]
    by_cases hn : name = nameOf head
    · simp [hn]
    · simp [hn, Ne.symm hn]

/-- A member of the result is one of the new members, or an old one that none of them replaces. -/
theorem mem_putAll (table : MemberTable α) (members : List α) {member : α}
    (h : member ∈ (table.putAll members).toList) :
    member ∈ members ∨ member ∈ table.toList ∧ nameOf member ∉ members.map nameOf := by
  have hfound := (find?_eq_some_iff _ (nameOf member) member).mpr ⟨h, rfl⟩
  rw [find?_putAll] at hfound
  cases hlast : members.reverse.find? (fun other => nameOf other == nameOf member) with
  | some last =>
    rw [hlast, Option.some_or] at hfound
    have hmem := List.mem_of_find?_eq_some hlast
    rw [Option.some.inj hfound, List.mem_reverse] at hmem
    exact .inl hmem
  | none =>
    rw [hlast, Option.none_or] at hfound
    refine .inr ⟨((find?_eq_some_iff table _ member).mp hfound).1, ?_⟩
    intro hname
    obtain ⟨other, hother, heq⟩ := List.mem_map.mp hname
    have hne := List.find?_eq_none.mp hlast other (List.mem_reverse.mpr hother)
    simp [heq] at hne

theorem eq_of_nameOf_eq (table : MemberTable α) {member other : α} (h : member ∈ table.toList)
    (hother : other ∈ table.toList) (hname : nameOf member = nameOf other) : member = other := by
  have hfound := (find?_eq_some_iff table (nameOf other) member).mpr ⟨h, hname⟩
  rw [(find?_eq_some_iff table (nameOf other) other).mpr ⟨hother, rfl⟩] at hfound
  exact (Option.some.inj hfound).symm

theorem exists_mem_putAll (table : MemberTable α) (members : List α) {member : α}
    (h : member ∈ members) :
    ∃ other ∈ (table.putAll members).toList, nameOf other = nameOf member :=
  List.mem_map.mp ((mem_names_putAll table members _).mpr (.inl (List.mem_map_of_mem h)))

/-- The names are those of the table and of the new members, each in its first place. -/
theorem names_putAll (table : MemberTable α) (members : List α) :
    (table.putAll members).names = (table.names ++ members.map nameOf).eraseDups := by
  induction members generalizing table with
  | nil =>
    have hnames : table.names.eraseDups = table.names := eraseDups_of_nodup table.distinct
    rw [List.map_nil, List.append_nil, hnames]
    rfl
  | cons head rest ih =>
    have hrest : (table.putAll (head :: rest)).names =
        ((table.put head).names ++ rest.map nameOf).eraseDups := ih (table.put head)
    by_cases hmem : nameOf head ∈ table.names
    · have hskipped : ((head :: rest).map nameOf).removeAll table.names =
          (rest.map nameOf).removeAll table.names := by
        simp [List.cons_removeAll, hmem]
      rw [hrest, names_put_of_mem table head hmem, List.eraseDups_append, List.eraseDups_append,
        hskipped]
    · rw [hrest, names_put_of_not_mem table head hmem, List.append_assoc]
      rfl

theorem toList_putAll_of_nodup (table : MemberTable α) (members : List α)
    (h : (table.names ++ members.map nameOf).Nodup) :
    (table.putAll members).toList = table.toList ++ members := by
  induction members generalizing table with
  | nil => exact (List.append_nil _).symm
  | cons head rest ih =>
    rw [List.map_cons, List.append_cons] at h
    have hfree : nameOf head ∉ table.names := by
      intro hmem
      have happend := (List.nodup_append.mp (List.nodup_append.mp h).1).2.2
      exact happend _ hmem _ (List.mem_singleton_self _) rfl
    rw [← names_put_of_not_mem table head hfree] at h
    have hrest := ih (table.put head) h
    rw [toList_put, putMember_of_not_mem head table.toList hfree, List.append_assoc] at hrest
    exact hrest

theorem toList_putAll_empty (members : List α) (h : (members.map nameOf).Nodup) :
    (empty.putAll members).toList = members :=
  toList_putAll_of_nodup empty members h

theorem prefix_putAll (table : MemberTable String) (names : List String) :
    table.toList <+: (table.putAll names).toList := by
  induction names generalizing table with
  | nil => exact List.prefix_rfl
  | cons head rest ih => exact (prefix_putMember head table.toList).trans (ih (table.put head))

theorem names_putAll_of_subset (table : MemberTable α) (members : List α)
    (h : ∀ member ∈ members, nameOf member ∈ table.names) :
    (table.putAll members).names = table.names := by
  induction members generalizing table with
  | nil => rfl
  | cons head rest ih =>
    have hhead := names_put_of_mem table head (h head List.mem_cons_self)
    have hrest : ∀ member ∈ rest, nameOf member ∈ (table.put head).names := by
      intro member hmem
      rw [hhead]
      exact h member (List.mem_cons_of_mem _ hmem)
    exact (ih (table.put head) hrest).trans hhead

theorem putAll_putAll (table : MemberTable α) (members : List α) :
    (table.putAll members).putAll members = table.putAll members := by
  apply eq_of_names_of_find?
  · apply names_putAll_of_subset
    intro member hmem
    exact (mem_names_putAll table members _).mpr (.inl (List.mem_map_of_mem hmem))
  · intro name
    rw [find?_putAll, find?_putAll, ← Option.or_assoc, Option.or_self]

/-- Members of which no two have one name leave the same table in any order, up to its order. -/
theorem perm_putAll (table : MemberTable α) {members others : List α} (hperm : members.Perm others)
    (hagree : ∀ member ∈ members, ∀ other ∈ members, nameOf member = nameOf other → member = other) :
    (table.putAll members).toList.Perm (table.putAll others).toList := by
  apply perm_of_find?
  intro name
  have hreversed : members.reverse.Perm others.reverse :=
    ((List.reverse_perm members).trans hperm).trans (List.reverse_perm others).symm
  have hfound : members.reverse.find? (fun member => nameOf member == name) =
      others.reverse.find? (fun member => nameOf member == name) := by
    have hmapped := map_find?_eq_of_perm (p := fun member => nameOf member == name) (f := id)
      hreversed ?_
    · simpa using hmapped
    · intro member hmem other hother hname hname'
      rw [List.mem_reverse] at hmem hother
      exact hagree member hmem other hother ((beq_iff_eq.mp hname).trans (beq_iff_eq.mp hname').symm)
  rw [find?_putAll, find?_putAll, hfound]

end MemberTable

end SoapClasses
