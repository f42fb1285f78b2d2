import Mathlib.Data.List.TakeDrop
import SoapClasses.ClassRendering
import SoapClasses.Proofs.GeneratedClients

/-!
# Displayed names

What a name means inside a class depends on the namespace of the class and on its imports: the first
segment stands for an import that is known by it, and otherwise the name lies in the namespace. Names may
be told apart by their spelling or in another way, such as without regard to case. In a class whose
imports are told apart, the last segment of an imported name means that name, and so does the own name of
the class; in a class for a client the last segment of a name that it refers to means that name again, imported or not.
A name that is shown as a whole means itself only if the class is in the global namespace.
-/

namespace SoapClasses

/-- The name by which a class knows an import. -/
def Import.localName (entry : Import) : String :=
  entry.aliasName.getD (shortName entry.name)

namespace PhpClass

/-- The full name of what a name means in the text of a class if names are told apart by a key. -/
def resolveBy (key : String → String) (php : PhpClass) (shown : String) : String :=
  if shown.toList.head? = some '\\' then dropLeadingSeparators shown
  else
    match nameSegments shown with
    | [] => qualify php.ns shown
    | first :: rest =>
      match php.imports.toList.find? (fun entry => key entry.localName == key first) with
      | some entry => joinText "\\" (entry.name :: rest)
      | none => qualify php.ns shown

/-- The names by which the class knows its imports have different keys, and others than its own name. -/
structure LocalNamesApartBy (key : String → String) (php : PhpClass) : Prop where
  nodup : (php.imports.toList.map (fun entry => key entry.localName)).Nodup
  own : key php.name ∉ php.imports.toList.map (fun entry => key entry.localName)

instance (key : String → String) (php : PhpClass) : Decidable (php.LocalNamesApartBy key) :=
  decidable_of_iff _ ⟨fun h => ⟨h.1, h.2⟩, fun h => And.intro h.nodup h.own⟩

/-- The full name of what a name means if names are told apart by their spelling. -/
def resolve (php : PhpClass) (shown : String) : String :=
  php.resolveBy id shown

def LocalNamesApart (php : PhpClass) : Prop :=
  php.LocalNamesApartBy id

/-- A name with this first segment means itself: the class is in the global namespace, and no import is
known by the segment. -/
def ReadsGlobally (php : PhpClass) (first : String) : Prop :=
  php.ns = "" ∧ first ∉ php.imports.toList.map Import.localName

end PhpClass

theorem joinText_cons_eq (separator first : String) (rest : List String) :
    joinText separator (first :: rest) = first ++ joinText separator ("" :: rest) := by
  rw [← joinText_append_head, String.append_empty]

theorem joinText_cons_left_inj {separator first other : String} {rest : List String} :
    joinText separator (first :: rest) = joinText separator (other :: rest) ↔ first = other := by
  rw [joinText_cons_eq separator first, joinText_cons_eq separator other]
  rw [← String.toList_inj, ← String.toList_inj, String.toList_append, String.toList_append,
    List.append_left_inj]

theorem qualify_joinText_cons (ns first : String) (rest : List String) :
    qualify ns (joinText "\\" (first :: rest)) = joinText "\\" (qualify ns first :: rest) := by
  unfold qualify
  split
  · rfl
  · rw [joinText_append_head]

theorem qualify_eq_self_iff (ns name : String) : qualify ns name = name ↔ ns = "" := by
  unfold qualify
  split
  · rename_i hempty
    exact iff_of_true rfl (beq_iff_eq.mp hempty)
  · rename_i hne
    refine iff_of_false (fun heq => ?_) (fun hempty => hne (beq_iff_eq.mpr hempty))
    have hlength := congrArg String.length heq
    rw [String.length_append, String.length_append] at hlength
    have hseparator : "\\".length = 1 := rfl
    omega

theorem qualify_left_inj {ns other name : String} : qualify ns name = qualify other name ↔ ns = other := by
  refine ⟨fun h => ?_, fun h => h ▸ rfl⟩
  by_cases hns : ns = ""
  · have hother : qualify other name = name := by
      rw [← h, hns]
      rfl
    rw [hns, (qualify_eq_self_iff other name).mp hother]
  · by_cases hother : other = ""
    · have hname : qualify ns name = name := by
        rw [h, hother]
        rfl
      exact absurd ((qualify_eq_self_iff ns name).mp hname) hns
    · rw [qualify, qualify, if_neg (by simpa using hns), if_neg (by simpa using hother)] at h
      apply String.toList_injective
      have hchars := congrArg String.toList h
      simpa only [String.toList_append, List.append_left_inj] using hchars

/-- A class of three segments or more is shown by its short name behind that of its namespace. -/
theorem IsClassName.exists_documentedName_eq {name : String} (h : IsClassName name)
    (hbuiltin : isBuiltinType name = false)
    (hlong : 3 ≤ (nameSegments (dropLeadingSeparators name)).length) :
    ∃ short, isIdentifier short = true ∧ isQualified (namespaceOf name) = true ∧
      (nameSegments (namespaceOf name)).all isIdentifier = true ∧
      documentedName name = joinText "\\" [shortName (namespaceOf name), short] ∧
      dropLeadingSeparators name = joinText "\\" [namespaceOf name, short] := by
  obtain ⟨parents, short, hparents, hshort, hcut, hbare, hns⟩ := h.exists_segments
  rw [hcut, List.length_append, List.length_singleton] at hlong
  have hne : parents ≠ [] := List.ne_nil_of_length_pos (by omega)
  have hsegments : nameSegments (namespaceOf name) = parents := by
    rw [hns, nameSegments_joinText hne hparents]
  have hdrop : (parents ++ [short]).drop (parents.length - 1) = [parents.getLast hne, short] := by
    rw [List.drop_append_of_le_length (Nat.sub_le _ _), List.drop_length_sub_one hne]
    rfl
  refine ⟨short, hshort, ?_, ?_, ?_, ?_⟩
  · rw [isQualified_iff, hsegments]
    omega
  · rw [hsegments, List.all_eq_true]
    exact hparents
  · have hshown : documentedName name =
        joinText "\\" ((parents ++ [short]).drop (parents.length - 1)) := by
      simp [documentedName, hbuiltin, hcut]
    rw [hshown, hdrop, shortName, hsegments, List.getLastD_eq_getLast?,
      List.getLast?_eq_some_getLast hne, Option.getD_some]
  · rw [hbare, joinText_concat _ _ hne, hns]
    rfl

theorem documentedName_eq_whole {name : String} (hbuiltin : isBuiltinType name = false)
    (hshort : ¬ 3 ≤ (nameSegments (dropLeadingSeparators name)).length) :
    documentedName name = dropLeadingSeparators name := by
  have hdrop : (nameSegments (dropLeadingSeparators name)).length - 2 = 0 := by omega
  rw [documentedName, hbuiltin, if_neg Bool.false_ne_true]
  show joinText "\\" (List.drop _ _) = _
  rw [hdrop, List.drop_zero, joinText_nameSegments]

namespace PhpClass

section

variable {key : String → String} {php : PhpClass} {name first : String} {rest : List String}

theorem resolveBy_joinText (hfirst : isIdentifier first = true)
    (hrest : ∀ segment ∈ rest, isIdentifier segment = true) :
    php.resolveBy key (joinText "\\" (first :: rest)) =
      match php.imports.toList.find? (fun entry => key entry.localName == key first) with
      | some entry => joinText "\\" (entry.name :: rest)
      | none => qualify php.ns (joinText "\\" (first :: rest)) := by
  have hne : first :: rest ≠ [] := List.cons_ne_nil _ _
  have hall : ∀ segment ∈ first :: rest, isIdentifier segment = true :=
    List.forall_mem_cons.mpr ⟨hfirst, hrest⟩
  obtain ⟨c, chars, hchars, hc⟩ := exists_cons_of_joinText hne hall
  have hhead : (joinText "\\" (first :: rest)).toList.head? ≠ some '\\' := by
    rw [hchars, List.head?_cons, Ne, Option.some.injEq]
    rintro rfl
    simp [isNameSeparator] at hc
  rw [resolveBy, if_neg hhead, nameSegments_joinText hne hall]

theorem resolveBy_identifier (hfirst : isIdentifier first = true) :
    php.resolveBy key first =
      match php.imports.toList.find? (fun entry => key entry.localName == key first) with
      | some entry => entry.name
      | none => qualify php.ns first := by
  have hone : ∀ text, joinText "\\" [text] = text := fun _ => rfl
  have hmeant := @resolveBy_joinText key php first [] hfirst
    (fun _ hmem => absurd hmem List.not_mem_nil)
  simp only [hone] at hmeant
  exact hmeant

theorem resolveBy_of_localName
    (h : (php.imports.toList.map (fun entry => key entry.localName)).Nodup) {entry : Import}
    (hentry : entry ∈ php.imports.toList) (hfirst : isIdentifier entry.localName = true)
    (hrest : ∀ segment ∈ rest, isIdentifier segment = true) :
    php.resolveBy key (joinText "\\" (entry.localName :: rest)) =
      joinText "\\" (entry.name :: rest) := by
  have hfound := (find?_key_eq_some_iff h (key entry.localName) entry).mpr ⟨hentry, rfl⟩
  rw [resolveBy_joinText hfirst hrest, hfound]

theorem resolveBy_of_not_localName (hfirst : isIdentifier first = true)
    (hrest : ∀ segment ∈ rest, isIdentifier segment = true)
    (h : key first ∉ php.imports.toList.map (fun entry => key entry.localName)) :
    php.resolveBy key (joinText "\\" (first :: rest)) =
      qualify php.ns (joinText "\\" (first :: rest)) := by
  have hnone : php.imports.toList.find? (fun entry => key entry.localName == key first) = none := by
    rw [List.find?_eq_none]
    intro entry hentry
    simpa using fun heq : key entry.localName = key first =>
      h (heq ▸ List.mem_map_of_mem (f := fun entry => key entry.localName) hentry)
  rw [resolveBy_joinText hfirst hrest, hnone]

theorem resolveBy_separator (key : String → String) (php : PhpClass) (name : String) :
    php.resolveBy key ("\\" ++ name) = dropLeadingSeparators name := by
  have hhead : ("\\" ++ name).toList.head? = some '\\' := by
    rw [String.toList_append]
    rfl
  rw [resolveBy, if_pos hhead]
  simp [dropLeadingSeparators, dropLeading, isNameSeparator]

/-- The last segment of a name means that name if the name is imported, and also if it is the name of the
class itself: that is not imported, and the namespace of the class does it. -/
theorem resolveBy_shortName (h : php.LocalNamesApartBy key)
    (hplain : ∀ entry ∈ php.imports.toList, entry.aliasName = none) (hown : '\\' ∉ php.name.toList)
    (hsegments : (nameSegments name).all isIdentifier = true)
    (hknown : name ∈ php.imports.names ∨ name = php.qualifiedName)
    (hrest : ∀ segment ∈ rest, isIdentifier segment = true) :
    php.resolveBy key (joinText "\\" (shortName name :: rest)) = joinText "\\" (name :: rest) := by
  have hshort : isIdentifier (shortName name) = true :=
    List.all_eq_true.mp hsegments _ (shortName_mem_nameSegments name)
  rcases hknown with himported | rfl
  · obtain ⟨entry, hentry, rfl⟩ := List.mem_map.mp himported
    have hlocal : entry.localName = shortName entry.name := by
      rw [Import.localName, hplain entry hentry, Option.getD_none]
    rw [← hlocal] at hshort ⊢
    exact resolveBy_of_localName h.nodup hentry hshort hrest
  · have hname : shortName php.qualifiedName = php.name := shortName_qualify php.ns hown
    rw [hname] at hshort ⊢
    rw [resolveBy_of_not_localName hshort hrest h.own, qualify_joinText_cons]
    rfl

end

variable {php : PhpClass} {first : String} {rest : List String}

theorem resolve_joinText (hfirst : isIdentifier first = true)
    (hrest : ∀ segment ∈ rest, isIdentifier segment = true) :
    php.resolve (joinText "\\" (first :: rest)) =
      match php.imports.toList.find? (fun entry => entry.localName == first) with
      | some entry => joinText "\\" (entry.name :: rest)
      | none => qualify php.ns (joinText "\\" (first :: rest)) :=
  @resolveBy_joinText id php first rest hfirst hrest

theorem resolve_of_not_localName (hfirst : isIdentifier first = true)
    (hrest : ∀ segment ∈ rest, isIdentifier segment = true)
    (h : first ∉ php.imports.toList.map Import.localName) :
    php.resolve (joinText "\\" (first :: rest)) = qualify php.ns (joinText "\\" (first :: rest)) :=
  @resolveBy_of_not_localName id php first rest hfirst hrest h

/-- A name that is shown as a whole means itself in the global namespace only, where no import may be
known by its first segment. -/
theorem resolve_eq_self_iff (himports : ∀ entry ∈ php.imports.toList, isQualified entry.name = true)
    (hfirst : isIdentifier first = true) (hrest : ∀ segment ∈ rest, isIdentifier segment = true) :
    php.resolve (joinText "\\" (first :: rest)) = joinText "\\" (first :: rest) ↔
      php.ReadsGlobally first := by
  by_cases hlocal : first ∈ php.imports.toList.map Import.localName
  · obtain ⟨known, hknown, hname⟩ := List.mem_map.mp hlocal
    cases hfound : php.imports.toList.find? (fun entry => entry.localName == first) with
    | none => exact absurd (beq_iff_eq.mpr hname) (List.find?_eq_none.mp hfound known hknown)
    | some entry =>
      rw [resolve_joinText hfirst hrest, hfound]
      refine iff_of_false (fun heq => ?_) (fun hglobal => hglobal.2 hlocal)
      have hqualified := himports entry (List.mem_of_find?_eq_some hfound)
      rw [joinText_cons_left_inj.mp heq, isQualified, List.any_eq_true] at hqualified
      obtain ⟨c, hmem, hc⟩ := hqualified
      rw [not_separator_of_isIdentifier hfirst c hmem] at hc
      cases hc
  · rw [resolve_of_not_localName hfirst hrest hlocal, qualify_eq_self_iff]
    exact (and_iff_left hlocal).symm

end PhpClass

namespace ClientDescription

variable {client : ClientDescription} {php : PhpClass} {name : String} {rest : List String}

theorem isQualified_of_mem_imports (h : client.MadeInto php) :
    ∀ entry ∈ php.imports.toList, isQualified entry.name = true := by
  intro entry hentry
  rw [isQualified_iff]
  exact ((h.imports.mem_names_iff entry.name).mp (List.mem_map_of_mem hentry)).2.1

theorem localName_of_mem_imports (h : client.MadeInto php) {entry : Import}
    (hentry : entry ∈ php.imports.toList) : entry.localName = shortName entry.name := by
  rw [Import.localName, h.imports.noAlias entry hentry, Option.getD_none]

theorem localNamesApart_of_referencedNames (h : client.MadeInto php)
    (hapart : ∀ name ∈ client.referencedNames, ∀ other ∈ client.referencedNames,
      shortName name = shortName other → name = other)
    (hown : ∀ name ∈ client.referencedNames, shortName name ≠ client.name) :
    php.LocalNamesApart := by
  have hreferenced : ∀ entry ∈ php.imports.toList, entry.name ∈ client.referencedNames :=
    fun entry hentry => ((h.imports.mem_names_iff entry.name).mp (List.mem_map_of_mem hentry)).1
  constructor
  · rw [List.Nodup, List.pairwise_map]
    apply php.imports.sorted.imp_of_mem
    intro entry other hentry hother hlt hlocal
    rw [localName_of_mem_imports h hentry, localName_of_mem_imports h hother] at hlocal
    exact String.ne_of_lt hlt (hapart _ (hreferenced entry hentry) _ (hreferenced other hother) hlocal)
  · intro hmem
    obtain ⟨entry, hentry, hlocal⟩ := List.mem_map.mp hmem
    have hname : php.name = client.name := congrArg ClassIdentity.name h.identity
    rw [localName_of_mem_imports h hentry, hname] at hlocal
    exact hown _ (hreferenced entry hentry) hlocal

theorem resolve_shortName (h : client.MadeInto php) (hclient : isIdentifier client.name = true)
    (hlocal : php.LocalNamesApart) (hname : (nameSegments name).all isIdentifier = true)
    (hqualified : isQualified name = true) (hmem : name ∈ client.referencedNames)
    (hrest : ∀ segment ∈ rest, isIdentifier segment = true) :
    php.resolve (joinText "\\" (shortName name :: rest)) = joinText "\\" (name :: rest) := by
  have hidentity := h.identity
  have hown : '\\' ∉ php.name.toList := by
    have hphp : php.name = client.name := congrArg ClassIdentity.name hidentity
    rw [hphp]
    intro hseparator
    exact absurd (continuesIdentifier_of_mem hclient hseparator) (by decide)
  have hknown : name ∈ php.imports.names ∨ name = php.qualifiedName := by
    rw [hidentity]
    by_cases hsame : name = client.identity.qualifiedName
    · exact .inr hsame
    · exact .inl ((h.imports.mem_names_iff name).mpr
        ⟨hmem, (isQualified_iff name).mp hqualified, hsame⟩)
  exact PhpClass.resolveBy_shortName hlocal h.imports.noAlias hown hname hknown hrest

end ClientDescription

end SoapClasses
