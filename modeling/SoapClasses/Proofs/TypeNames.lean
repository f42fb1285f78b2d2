import Mathlib.Data.List.DropRight
import SoapClasses.Proofs.JoinedTexts
import SoapClasses.Proofs.NamingLaws

/-!
# Names of types

A type is named by a built-in word or by identifiers with backslashes between them; backslashes in front
of the name do not count. What is wrong with a name that is neither is found by looking at its segments
in their order.
-/

namespace SoapClasses

/-- The name is made of identifiers, behind any backslashes in front of it. -/
def IsClassName (name : String) : Prop :=
  ∃ segments : List String, segments ≠ [] ∧ (∀ segment ∈ segments, isIdentifier segment = true) ∧
    dropLeadingSeparators name = joinText "\\" segments

/-- The name is that of a built-in type or of a class. -/
def IsTypeName (name : String) : Prop :=
  isBuiltinType name = true ∨ IsClassName name

/-- What is wrong with the name of a class, if anything is: nothing is left without the backslashes in
front, or the first segment that is no identifier. -/
def classNameFault (name : String) : Option NamingError :=
  if dropLeadingSeparators name = "" then some .emptyTypeName
  else ((nameSegments (dropLeadingSeparators name)).find? (fun segment => !isIdentifier segment)).map
    (.invalidIdentifier .typeName)

def typeNameFault (name : String) : Option NamingError :=
  if isBuiltinType name = true then none else classNameFault name

/-- The name of the namespace of a class, which is empty for a class of the global namespace. -/
def namespaceOf (name : String) : String :=
  joinText "\\" (nameSegments (dropLeadingSeparators name)).dropLast

section

variable {name : String}

theorem ne_empty_of_isIdentifier (h : isIdentifier name = true) : name ≠ "" := by
  rintro rfl
  exact absurd h (by decide)

theorem not_separator_of_isIdentifier (h : isIdentifier name = true) :
    ∀ c ∈ name.toList, isNameSeparator c = false := by
  intro c hmem
  rw [isNameSeparator, beq_eq_false_iff_ne]
  rintro rfl
  exact not_mem_of_isIdentifier h (by decide) hmem

theorem dropLeadingSeparators_idem (name : String) :
    dropLeadingSeparators (dropLeadingSeparators name) = dropLeadingSeparators name := by
  simp only [dropLeadingSeparators, dropLeading, String.toList_ofList, List.dropWhile_idempotent]

theorem head?_dropLeadingSeparators_ne (name : String) :
    (dropLeadingSeparators name).toList.head? ≠ some '\\' := by
  rw [dropLeadingSeparators, dropLeading, String.toList_ofList]
  intro h
  have hkept := List.head?_dropWhile_not isNameSeparator name.toList
  simp [h, isNameSeparator] at hkept

theorem joinText_nameSegments (name : String) : joinText "\\" (nameSegments name) = name := by
  have honly : ∀ d, isNameSeparator d = true → d = '\\' := by
    intro d hd
    simpa [isNameSeparator] using hd
  exact joinText_splitText rfl honly name

theorem shortName_mem_nameSegments (name : String) : shortName name ∈ nameSegments name := by
  have hne : nameSegments name ≠ [] := splitText_ne_nil _ _
  rw [shortName, List.getLastD_eq_getLast?, List.getLast?_eq_some_getLast hne, Option.getD_some]
  exact List.getLast_mem hne

theorem shortName_qualify (ns : String) (h : '\\' ∉ name.toList) :
    shortName (qualify ns name) = name := by
  have hone : piecesOf isNameSeparator name.toList = [name.toList] := by
    apply piecesOf_of_none
    intro c hmem
    simpa [isNameSeparator] using fun heq : c = '\\' => h (heq ▸ hmem)
  unfold qualify shortName nameSegments splitText
  split
  · simp [hone]
  · have hchars : (ns ++ "\\" ++ name).toList = ns.toList ++ '\\' :: name.toList := by simp
    rw [hchars, piecesOf_append_cons (by rfl), hone, List.map_append]
    exact List.getLastD_concat.trans String.ofList_toList

theorem length_nameSegments (name : String) :
    (nameSegments name).length = name.toList.countP isNameSeparator + 1 := by
  rw [nameSegments, splitText, List.length_map]
  induction name.toList with
  | nil => rfl
  | cons c rest ih =>
    obtain ⟨piece, pieces, hp⟩ := List.exists_cons_of_ne_nil (piecesOf_ne_nil isNameSeparator rest)
    cases hc : isNameSeparator c with
    | true => simp [piecesOf, hc, ih]
    | false => simpa [piecesOf, hc, hp] using ih

theorem isQualified_iff (name : String) :
    isQualified name = true ↔ 2 ≤ (nameSegments name).length := by
  rw [length_nameSegments, isQualified, List.any_eq_true, ← List.countP_pos_iff]
  omega

end

section

variable {segments : List String}

theorem nameSegments_joinText (hne : segments ≠ [])
    (h : ∀ segment ∈ segments, isIdentifier segment = true) :
    nameSegments (joinText "\\" segments) = segments :=
  splitText_joinText rfl rfl hne (fun segment hmem => not_separator_of_isIdentifier (h segment hmem))

/-- Identifiers that are joined make a name without backslashes in front, and not the empty one. -/
theorem exists_cons_of_joinText (hne : segments ≠ [])
    (h : ∀ segment ∈ segments, isIdentifier segment = true) :
    ∃ c rest, (joinText "\\" segments).toList = c :: rest ∧ isNameSeparator c = false := by
  obtain ⟨first, rest, rfl⟩ := List.exists_cons_of_ne_nil hne
  have hfirst := h first List.mem_cons_self
  have hchars : first.toList ≠ [] := by
    simpa using ne_empty_of_isIdentifier hfirst
  obtain ⟨c, chars, hc⟩ := List.exists_cons_of_ne_nil hchars
  have hname := not_separator_of_isIdentifier hfirst c (hc ▸ List.mem_cons_self)
  have hjoin : joinText "\\" (first :: rest) = first ++ joinText "\\" ("" :: rest) := by
    rw [← joinText_append_head, String.append_empty]
  refine ⟨c, chars ++ (joinText "\\" ("" :: rest)).toList, ?_, hname⟩
  rw [hjoin, String.toList_append, hc, List.cons_append]

theorem joinText_ne_empty (hne : segments ≠ [])
    (h : ∀ segment ∈ segments, isIdentifier segment = true) : joinText "\\" segments ≠ "" := by
  obtain ⟨c, rest, hchars, _⟩ := exists_cons_of_joinText hne h
  intro hempty
  rw [hempty] at hchars
  cases hchars

theorem dropLeadingSeparators_joinText (hne : segments ≠ [])
    (h : ∀ segment ∈ segments, isIdentifier segment = true) :
    dropLeadingSeparators (joinText "\\" segments) = joinText "\\" segments := by
  obtain ⟨c, rest, hchars, hc⟩ := exists_cons_of_joinText hne h
  rw [dropLeadingSeparators, dropLeading, hchars, List.dropWhile_cons_of_neg (by simp [hc]), ← hchars,
    String.ofList_toList]

theorem qualify_joinText (h : ∀ segment ∈ segments, isIdentifier segment = true) (last : String) :
    qualify (joinText "\\" segments) last = joinText "\\" (segments ++ [last]) := by
  by_cases hne : segments = []
  · subst hne
    rfl
  · rw [qualify, beq_eq_false_iff_ne.mpr (joinText_ne_empty hne h), joinText_concat _ _ hne]
    rfl

end

/-- A name in the global namespace or in one of identifiers is made of identifiers. -/
theorem all_nameSegments_qualify {ns name : String}
    (hns : ns = "" ∨ (nameSegments ns).all isIdentifier = true) (hname : isIdentifier name = true) :
    (nameSegments (qualify ns name)).all isIdentifier = true := by
  have hall : ∀ segments : List String, (∀ segment ∈ segments, isIdentifier segment = true) →
      (nameSegments (qualify (joinText "\\" segments) name)).all isIdentifier = true := by
    intro segments hsegments
    have hidentifiers : ∀ segment ∈ segments ++ [name], isIdentifier segment = true :=
      List.forall_mem_append.mpr ⟨hsegments, List.forall_mem_singleton.mpr hname⟩
    rw [qualify_joinText hsegments, nameSegments_joinText (by simp) hidentifiers, List.all_eq_true]
    exact hidentifiers
  rcases hns with rfl | hns
  · exact hall [] (fun segment hmem => absurd hmem List.not_mem_nil)
  · rw [← joinText_nameSegments ns]
    exact hall _ (List.all_eq_true.mp hns)

section

variable {name : String}

theorem classNameFault_eq_none_iff : classNameFault name = none ↔ IsClassName name := by
  unfold classNameFault
  constructor
  · intro h
    split at h
    · cases h
    · rw [Option.map_eq_none_iff, List.find?_eq_none] at h
      refine ⟨nameSegments (dropLeadingSeparators name), splitText_ne_nil _ _, ?_,
        (joinText_nameSegments _).symm⟩
      intro segment hmem
      simpa using h segment hmem
  · rintro ⟨segments, hne, hall, hname⟩
    rw [hname, if_neg (joinText_ne_empty hne hall), nameSegments_joinText hne hall,
      Option.map_eq_none_iff, List.find?_eq_none]
    intro segment hmem
    simp [hall segment hmem]

instance : Decidable (IsClassName name) :=
  decidable_of_iff ((classNameFault name).isNone = true)
    (Option.isNone_iff_eq_none.trans classNameFault_eq_none_iff)

theorem typeNameFault_eq_none_iff : typeNameFault name = none ↔ IsTypeName name := by
  unfold typeNameFault IsTypeName
  split
  · rename_i hbuiltin
    simp [hbuiltin]
  · rename_i hbuiltin
    rw [classNameFault_eq_none_iff]
    simp [hbuiltin]

theorem identifierSegments_of_fault {cause : NamingError} (h : classNameFault name = some cause) :
    identifierSegments name = .error cause := by
  unfold classNameFault at h
  unfold identifierSegments
  split at h
  · rename_i hempty
    simp [hempty, Option.some.inj h]
  · rename_i hne
    obtain ⟨segment, hfind, rfl⟩ := Option.map_eq_some_iff.mp h
    simp [hne, hfind]

theorem identifierSegments_of_isClassName (h : IsClassName name) :
    identifierSegments name = .ok (nameSegments (dropLeadingSeparators name)) := by
  have hfault := classNameFault_eq_none_iff.mpr h
  unfold classNameFault at hfault
  split at hfault
  · cases hfault
  · rename_i hne
    rw [Option.map_eq_none_iff] at hfault
    simp [identifierSegments, hne, hfault]

/-- A name that is made of identifiers throughout has no backslashes in front. -/
theorem isClassName_of_nameSegments (h : (nameSegments name).all isIdentifier = true) :
    dropLeadingSeparators name = name ∧ IsClassName name := by
  have hne : nameSegments name ≠ [] := splitText_ne_nil _ _
  have hall : ∀ segment ∈ nameSegments name, isIdentifier segment = true := List.all_eq_true.mp h
  have hbare := dropLeadingSeparators_joinText hne hall
  rw [joinText_nameSegments] at hbare
  exact ⟨hbare, nameSegments name, hne, hall, hbare.trans (joinText_nameSegments name).symm⟩

/-- The segments of the name of a class are identifiers, and its namespace is made of all but the last
of them. -/
theorem IsClassName.exists_segments (h : IsClassName name) :
    ∃ parents short, (∀ parent ∈ parents, isIdentifier parent = true) ∧ isIdentifier short = true ∧
      nameSegments (dropLeadingSeparators name) = parents ++ [short] ∧
      dropLeadingSeparators name = joinText "\\" (parents ++ [short]) ∧
      namespaceOf name = joinText "\\" parents := by
  obtain ⟨segments, hne, hall, hname⟩ := h
  have hcut : nameSegments (dropLeadingSeparators name) = segments := by
    rw [hname, nameSegments_joinText hne hall]
  have hlast := List.dropLast_concat_getLast hne
  refine ⟨segments.dropLast, segments.getLast hne, ?_, hall _ (List.getLast_mem hne), ?_, ?_, ?_⟩
  · exact fun parent hmem => hall parent (List.dropLast_subset segments hmem)
  · rw [hcut, hlast]
  · rw [hname, hlast]
  · rw [namespaceOf, hcut]

theorem IsClassName.all_nameSegments (h : IsClassName name) :
    (nameSegments (dropLeadingSeparators name)).all isIdentifier = true := by
  obtain ⟨segments, hne, hall, hname⟩ := h
  rw [hname, nameSegments_joinText hne hall, List.all_eq_true]
  exact hall

theorem IsClassName.not_mem (h : IsClassName name) {c : Char} (hnone : continuesIdentifier c = false)
    (hseparator : c ≠ '\\') : c ∉ name.toList := by
  obtain ⟨segments, -, hall, hname⟩ := h
  intro hmem
  have hbare : c ∈ (dropLeadingSeparators name).toList := by
    rw [dropLeadingSeparators, dropLeading, String.toList_ofList]
    rw [← List.takeWhile_append_dropWhile (p := isNameSeparator) (l := name.toList),
      List.mem_append] at hmem
    refine hmem.resolve_left fun hfront => ?_
    simpa [isNameSeparator, hseparator] using List.mem_takeWhile_imp hfront
  rw [hname] at hbare
  rcases mem_of_mem_joinText hbare with hmem | ⟨segment, hsegment, hmem⟩
  · exact hseparator (List.mem_singleton.mp hmem)
  · rw [continuesIdentifier_of_mem (hall segment hsegment) hmem] at hnone
    cases hnone

/-- A character without case stands in no name of a built-in type, in front of it apart. -/
theorem not_mem_of_isBuiltinType (h : isBuiltinType name = true) {c : Char} (hmark : c ≠ '?')
    (hlower : c.toLower = c) (hnone : ∀ word ∈ builtinTypes, c ∉ word.toList) : c ∉ name.toList := by
  intro hmem
  have hbare : c ∈ (withoutNullMark name).toList := by
    unfold withoutNullMark
    split
    · rename_i rest heq
      rw [heq] at hmem
      rw [String.toList_ofList]
      exact (List.mem_cons.mp hmem).resolve_left hmark
    · exact hmem
  have hword : c ∈ (asciiLowercase (withoutNullMark name)).toList := by
    rw [asciiLowercase, String.toList_ofList]
    exact List.mem_map.mpr ⟨c, hbare, hlower⟩
  exact hnone _ (List.contains_iff_mem.mp h) hword

/-- A character that belongs to no identifier and has no case stands in the name of no type. -/
theorem IsTypeName.not_mem (h : IsTypeName name) {c : Char} (hnone : continuesIdentifier c = false)
    (hlower : c.toLower = c) (hmark : c ≠ '?') (hseparator : c ≠ '\\') : c ∉ name.toList := by
  rcases h with hbuiltin | hclass
  · have hwords : ∀ word ∈ builtinTypes, ∀ d ∈ word.toList, continuesIdentifier d = true := by
      decide +kernel
    apply not_mem_of_isBuiltinType hbuiltin hmark hlower
    intro word hword hmem
    rw [hwords word hword c hmem] at hnone
    cases hnone
  · exact hclass.not_mem hnone hseparator

theorem isQualified_of_isBuiltinType (h : isBuiltinType name = true) : isQualified name = false := by
  rw [isQualified, List.any_eq_false]
  intro c hmem
  rw [isNameSeparator, beq_iff_eq]
  rintro rfl
  exact not_mem_of_isBuiltinType h (by decide) (by decide) (by decide) hmem

theorem dropLeadingSeparators_of_head? (h : name.toList.head? ≠ some '\\') :
    dropLeadingSeparators name = name := by
  rw [dropLeadingSeparators, dropLeading]
  cases hchars : name.toList with
  | nil => rw [List.dropWhile_nil, ← hchars, String.ofList_toList]
  | cons c rest =>
    have hc : ¬ isNameSeparator c = true := by
      rw [hchars, List.head?_cons] at h
      simpa [isNameSeparator] using h
    rw [List.dropWhile_cons_of_neg hc, ← hchars, String.ofList_toList]

theorem dropLeadingSeparators_of_not_isQualified (h : isQualified name = false) :
    dropLeadingSeparators name = name := by
  apply dropLeadingSeparators_of_head?
  intro hhead
  rw [isQualified, List.any_eq_false] at h
  exact h '\\' (List.mem_of_head? hhead) (by rfl)

theorem namespaceOf_of_not_isQualified (h : isQualified name = false) : namespaceOf name = "" := by
  have hlength : ¬ 2 ≤ (nameSegments name).length := by
    rw [← isQualified_iff, h]
    exact Bool.false_ne_true
  have hone : (nameSegments name).dropLast = [] := by
    apply List.eq_nil_of_length_eq_zero
    rw [List.length_dropLast]
    omega
  rw [namespaceOf, dropLeadingSeparators_of_not_isQualified h, hone]
  rfl

theorem dropLeadingSeparators_namespaceOf (h : IsTypeName name) :
    dropLeadingSeparators (namespaceOf name) = namespaceOf name := by
  have hempty : dropLeadingSeparators "" = "" := by decide
  rcases h with hbuiltin | hclass
  · rw [namespaceOf_of_not_isQualified (isQualified_of_isBuiltinType hbuiltin), hempty]
  · obtain ⟨parents, short, hparents, -, -, -, hns⟩ := hclass.exists_segments
    rw [hns]
    by_cases hne : parents = []
    · rw [hne]
      exact hempty
    · exact dropLeadingSeparators_joinText hne hparents

theorem getLast?_dropLeadingSeparators (h : dropLeadingSeparators name ≠ "") :
    (dropLeadingSeparators name).toList.getLast? = name.toList.getLast? := by
  have hrest : (dropLeadingSeparators name).toList = name.toList.dropWhile isNameSeparator :=
    String.toList_ofList
  have hne : name.toList.dropWhile isNameSeparator ≠ [] := by
    rw [← hrest]
    simpa using h
  rw [hrest]
  conv_rhs => rw [← List.takeWhile_append_dropWhile (p := isNameSeparator) (l := name.toList)]
  exact (List.getLast?_append_of_ne_nil _ hne).symm

theorem empty_mem_nameSegments (h : name.toList.getLast? = some '\\') : "" ∈ nameSegments name := by
  obtain ⟨front, hfront⟩ := List.getLast?_eq_some_iff.mp h
  have hcut : piecesOf isNameSeparator name.toList = piecesOf isNameSeparator front ++ [[]] := by
    rw [hfront]
    exact piecesOf_append_cons (by rfl) front []
  rw [nameSegments, splitText, hcut, List.map_append]
  exact List.mem_append_right _ (List.mem_singleton_self _)

/-- Without a backslash at the end there is nothing to trim there. -/
theorem trimSeparators_eq (h : name.toList.getLast? ≠ some '\\') :
    trimSeparators name = dropLeadingSeparators name := by
  have hlast : ∀ hne : (dropLeadingSeparators name).toList ≠ [],
      ¬ isNameSeparator ((dropLeadingSeparators name).toList.getLast hne) = true := by
    intro hne hseparator
    have hbare : dropLeadingSeparators name ≠ "" := by simpa using hne
    apply h
    rw [← getLast?_dropLeadingSeparators hbare, List.getLast?_eq_some_getLast hne]
    simpa [isNameSeparator] using hseparator
  have hself := List.rdropWhile_eq_self_iff.mpr hlast
  have hrest : (dropLeadingSeparators name).toList = name.toList.dropWhile isNameSeparator :=
    String.toList_ofList
  rw [hrest] at hself
  have htrimmed : trimmed isNameSeparator name.toList = name.toList.dropWhile isNameSeparator := hself
  rw [trimSeparators, trimText, htrimmed]
  rfl

theorem trimmed_trimmed (isDropped : Char → Bool) (text : List Char) :
    trimmed isDropped (trimmed isDropped text) = trimmed isDropped text := by
  have hprefix : trimmed isDropped text <+: text.dropWhile isDropped := List.rdropWhile_prefix _ _
  have hfront : (trimmed isDropped text).dropWhile isDropped = trimmed isDropped text := by
    cases hkept : trimmed isDropped text with
    | nil => rfl
    | cons c rest =>
      have hc := List.head?_dropWhile_not isDropped text
      obtain ⟨behind, hbehind⟩ := hkept ▸ hprefix
      rw [← hbehind] at hc
      exact List.dropWhile_cons_of_neg (by simpa using hc)
  rw [trimmed, hfront]
  exact List.rdropWhile_idempotent _ _

theorem trimSeparators_trimSeparators (name : String) :
    trimSeparators (trimSeparators name) = trimSeparators name := by
  simp only [trimSeparators, trimText, String.toList_ofList, trimmed_trimmed]

theorem dropLeadingSeparators_ne_empty (h : trimSeparators name ≠ "") :
    dropLeadingSeparators name ≠ "" := by
  intro hempty
  have hrest : name.toList.dropWhile isNameSeparator = [] := by
    rw [← String.toList_ofList (l := name.toList.dropWhile isNameSeparator)]
    exact String.toList_eq_nil_iff.mpr hempty
  apply h
  rw [trimSeparators, trimText, trimmed, hrest]
  rfl

theorem trimSeparators_of_identifiers
    (h : name = "" ∨ (nameSegments name).all isIdentifier = true) : trimSeparators name = name := by
  rcases h with rfl | h
  · rfl
  · have hlast : name.toList.getLast? ≠ some '\\' :=
      fun hend => ne_empty_of_isIdentifier
        (List.all_eq_true.mp h "" (empty_mem_nameSegments hend)) rfl
    rw [trimSeparators_eq hlast, (isClassName_of_nameSegments h).1]

end

end SoapClasses
