import SoapClasses.Proofs.DisplayedNames

/-!
# Resolution of references

A class that refers to a type shows it by a name and imports what this name stands for. Whoever looks the
name up in the class afterwards finds the type again, however many segments it has and whatever the class
imported before, as long as the imports can be told apart. The class itself is found without an import, and
so is a type in the namespace that has the name of the class.
-/

namespace SoapClasses

namespace ImportStyle

variable {style : ImportStyle} {name : String}

/-- The name whose import makes a reference meaningful: the type itself, or its namespace. -/
def importedName (style : ImportStyle) (name : String) : String :=
  match style with
  | .plain => dropLeadingSeparators name
  | .withParent => namespaceOf name

def displayName (style : ImportStyle) (name : String) : String :=
  match style with
  | .plain => shortName (dropLeadingSeparators name)
  | .withParent => documentedName name

/-- The number of segments from which on the imported name has a namespace. -/
def leastSegments : ImportStyle → Nat
  | .plain => 2
  | .withParent => 3

theorem dropLeadingSeparators_importedName (h : IsClassName name) :
    dropLeadingSeparators (style.importedName name) = style.importedName name := by
  cases style with
  | plain => exact dropLeadingSeparators_idem name
  | withParent => exact dropLeadingSeparators_namespaceOf (.inr h)

theorem referTo_eq (owner : ClassIdentity) (hbuiltin : isBuiltinType name = false)
    (h : IsClassName name) :
    referTo owner style name =
      ⟨importEdits owner.refersOutside [style.importedName name], .ok (style.displayName name)⟩ := by
  cases style with
  | plain => exact referTo_plain owner hbuiltin h
  | withParent => exact referTo_withParent owner (.inr h)

/-- A type with enough segments is shown by the last segment of the imported name and those behind it. -/
theorem exists_displayName_eq (hbuiltin : isBuiltinType name = false) (h : IsClassName name)
    (hlong : style.leastSegments ≤ (nameSegments (dropLeadingSeparators name)).length) :
    ∃ rest, (∀ segment ∈ rest, isIdentifier segment = true) ∧
      isQualified (style.importedName name) = true ∧
      (nameSegments (style.importedName name)).all isIdentifier = true ∧
      style.displayName name = joinText "\\" (shortName (style.importedName name) :: rest) ∧
      dropLeadingSeparators name = joinText "\\" (style.importedName name :: rest) := by
  cases style with
  | plain =>
    obtain ⟨parents, short, hparents, hshort, hcut, -, -⟩ := h.exists_segments
    refine ⟨[], fun _ hnone => absurd hnone List.not_mem_nil, (isQualified_iff _).mpr hlong, ?_, rfl,
      rfl⟩
    show (nameSegments (dropLeadingSeparators name)).all isIdentifier = true
    rw [hcut, List.all_eq_true]
    exact List.forall_mem_append.mpr ⟨hparents, List.forall_mem_singleton.mpr hshort⟩
  | withParent =>
    obtain ⟨short, hshort, hqualified, hsegments, hshown, hbare⟩ :=
      h.exists_documentedName_eq hbuiltin hlong
    exact ⟨[short], List.forall_mem_singleton.mpr hshort, hqualified, hsegments, hshown, hbare⟩

end ImportStyle

namespace PhpClass

/-- The class after it has been made to refer to a type. -/
def referringTo (php : PhpClass) (style : ImportStyle) (name : String) : PhpClass :=
  (referTo php.toClassIdentity style name).applyTo php

/-- A class differs from another one by at most an import of this name without an alias. -/
structure GainsAtMost (php : PhpClass) (imported : String) (after : PhpClass) : Prop where
  others : after = { php with imports := after.imports }
  kept : ∀ entry ∈ php.imports.toList, entry ∈ after.imports.toList
  added : ∀ entry ∈ after.imports.toList, entry ∈ php.imports.toList ∨ entry = ⟨imported, none⟩

/-- A class refers to a type soundly: it can do so if and only if the type has the name of a class; if it
cannot, it stays as it is; it imports what it needs and nothing else; and if its imports can be told apart
by any key, then what it shows means the type. -/
structure RefersSoundly (php : PhpClass) (style : ImportStyle) (name : String) : Prop where
  succeeds_iff : (∃ shown, (referTo php.toClassIdentity style name).outcome = .ok shown) ↔
    IsClassName name
  failed : ∀ error, (referTo php.toClassIdentity style name).outcome = .error error →
    php.referringTo style name = php
  gains : php.GainsAtMost (style.importedName name) (php.referringTo style name)
  meant : ∀ shown, (referTo php.toClassIdentity style name).outcome = .ok shown →
    style.leastSegments ≤ (nameSegments (dropLeadingSeparators name)).length →
    (∀ entry ∈ (php.referringTo style name).imports.toList, entry.aliasName = none) →
    ∀ key, (php.referringTo style name).LocalNamesApartBy key →
      (php.referringTo style name).resolveBy key shown = dropLeadingSeparators name

variable {php : PhpClass} {style : ImportStyle} {name : String}

theorem GainsAtMost.refl (php : PhpClass) (imported : String) : php.GainsAtMost imported php :=
  ⟨rfl, fun _ h => h, fun _ h => .inl h⟩

theorem gainsAtMost_insert (php : PhpClass) {imported : String}
    (hbare : dropLeadingSeparators imported = imported) :
    php.GainsAtMost imported { php with imports := php.imports.insert imported none } := by
  refine ⟨rfl, fun entry hmem => ImportTable.mem_insert_of_mem hmem imported none, ?_⟩
  intro entry hmem
  rcases name_of_mem_insertImport hmem with rfl | hold
  · rw [hbare]
    exact .inr rfl
  · exact .inl hold

theorem referringTo_eq (hbuiltin : isBuiltinType name = false) (h : IsClassName name) :
    php.referringTo style name =
      if php.refersOutside (style.importedName name) then
        { php with imports := php.imports.insert (style.importedName name) none }
      else php := by
  rw [referringTo, ImportStyle.referTo_eq _ hbuiltin h]
  show php.amendAll (importEdits php.refersOutside [style.importedName name]) = _
  split
  · rename_i hneeded
    simp only [importEdits, List.filter_singleton, hneeded, cond_true]
    rfl
  · rename_i hneeded
    rw [importEdits_of_not_needed (Bool.eq_false_iff.mpr hneeded)]
    rfl

theorem gainsAtMost_referringTo (hbuiltin : isBuiltinType name = false) (h : IsClassName name) :
    php.GainsAtMost (style.importedName name) (php.referringTo style name) := by
  rw [referringTo_eq hbuiltin h]
  split
  · exact gainsAtMost_insert php (ImportStyle.dropLeadingSeparators_importedName h)
  · exact .refl _ _

theorem identity_referringTo (php : PhpClass) (style : ImportStyle) (name : String) :
    (php.referringTo style name).toClassIdentity = php.toClassIdentity :=
  php.toClassIdentity_amendAll _

theorem importedName_mem_or_eq (hbuiltin : isBuiltinType name = false) (h : IsClassName name)
    (hqualified : isQualified (style.importedName name) = true) :
    style.importedName name ∈ (php.referringTo style name).imports.names ∨
      style.importedName name = (php.referringTo style name).qualifiedName := by
  rw [identity_referringTo, referringTo_eq hbuiltin h]
  split
  · have hknown := php.imports.name_mem_insert (style.importedName name) none
    rw [ImportStyle.dropLeadingSeparators_importedName h] at hknown
    exact .inl hknown
  · rename_i hneeded
    rw [ClassIdentity.refersOutside, hqualified, Bool.true_and, bne_iff_ne, ne_eq,
      Decidable.not_not] at hneeded
    exact .inr hneeded

theorem refersSoundly_of_isClassName (hown : '\\' ∉ php.name.toList)
    (hbuiltin : isBuiltinType name = false) (h : IsClassName name) : php.RefersSoundly style name := by
  have hrefer : referTo php.toClassIdentity style name = _ := ImportStyle.referTo_eq _ hbuiltin h
  refine ⟨iff_of_true ⟨_, congrArg Draft.outcome hrefer⟩ h, ?_, gainsAtMost_referringTo hbuiltin h, ?_⟩
  · intro error herror
    rw [hrefer] at herror
    cases herror
  · intro shown hshown hlong hplain key hapart
    obtain ⟨rest, hrest, hqualified, hsegments, hdisplay, hbare⟩ :=
      ImportStyle.exists_displayName_eq hbuiltin h hlong
    have hsame : shown = style.displayName name := by
      rw [hrefer] at hshown
      exact (Except.ok.inj hshown).symm
    have hname : '\\' ∉ (php.referringTo style name).name.toList := by
      rw [identity_referringTo]
      exact hown
    rw [hsame, hdisplay, hbare]
    exact resolveBy_shortName hapart hplain hname hsegments
      (importedName_mem_or_eq hbuiltin h hqualified) hrest

theorem refersSoundly_of_not_isClassName (hbuiltin : isBuiltinType name = false)
    (h : ¬ IsClassName name) : php.RefersSoundly style name := by
  obtain ⟨cause, hcause⟩ := Option.ne_none_iff_exists'.mp (mt classNameFault_eq_none_iff.mp h)
  have hfault : typeNameFault name = some cause := by
    rw [typeNameFault, hbuiltin, if_neg Bool.false_ne_true, hcause]
  have hrefer := referTo_of_fault php.toClassIdentity style hfault
  have hsame : php.referringTo style name = php := by
    rw [referringTo, hrefer]
    rfl
  refine ⟨iff_of_false ?_ h, fun _ _ => hsame, hsame.symm ▸ .refl _ _, ?_⟩
  · rintro ⟨shown, hshown⟩
    rw [hrefer] at hshown
    cases hshown
  · intro shown hshown
    rw [hrefer] at hshown
    cases hshown

/-- A class whose name is one segment refers soundly to every type that is not built in. -/
theorem refersSoundly (hown : '\\' ∉ php.name.toList) (hbuiltin : isBuiltinType name = false) :
    php.RefersSoundly style name := by
  by_cases h : IsClassName name
  · exact refersSoundly_of_isClassName hown hbuiltin h
  · exact refersSoundly_of_not_isClassName hbuiltin h

/-- A client with an import. -/
def ofOwnNamespace : PhpClass :=
  (fresh "Client" "App\\Shop").amend (.addImport "App\\Type" none)

/-- A type in the namespace that has the name of the client needs no import. -/
theorem refersSoundly_own_namespace :
    ∃ shown, (referTo ofOwnNamespace.toClassIdentity .withParent "\\App\\Shop\\Client\\Item").outcome =
        .ok shown ∧
      ofOwnNamespace.referringTo .withParent "\\App\\Shop\\Client\\Item" = ofOwnNamespace ∧
      ofOwnNamespace.resolveBy asciiLowercase shown = "App\\Shop\\Client\\Item" := by
  have hsound : ofOwnNamespace.RefersSoundly .withParent "\\App\\Shop\\Client\\Item" :=
    refersSoundly (by decide) (by decide +kernel)
  have hclass : IsClassName "\\App\\Shop\\Client\\Item" :=
    classNameFault_eq_none_iff.mp (Option.isNone_iff_eq_none.mp (by decide +kernel))
  have hsame : ofOwnNamespace.referringTo .withParent "\\App\\Shop\\Client\\Item" = ofOwnNamespace := by
    decide +kernel
  obtain ⟨shown, hshown⟩ := hsound.succeeds_iff.mpr hclass
  have hmeant := hsound.meant shown hshown (by decide +kernel)
  rw [hsame] at hmeant
  refine ⟨shown, hshown, hsame, ?_⟩
  have hbare : dropLeadingSeparators "\\App\\Shop\\Client\\Item" = "App\\Shop\\Client\\Item" := by
    decide +kernel
  rw [← hbare]
  exact hmeant (by decide +kernel) asciiLowercase ⟨by decide +kernel, by decide +kernel⟩

end PhpClass

end SoapClasses
