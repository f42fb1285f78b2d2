import SoapClasses.ClientAssembly
import SoapClasses.Proofs.DraftLaws
import SoapClasses.Proofs.EditLogs
import SoapClasses.Proofs.TypeNames

/-!
# Referenced names

A reference to a type drafts at most one import and never anything else: the name itself for a class of
the runtime library, the namespace for a class of the service. Whether a name is imported depends on the
class that refers to it, how the type is displayed does not.
-/

namespace SoapClasses

/-- Imports without aliases, of the names that are needed. -/
def importEdits (isNeeded : String → Bool) (names : List String) : List ClassEdit :=
  (names.filter isNeeded).map (fun name => .addImport name none)

theorem importEdits_append (isNeeded : String → Bool) (first next : List String) :
    importEdits isNeeded (first ++ next) = importEdits isNeeded first ++ importEdits isNeeded next := by
  simp [importEdits]

theorem importEdits_of_not_needed {isNeeded : String → Bool} {name : String}
    (h : isNeeded name = false) : importEdits isNeeded [name] = [] := by
  simp [importEdits, h]

theorem filterMap_import_importEdits (isNeeded : String → Bool) (names : List String) :
    (importEdits isNeeded names).filterMap ClassEdit.import? =
      (names.filter isNeeded).map (fun name => ⟨name, none⟩) := by
  rw [importEdits, List.filterMap_map, ← List.filterMap_eq_map]
  rfl

theorem filterMap_importEdits {α : Type} {part : ClassEdit → Option α}
    (h : ∀ name, part (.addImport name none) = none) (isNeeded : String → Bool)
    (names : List String) : (importEdits isNeeded names).filterMap part = [] := by
  rw [importEdits, List.filterMap_map, List.filterMap_eq_nil_iff]
  exact fun name _ => h name

/-- Whether a class needs an import to refer to a name: the name has a namespace, and it is not that of
the class itself. -/
def ClassIdentity.refersOutside (owner : ClassIdentity) (name : String) : Bool :=
  isQualified name && name != owner.qualifiedName

theorem ClassIdentity.refersOutside_iff (owner : ClassIdentity) (name : String) :
    owner.refersOutside name = true ↔
      2 ≤ (nameSegments name).length ∧ name ≠ owner.qualifiedName := by
  rw [refersOutside, Bool.and_eq_true, isQualified_iff, bne_iff_ne]

/-- The name of a type in a doc block: a built-in one as it is, a class by its last two segments. -/
def documentedName (name : String) : String :=
  if isBuiltinType name = true then name
  else
    let segments := nameSegments (dropLeadingSeparators name)
    joinText "\\" (segments.drop (segments.length - 2))

theorem not_mem_documentedName {name : String} (h : IsTypeName name) {c : Char}
    (hnone : continuesIdentifier c = false) (hlower : c.toLower = c) (hmark : c ≠ '?')
    (hseparator : c ≠ '\\') : c ∉ (documentedName name).toList := by
  unfold documentedName
  split
  · exact h.not_mem hnone hlower hmark hseparator
  · rename_i hbuiltin
    obtain ⟨parents, short, hparents, hshort, hcut, -, -⟩ := (h.resolve_left hbuiltin).exists_segments
    intro hmem
    rcases mem_of_mem_joinText hmem with hmem | ⟨segment, hsegment, hmem⟩
    · exact hseparator (List.mem_singleton.mp hmem)
    · have hidentifier : isIdentifier segment = true := by
        have hall := List.mem_of_mem_drop hsegment
        rw [hcut, List.mem_append, List.mem_singleton] at hall
        rcases hall with hparent | heq
        · exact hparents segment hparent
        · exact heq ▸ hshort
      rw [continuesIdentifier_of_mem hidentifier hmem] at hnone
      cases hnone

theorem TypeReference.edits_eq (owner : ClassIdentity) (reference : TypeReference) :
    reference.edits owner = importEdits owner.refersOutside [reference.imported] := by
  unfold edits
  split
  · rename_i hneeded
    simp [importEdits, ClassIdentity.refersOutside, hneeded]
  · rename_i hneeded
    rw [importEdits_of_not_needed]
    simpa [ClassIdentity.refersOutside] using hneeded

section

variable {name : String} (owner : ClassIdentity)

theorem refersOutside_of_not_isQualified (h : isQualified name = false) :
    owner.refersOutside name = false := by
  simp [ClassIdentity.refersOutside, h]

theorem referTo_of_fault {cause : NamingError} (style : ImportStyle)
    (h : typeNameFault name = some cause) : referTo owner style name = .fail cause := by
  unfold typeNameFault at h
  split at h
  · cases h
  · rename_i hbuiltin
    simp [referTo, hbuiltin, identifierSegments_of_fault h]

/-- In the plain style a class is shown by its last segment and imported under its whole name. -/
theorem referTo_plain (hbuiltin : isBuiltinType name = false) (h : IsClassName name) :
    referTo owner .plain name =
      ⟨importEdits owner.refersOutside [dropLeadingSeparators name],
        .ok (shortName (dropLeadingSeparators name))⟩ := by
  obtain ⟨parents, short, hparents, -, hcut, hname, -⟩ := h.exists_segments
  have hshort : shortName (dropLeadingSeparators name) = short := by
    rw [shortName, hcut, List.getLastD_concat]
  have hreference : TypeReference.ofSegments .plain parents short =
      ⟨shortName (dropLeadingSeparators name), dropLeadingSeparators name⟩ := by
    rw [hshort, hname, ← qualify_joinText hparents]
    rfl
  simp only [referTo, hbuiltin, Bool.false_eq_true, if_false, identifierSegments_of_isClassName h,
    hcut, List.dropLast_concat, List.getLastD_concat, hreference, TypeReference.edits_eq]

/-- In doc blocks a type is shown with the last segment of its namespace, which is imported as a whole. -/
theorem referTo_withParent (h : IsTypeName name) :
    referTo owner .withParent name =
      ⟨importEdits owner.refersOutside [namespaceOf name], .ok (documentedName name)⟩ := by
  cases hbuiltin : isBuiltinType name with
  | true =>
    have hns : namespaceOf name = "" :=
      namespaceOf_of_not_isQualified (isQualified_of_isBuiltinType hbuiltin)
    have hnone : owner.refersOutside "" = false := refersOutside_of_not_isQualified owner (by decide)
    simp [referTo, documentedName, hbuiltin, hns, importEdits_of_not_needed hnone, Draft.done]
  | false =>
    have hclass : IsClassName name := by simpa [IsTypeName, hbuiltin] using h
    obtain ⟨parents, short, hparents, hshort, hcut, -, hns⟩ := hclass.exists_segments
    simp only [referTo, hbuiltin, Bool.false_eq_true, if_false,
      identifierSegments_of_isClassName hclass, documentedName, hcut, hns,
      TypeReference.edits_eq, List.dropLast_concat, List.getLastD_concat, List.length_append,
      List.length_singleton]
    cases hlast : parents.getLast? with
    | none =>
      obtain rfl := List.getLast?_eq_none_iff.mp hlast
      have hplain : isQualified short = false := by
        rw [isQualified, List.any_eq_false]
        intro c hmem
        simp [not_separator_of_isIdentifier hshort c hmem]
      have hshown := refersOutside_of_not_isQualified owner hplain
      have hempty := refersOutside_of_not_isQualified owner (show isQualified "" = false by decide)
      simp only [TypeReference.ofSegments, List.getLast?_nil]
      show (⟨importEdits owner.refersOutside [short], .ok short⟩ : Draft NamingError String) =
        ⟨importEdits owner.refersOutside [""], .ok short⟩
      rw [importEdits_of_not_needed hshown, importEdits_of_not_needed hempty]
    | some parent =>
      obtain ⟨grandparents, rfl⟩ := List.getLast?_eq_some_iff.mp hlast
      have hgrand : ∀ segment ∈ grandparents, isIdentifier segment = true :=
        fun segment hmem => hparents segment (List.mem_append_left _ hmem)
      have hdrop : (grandparents ++ [parent] ++ [short]).drop
          ((grandparents ++ [parent]).length + 1 - 2) = [parent, short] := by
        simp
      simp only [TypeReference.ofSegments, hlast, List.dropLast_concat, hdrop,
        qualify_joinText hgrand parent]
      rfl

end

/-- The classes of the runtime library that a client class refers to by their short names. -/
def referencedRuntimeNames : List String := [RuntimeNames.caller, RuntimeNames.multiArgumentRequest,
  RuntimeNames.mixedResult, RuntimeNames.requestInterface, RuntimeNames.resultInterface,
  RuntimeNames.soapException]

theorem segments_referencedRuntimeNames : ∀ name ∈ referencedRuntimeNames,
    isQualified name = true ∧ (nameSegments name).all isIdentifier = true := by
  decide +kernel

theorem dropLeadingSeparators_runtimeName {name : String} (h : name ∈ referencedRuntimeNames) :
    dropLeadingSeparators name = name :=
  (isClassName_of_nameSegments (segments_referencedRuntimeNames name h).2).1

theorem referTo_runtimeName (owner : ClassIdentity) (name : String)
    (h : name ∈ referencedRuntimeNames) :
    referTo owner .plain name =
      ⟨importEdits owner.refersOutside [name], .ok (shortName name)⟩ := by
  obtain ⟨hqualified, hsegments⟩ := segments_referencedRuntimeNames name h
  have hbuiltin : isBuiltinType name = false := by
    apply Bool.eq_false_iff.mpr
    intro hbuiltin
    rw [isQualified_of_isBuiltinType hbuiltin] at hqualified
    cases hqualified
  rw [referTo_plain owner hbuiltin (isClassName_of_nameSegments hsegments).2,
    dropLeadingSeparators_runtimeName h]

end SoapClasses
