import SoapClasses.NamingConventions
import SoapClasses.Proofs.TextPieceLaws

/-!
# Laws of naming

The naming conventions drop the separators of words and change the case of letters, and nothing else.
So a character that belongs to no identifier and has no case cannot stand in a name for which there is
a method name.
-/

namespace SoapClasses

theorem continuesIdentifier_of_startsIdentifier {c : Char} (h : startsIdentifier c = true) :
    continuesIdentifier c = true := by
  simp only [startsIdentifier, continuesIdentifier, Bool.or_eq_true] at h ⊢
  exact .inl h

theorem continuesIdentifier_of_mem {name : String} (h : isIdentifier name = true) {c : Char}
    (hmem : c ∈ name.toList) : continuesIdentifier c = true := by
  unfold isIdentifier at h
  cases hn : name.toList with
  | nil => simp [hn] at hmem
  | cons first rest =>
    rw [hn] at h hmem
    simp only [isIdentifierSpelling, Bool.and_eq_true, List.all_eq_true] at h
    rcases List.mem_cons.mp hmem with rfl | hrest
    · exact continuesIdentifier_of_startsIdentifier h.1
    · exact h.2 c hrest

theorem not_mem_of_isIdentifier {name : String} (h : isIdentifier name = true) {c : Char}
    (hc : continuesIdentifier c = false) : c ∉ name.toList := by
  intro hmem
  rw [continuesIdentifier_of_mem h hmem] at hc
  cases hc

/-- Characters of identifiers behind a text do not matter to whether it is one. -/
theorem isIdentifier_append_eq {name behind : String} (hne : name ≠ "")
    (hbehind : behind.toList.all continuesIdentifier = true) :
    isIdentifier (name ++ behind) = isIdentifier name := by
  unfold isIdentifier
  rw [String.toList_append]
  cases hn : name.toList with
  | nil => exact absurd (String.toList_eq_nil_iff.mp hn) hne
  | cons first rest =>
    rw [List.cons_append, isIdentifierSpelling, isIdentifierSpelling, List.all_append, hbehind,
      Bool.and_true]

theorem isIdentifier_append {name behind : String} (h : isIdentifier name = true)
    (hbehind : behind.toList.all continuesIdentifier = true) :
    isIdentifier (name ++ behind) = true := by
  have hne : name ≠ "" := by
    rintro rfl
    cases h
  rw [isIdentifier_append_eq hne hbehind, h]

theorem isIdentifier_of_methodName {operation name : String} (h : methodName operation = .ok name) :
    isIdentifier name = true := by
  unfold methodName at h
  simp only at h
  split at h
  · rename_i hname
    rw [← Except.ok.inj h]
    exact hname
  · cases h

theorem eq_camelCase_of_methodName {operation name : String} (h : methodName operation = .ok name) :
    name = camelCase operation := by
  unfold methodName at h
  simp only at h
  split at h
  · exact (Except.ok.inj h).symm
  · cases h

theorem methodName_of_isIdentifier {operation : String}
    (h : isIdentifier (camelCase operation) = true) :
    methodName operation = .ok (camelCase operation) := by
  simp [methodName, h]

theorem methodName_of_not_isIdentifier {operation : String}
    (h : ¬ isIdentifier (camelCase operation) = true) :
    methodName operation = .error (.invalidIdentifier .method operation) := by
  simp [methodName, h]

variable {c : Char}

theorem mem_capitalizeSpelling {text : List Char} (hmem : c ∈ text) (hupper : upperSpelling c = [c]) :
    c ∈ capitalizeSpelling text := by
  cases text with
  | nil => cases hmem
  | cons first rest =>
    rw [capitalizeSpelling, List.mem_append]
    rcases List.mem_cons.mp hmem with rfl | hrest
    · left
      rw [hupper]
      exact List.mem_cons_self
    · exact .inr hrest

theorem mem_uncapitalizeSpelling {text : List Char} (hmem : c ∈ text)
    (hlower : lowerSpelling c = [c]) : c ∈ uncapitalizeSpelling text := by
  cases text with
  | nil => cases hmem
  | cons first rest =>
    rw [uncapitalizeSpelling, List.mem_append]
    rcases List.mem_cons.mp hmem with rfl | hrest
    · left
      rw [hlower]
      exact List.mem_cons_self
    · exact .inr hrest

/-- A character without case that does not separate words is kept. -/
theorem mem_camelCase {name : String} (hmem : c ∈ name.toList) (hword : isWordSeparator c = false)
    (hupper : upperSpelling c = [c]) (hlower : lowerSpelling c = [c]) :
    c ∈ (camelCase name).toList := by
  obtain ⟨piece, hpiece, hc⟩ := exists_mem_piecesOf hmem hword
  have hpascal : c ∈ (pascalCase name).toList := by
    rw [pascalCase, String.toList_ofList]
    exact List.mem_flatMap.mpr ⟨piece, hpiece, mem_capitalizeSpelling hc hupper⟩
  rw [camelCase, uncapitalize, String.toList_ofList]
  exact mem_uncapitalizeSpelling hpascal hlower

theorem not_mem_of_methodName {operation name : String} (h : methodName operation = .ok name)
    (hword : isWordSeparator c = false) (hupper : upperSpelling c = [c])
    (hlower : lowerSpelling c = [c]) (hname : continuesIdentifier c = false) :
    c ∉ operation.toList := by
  intro hmem
  have hcamel := mem_camelCase hmem hword hupper hlower
  rw [← eq_camelCase_of_methodName h] at hcamel
  have hcontinues := continuesIdentifier_of_mem (isIdentifier_of_methodName h) hcamel
  rw [hname] at hcontinues
  cases hcontinues

end SoapClasses
