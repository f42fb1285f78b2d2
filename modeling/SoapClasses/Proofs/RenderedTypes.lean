import SoapClasses.ClassRendering
import SoapClasses.Proofs.TypeNames

/-!
# Rendered types

A built-in type is written as it is and a class as an absolute name; a question mark in front of either
stays in front.
-/

namespace SoapClasses

theorem isBuiltinType_of_separator {name : String} (h : isQualified name = true) :
    isBuiltinType name = false := by
  rw [← Bool.not_eq_true]
  intro hbuiltin
  rw [isQualified_of_isBuiltinType hbuiltin] at h
  cases h

theorem isBuiltinType_of_nullMark {inner : List Char}
    (h : isBuiltinType (String.ofList ('?' :: inner)) = true) :
    isBuiltinType (String.ofList inner) = true := by
  have hmark : ∀ word ∈ builtinTypes, word.toList.head? ≠ some '?' := by decide
  unfold isBuiltinType at h ⊢
  have hbare : withoutNullMark (String.ofList ('?' :: inner)) = String.ofList inner := by
    simp [withoutNullMark]
  rw [hbare] at h
  have hsame : withoutNullMark (String.ofList inner) = String.ofList inner := by
    unfold withoutNullMark
    split
    · rename_i rest heq
      have hword := hmark _ (List.contains_iff_mem.mp h)
      rw [String.toList_ofList] at heq
      simp [asciiLowercase, heq] at hword
    · rfl
  rw [hsame]
  exact h

theorem renderType_of_isBuiltinType {name : String} (h : isBuiltinType name = true) :
    renderType name = name ∧ renderType ("?" ++ name) = "?" ++ name := by
  constructor
  · unfold renderType
    split
    · rename_i inner heq
      have hname : name = String.ofList ('?' :: inner) := by rw [← heq, String.ofList_toList]
      have hinner : isBuiltinType (String.ofList inner) = true :=
        isBuiltinType_of_nullMark (hname ▸ h)
      simp only [hinner, if_true]
      rw [hname]
      exact String.toList_injective (by simp)
    · rw [if_pos h]
  · simp [renderType, h]

theorem not_nullMark_of_isBuiltinType {name : String} (h : isBuiltinType name = true)
    (hmark : name.toList.head? ≠ some '?') : '?' ∉ name.toList := by
  have hwords : ∀ word ∈ builtinTypes, '?' ∉ word.toList := by decide
  have hbare : withoutNullMark name = name := by
    unfold withoutNullMark
    split
    · rename_i rest heq
      rw [heq, List.head?_cons] at hmark
      exact absurd rfl hmark
    · rfl
  rw [isBuiltinType, hbare] at h
  intro hmem
  refine hwords _ (List.contains_iff_mem.mp h) ?_
  rw [asciiLowercase, String.toList_ofList]
  exact List.mem_map.mpr ⟨'?', hmem, by decide⟩

/-- A name that is not built in and starts with no question mark is written as an absolute name, with
and without a question mark. -/
theorem renderType_of_not_isBuiltinType {name : String} (h : isBuiltinType name = false)
    (hmark : name.toList.head? ≠ some '?') :
    renderType name = absoluteName name ∧ renderType ("?" ++ name) = "?" ++ absoluteName name := by
  constructor
  · unfold renderType
    split
    · rename_i inner heq
      rw [heq, List.head?_cons] at hmark
      exact absurd rfl hmark
    · rw [h, if_neg Bool.false_ne_true]
  · simp [renderType, h]

theorem renderType_of_separator {name : String} {rest : List Char} (h : name.toList = '\\' :: rest) :
    renderType name = absoluteName name ∧ renderType ("?" ++ name) = "?" ++ absoluteName name := by
  apply renderType_of_not_isBuiltinType
  · apply isBuiltinType_of_separator
    rw [isQualified, h, List.any_cons]
    rfl
  · rw [h, List.head?_cons]
    decide

theorem renderType_of_isClassName {name : String} (hbuiltin : isBuiltinType name = false)
    (h : IsClassName name) : renderType name = absoluteName name := by
  refine (renderType_of_not_isBuiltinType hbuiltin ?_).1
  exact fun hmark => h.not_mem (by decide) (by decide) (List.mem_of_head? hmark)

theorem absoluteName_of_isBuiltinType {name : String} (h : isBuiltinType name = true) :
    absoluteName name = "\\" ++ name := by
  rw [absoluteName, dropLeadingSeparators_of_not_isQualified (isQualified_of_isBuiltinType h)]

/-- The absolute name is what is written for a class, and for a class only. -/
theorem renderType_eq_absoluteName_iff {name : String} (h : IsTypeName name) :
    renderType name = absoluteName name ↔ isBuiltinType name = false := by
  cases hbuiltin : isBuiltinType name with
  | true =>
    rw [(renderType_of_isBuiltinType hbuiltin).1, absoluteName_of_isBuiltinType hbuiltin]
    refine iff_of_false (fun heq => ?_) Bool.true_eq_false.mp
    have hlength := congrArg String.length heq
    rw [String.length_append] at hlength
    exact absurd hlength (Nat.ne_of_lt (Nat.lt_add_of_pos_left (by decide)))
  | false =>
    exact iff_of_true (renderType_of_isClassName hbuiltin (h.resolve_left (by simp [hbuiltin]))) rfl

theorem absoluteName_separator (name : String) : absoluteName ("\\" ++ name) = absoluteName name := by
  simp [absoluteName, dropLeadingSeparators, dropLeading, isNameSeparator]

theorem not_mem_absoluteName {name : String} {c : Char} (hseparator : c ≠ '\\') (h : c ∉ name.toList) :
    c ∉ (absoluteName name).toList := by
  rw [absoluteName, String.toList_append, List.mem_append, not_or]
  refine ⟨fun hmem => hseparator (List.mem_singleton.mp hmem), ?_⟩
  rw [dropLeadingSeparators, dropLeading, String.toList_ofList]
  exact fun hmem => h ((List.dropWhile_sublist _).subset hmem)

/-- What stands in front of the variable of a declaration. -/
def hintText (hint : Option String) : String :=
  (hint.map (fun type => renderType type ++ " ")).getD ""

/-- What stands behind the variable of a declaration. -/
def initialText (initial : Option String) : String :=
  (initial.map (fun value => " = " ++ value)).getD ""

theorem Field.declaration_eq (field : Field) : field.declaration =
    field.visibility.word ++ " " ++ (hintText field.typeHint ++ ("$" ++ field.name ++
      initialText field.initial ++ ";")) := by
  simp only [declaration, ← String.append_assoc]
  cases field.typeHint <;> cases field.initial <;> rfl

end SoapClasses
