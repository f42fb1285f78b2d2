import SoapClasses.Proofs.LetterSpellings
import SoapClasses.Proofs.NamingLaws

/-!
# Identifiers as names

An identifier has no separators, so only its first character changes when it becomes the name of a class
or of a method. It is an identifier afterwards unless this character is spelled in the other case with
an accent of its own: then a method of the name is refused, and a class has a name that is no identifier.
-/

namespace SoapClasses

/-- The text starts with one of the letters. -/
def StartsIn (name : String) (letters : List Char) : Prop :=
  ∃ c ∈ letters, name.toList.head? = some c

instance (name : String) (letters : List Char) : Decidable (StartsIn name letters) :=
  List.decidableBEx (fun c => name.toList.head? = some c) letters

theorem not_isWordSeparator_of_continuesIdentifier {c : Char} (h : continuesIdentifier c = true) :
    isWordSeparator c = false := by
  unfold isWordSeparator
  simp only [Bool.or_eq_false_iff, beq_eq_false_iff_ne]
  refine ⟨⟨?_, ?_⟩, ?_⟩ <;> (rintro rfl; exact absurd h (by decide))

theorem pascalSpelling_cons {first : Char} {rest : List Char}
    (h : ∀ c ∈ first :: rest, isWordSeparator c = false) :
    pascalSpelling (first :: rest) = upperSpelling first ++ rest := by
  rw [pascalSpelling, piecesOf_of_none h, List.flatMap_singleton, capitalizeSpelling]

theorem startsIdentifier_of_letter {c first : Char} (h : first = c ∨ isLetter first = true)
    (hc : startsIdentifier c = true) : startsIdentifier first = true := by
  rcases h with rfl | hletter
  · exact hc
  · rw [startsIdentifier, hletter, Bool.or_true]

variable {name : String}

/-- The spelling of an identifier as the name of a class and as that of a method, and when it is an
identifier again. -/
theorem exists_names_eq (h : isIdentifier name = true) :
    ∃ c, name.toList.head? = some c ∧ pascalCase name ≠ "" ∧
      (isIdentifier (pascalCase name) = true ↔ c ∉ accentedLetters) ∧
      (isIdentifier (camelCase name) = true ↔ c ≠ dottedCapital ∧ c ∉ accentedLetters) := by
  have hall := fun c hmem => continuesIdentifier_of_mem h (c := c) hmem
  unfold isIdentifier at h
  cases hchars : name.toList with
  | nil => simp [hchars, isIdentifierSpelling] at h
  | cons c behind =>
    rw [hchars] at h hall
    rw [isIdentifierSpelling, Bool.and_eq_true] at h
    obtain ⟨first, rest, hupper, hspelled⟩ := exists_upperSpelling_eq c
    obtain ⟨small, others, hlower, hsmall⟩ := exists_lowerSpelling_eq first
    have hpascal : (pascalCase name).toList = first :: (rest ++ behind) := by
      rw [pascalCase, String.toList_ofList, hchars, pascalSpelling_cons
        (fun d hmem => not_isWordSeparator_of_continuesIdentifier (hall d hmem)), hupper]
      rfl
    have hcamel : (camelCase name).toList = small :: (others ++ (rest ++ behind)) := by
      rw [camelCase, uncapitalize, String.toList_ofList, hpascal, uncapitalizeSpelling, hlower]
      rfl
    have hfirst := startsIdentifier_of_letter hspelled.letter h.1
    refine ⟨c, rfl, ?_, ?_, ?_⟩
    · intro hempty
      rw [hempty] at hpascal
      cases hpascal
    · rw [isIdentifier, hpascal, isIdentifierSpelling, hfirst, Bool.true_and, List.all_append, h.2,
        Bool.and_true, hspelled.accents]
    · rw [isIdentifier, hcamel, isIdentifierSpelling, startsIdentifier_of_letter hsmall.letter hfirst,
        Bool.true_and, List.all_append, List.all_append, h.2, Bool.and_true, Bool.and_eq_true,
        hspelled.accents, hsmall.accents, Ne, hspelled.dotted]

/-- The class for a type is named by an identifier exactly when it would be in Pascal case: what is put
behind a reserved word belongs to identifiers. -/
theorem isIdentifier_className (hne : pascalCase name ≠ "") :
    isIdentifier (className name) = isIdentifier (pascalCase name) := by
  rw [className]
  split
  · exact isIdentifier_append_eq hne (by decide)
  · rfl

/-- An identifier becomes the name of a method unless its first letter has an accent of its own in the
other case; then it is refused. As the name of a class it stays an identifier unless this is so in upper
case. -/
theorem names_of_isIdentifier (h : isIdentifier name = true) :
    (¬ StartsIn name (dottedCapital :: accentedLetters) →
      ∃ method, methodName name = .ok method ∧ isIdentifier method = true) ∧
    (StartsIn name (dottedCapital :: accentedLetters) →
      methodName name = .error (.invalidIdentifier .method name)) ∧
    (isIdentifier (className name) = true ↔ ¬ StartsIn name accentedLetters) := by
  obtain ⟨c, hhead, hne, hpascal, hcamel⟩ := exists_names_eq h
  have hstarts : ∀ letters, StartsIn name letters ↔ c ∈ letters := by
    intro letters
    simp only [StartsIn, hhead, Option.some.injEq, exists_eq_right']
  have hnamed : isIdentifier (camelCase name) = true ↔
      ¬ StartsIn name (dottedCapital :: accentedLetters) := by
    rw [hcamel, hstarts, List.mem_cons, not_or]
  refine ⟨?_, ?_, ?_⟩
  · intro hplain
    have hmethod := hnamed.mpr hplain
    exact ⟨_, methodName_of_isIdentifier hmethod, hmethod⟩
  · intro haccented
    exact methodName_of_not_isIdentifier (mt hnamed.mp (not_not_intro haccented))
  · rw [isIdentifier_className hne, hpascal, hstarts]

theorem names_of_isIdentifier_two_letters : isIdentifier "\u00DFtatus" = true ∧
    (∃ method, methodName "\u00DFtatus" = .ok method ∧ isIdentifier method = true) ∧
    isIdentifier (className "\u00DFtatus") = true := by
  have h : isIdentifier "\u00DFtatus" = true := by decide +kernel
  obtain ⟨hmethod, -, hclass⟩ := names_of_isIdentifier h
  exact ⟨h, hmethod (by decide +kernel), hclass.mpr (by decide +kernel)⟩

/-- Identifiers that are refused as the name of a method, and that give a class a name that is no
identifier. -/
theorem not_preserved_accents :
    (isIdentifier "\u0130ptal" = true ∧
      methodName "\u0130ptal" = .error (.invalidIdentifier .method "\u0130ptal")) ∧
    (isIdentifier "\u01F0et" = true ∧ className "\u01F0et" = "J\u030Cet" ∧
      isIdentifier (className "\u01F0et") = false) := by
  refine ⟨⟨by decide +kernel, methodName_of_not_isIdentifier (by decide +kernel)⟩, ?_⟩
  decide +kernel

end SoapClasses
