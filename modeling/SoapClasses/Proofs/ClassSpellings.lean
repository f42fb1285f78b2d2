import SoapClasses.Proofs.PreservedIdentifiers
import SoapClasses.Proofs.TypeNames
import SoapClasses.TypeReferences

/-!
# Spellings of the names of classes

A name in Pascal case is one word that starts with a capital, and it is its own spelling in Pascal case.
The ending that keeps the name of a class apart from the reserved words changes neither, and no reserved
word has it. So what names a class already is kept as it is, and a type is referred to by the name of its
class as well as by its own, the built-in types apart.
-/

namespace SoapClasses

/-- The text is one word, and its first character stays as it is in upper case. -/
structure IsPascalSpelling (text : List Char) : Prop where
  unseparated : ∀ c ∈ text, isWordSeparator c = false
  capital : ∀ c ∈ text.head?, upperSpelling c = [c]

namespace IsPascalSpelling

theorem nil : IsPascalSpelling [] :=
  ⟨fun _ hmem => absurd hmem List.not_mem_nil, fun _ hmem => absurd hmem (Option.not_mem_none _)⟩

theorem append {first behind : List Char} (hfirst : IsPascalSpelling first)
    (hbehind : IsPascalSpelling behind) : IsPascalSpelling (first ++ behind) := by
  constructor
  · exact List.forall_mem_append.mpr ⟨hfirst.unseparated, hbehind.unseparated⟩
  · cases first with
    | nil => exact hbehind.capital
    | cons c rest => exact hfirst.capital

theorem flatMap {words : List (List Char)} {spell : List Char → List Char}
    (h : ∀ word ∈ words, IsPascalSpelling (spell word)) : IsPascalSpelling (words.flatMap spell) := by
  induction words with
  | nil => exact nil
  | cons word rest ih =>
    obtain ⟨hword, hrest⟩ := List.forall_mem_cons.mp h
    exact hword.append (ih hrest)

/-- Letters separate no words, so neither does what a word starts with in upper case. -/
theorem capitalizeSpelling {word : List Char} (h : ∀ c ∈ word, isWordSeparator c = false) :
    IsPascalSpelling (capitalizeSpelling word) := by
  cases word with
  | nil => exact nil
  | cons c behind =>
    obtain ⟨first, rest, hupper, hspelled⟩ := exists_upperSpelling_eq c
    obtain ⟨hc, hbehind⟩ := List.forall_mem_cons.mp h
    have hfirst : isWordSeparator first = false := by
      rcases hspelled.letter with rfl | hletter
      · exact hc
      · apply not_isWordSeparator_of_continuesIdentifier
        rw [continuesIdentifier, hletter, Bool.or_true, Bool.true_or]
    rw [SoapClasses.capitalizeSpelling, hupper, List.cons_append]
    constructor
    · exact List.forall_mem_cons.mpr
        ⟨hfirst, List.forall_mem_append.mpr ⟨hspelled.unseparated, hbehind⟩⟩
    · rintro d ⟨⟩
      exact hspelled.capital

end IsPascalSpelling

theorem isPascalSpelling_pascalSpelling (name : List Char) :
    IsPascalSpelling (pascalSpelling name) :=
  .flatMap fun _ hword => .capitalizeSpelling (not_separator_of_mem_piecesOf hword)

/-- The spellings in Pascal case are those that are kept when a name is brought into Pascal case. -/
theorem isPascalSpelling_iff {text : List Char} :
    IsPascalSpelling text ↔ pascalSpelling text = text := by
  constructor
  · intro h
    cases text with
    | nil => rfl
    | cons c rest =>
      rw [pascalSpelling_cons h.unseparated, h.capital c rfl, List.singleton_append]
  · intro h
    rw [← h]
    exact isPascalSpelling_pascalSpelling text

theorem isPascalSpelling_className (name : String) : IsPascalSpelling (className name).toList := by
  have hpascal : IsPascalSpelling (pascalCase name).toList := by
    rw [pascalCase, String.toList_ofList]
    exact isPascalSpelling_pascalSpelling name.toList
  have hending : IsPascalSpelling "Type".toList := by
    have hcapital : upperSpelling 'T' = ['T'] := by decide +kernel
    constructor
    · decide
    · rintro c ⟨⟩
      exact hcapital
  rw [className]
  split
  · rw [String.toList_append]
    exact hpascal.append hending
  · exact hpascal

theorem pascalCase_className (name : String) : pascalCase (className name) = className name := by
  rw [pascalCase, isPascalSpelling_iff.mp (isPascalSpelling_className name), String.ofList_toList]

theorem isReservedWord_append_type (name : String) : isReservedWord (name ++ "Type") = false := by
  have hending : ∀ word ∈ reservedWords, ¬ "type".toList <:+ word.toList := by decide +kernel
  have hlower : (asciiLowercase (name ++ "Type")).toList =
      (asciiLowercase name).toList ++ "type".toList := by
    simp [asciiLowercase]
  rw [isReservedWord, List.contains_eq_mem, decide_eq_false_iff_not]
  intro hmem
  apply hending _ hmem
  rw [hlower]
  exact List.suffix_append _ _

theorem isReservedWord_className (name : String) : isReservedWord (className name) = false := by
  rw [className]
  split
  · exact isReservedWord_append_type _
  · rename_i hfree
    exact Bool.eq_false_iff.mpr hfree

theorem className_className (name : String) : className (className name) = className name := by
  rw [className, pascalCase_className, isReservedWord_className, if_neg Bool.false_ne_true]

theorem asciiLowercase_of_mem_reservedWords :
    ∀ word ∈ reservedWords, asciiLowercase word = word := by
  decide +kernel

/-- Two properties that name a type by its own name and by that of its class are declared with the same
type unless these names differ and one of them is that of a built-in type. -/
theorem declaredType_eq_iff {property other : SchemaProperty}
    (hname : other.typeName = className property.typeName)
    (hns : trimSeparators other.ns = trimSeparators property.ns) :
    declaredType other = declaredType property ↔ className property.typeName = property.typeName ∨
      isBuiltinType property.typeName = false ∧
        isBuiltinType (className property.typeName) = false := by
  have hseparate : ∀ {builtin : String} (text : String), isBuiltinType builtin = true →
      "\\" ++ text ≠ builtin := by
    rintro _ text hbuiltin rfl
    have hqualified := isQualified_of_isBuiltinType hbuiltin
    rw [isQualified, String.toList_append, List.any_append] at hqualified
    exact absurd hqualified (by simp [isNameSeparator])
  rw [declaredType, declaredType, hname, hns, className_className]
  by_cases hself : className property.typeName = property.typeName
  · simp [hself]
  · cases hown : isBuiltinType property.typeName with
    | true =>
      cases isBuiltinType (className property.typeName) with
      | true => simp [hself]
      | false => simpa [hself] using hseparate _ hown
    | false =>
      cases hclass : isBuiltinType (className property.typeName) with
      | true => simpa [hself] using (hseparate _ hclass).symm
      | false => simp

/-- The name of a class has no separators of words, is no reserved word in any case of its letters, and
is kept when a class is named by it. So properties of one namespace that name a type by its own name and
by that of its class refer to the same class; only when the names differ and one of them is built in, they
do not, as a property of a built-in type keeps this type. -/
theorem className_projects (name : String) :
    (∀ c ∈ ['-', '.', ' '], c ∉ (className name).toList) ∧
    (∀ word ∈ reservedWords, asciiLowercase (className name) ≠ asciiLowercase word) ∧
    className (className name) = className name ∧
    (∀ property : SchemaProperty, property.typeName = name → isBuiltinType name = true →
      declaredType property = name) ∧
    ∀ property other : SchemaProperty, property.typeName = name → other.typeName = className name →
      trimSeparators other.ns = trimSeparators property.ns →
      (declaredType other = declaredType property ↔ className name = name ∨
        isBuiltinType name = false ∧ isBuiltinType (className name) = false) := by
  refine ⟨?_, ?_, className_className name, ?_, ?_⟩
  · intro c hseparator hmem
    have hword := (isPascalSpelling_className name).unseparated c hmem
    have hseparates : ∀ d ∈ ['-', '.', ' '], isWordSeparator d = true := by decide
    rw [hseparates c hseparator] at hword
    cases hword
  · intro word hword heq
    rw [asciiLowercase_of_mem_reservedWords word hword] at heq
    have hfree := isReservedWord_className name
    rw [isReservedWord, heq, List.contains_iff_mem.mpr hword] at hfree
    cases hfree
  · rintro property rfl hbuiltin
    rw [declaredType, if_pos hbuiltin]
  · rintro property other rfl hname hns
    exact declaredType_eq_iff hname hns

/-- Properties that name a record of customers as the service does and as its class is named. -/
theorem className_projects_customer_record :
    declaredType ⟨"second", "CustomerRecord", "App\\Type", {}⟩ =
      declaredType ⟨"first", "customer-record", "\\App\\Type\\", {}⟩ := by
  have hclass : className "customer-record" = "CustomerRecord" := by decide +kernel
  obtain ⟨-, -, -, -, hsame⟩ := className_projects "customer-record"
  exact (hsame ⟨"first", "customer-record", "\\App\\Type\\", {}⟩
    ⟨"second", "CustomerRecord", "App\\Type", {}⟩ rfl hclass.symm (by decide +kernel)).mpr
      (.inr (by decide +kernel))

/-- A property of a type with the name of a built-in type does not refer to the class for the type. -/
theorem declaredType_ne_string_class : className "string" = "StringType" ∧
    declaredType ⟨"first", "string", "App\\Type", {}⟩ = "string" ∧
    declaredType ⟨"second", "StringType", "App\\Type", {}⟩ = "\\App\\Type\\StringType" := by
  decide +kernel

end SoapClasses
