import SoapClasses.Proofs.CaseTables
import SoapClasses.Proofs.TextPieceLaws

/-!
# Letters in the other case

In upper case a character is spelled by a letter that stays as it is in upper case, or it is such a
character itself; nothing that separates words is added. In lower case it is spelled by a letter, too.
What stands behind this letter belongs to identifiers as well, a few accents apart, which some letters
have in one case only.
-/

namespace SoapClasses

/-- Letters that are spelled in upper case with an accent of its own, which is no letter. -/
def accentedLetters : List Char := [
  '\u01F0', '\u0390', '\u03B0', '\u1E96', '\u1E97', '\u1E98', '\u1E99', '\u1F50', '\u1F52',
  '\u1F54', '\u1F56', '\u1FB6', '\u1FB7', '\u1FC6', '\u1FC7', '\u1FD2', '\u1FD3', '\u1FD6',
  '\u1FD7', '\u1FE2', '\u1FE3', '\u1FE4', '\u1FE6', '\u1FE7', '\u1FF6', '\u1FF7']

/-- The capital letter i with a dot, which is spelled in lower case with the dot as an accent. -/
def dottedCapital : Char := '\u0130'

/-- What the spelling of a character in upper case is like: its first character and the rest of it. -/
structure IsUpperSpelling (c first : Char) (rest : List Char) : Prop where
  letter : first = c ∨ isLetter first = true
  capital : upperSpelling first = [first]
  unseparated : ∀ d ∈ rest, isWordSeparator d = false
  dotted : first = dottedCapital ↔ c = dottedCapital
  accents : rest.all continuesIdentifier = true ↔ c ∉ accentedLetters

/-- What the spelling of a character in lower case is like: its first character and the rest of it. -/
structure IsLowerSpelling (c first : Char) (rest : List Char) : Prop where
  letter : first = c ∨ isLetter first = true
  accents : rest.all continuesIdentifier = true ↔ c ≠ dottedCapital

section

variable {c first : Char} {rest : List Char}

instance : Decidable (IsUpperSpelling c first rest) :=
  decidable_of_iff ((first = c ∨ isLetter first = true) ∧ upperSpelling first = [first] ∧
      (∀ d ∈ rest, isWordSeparator d = false) ∧ (first = dottedCapital ↔ c = dottedCapital) ∧
      (rest.all continuesIdentifier = true ↔ c ∉ accentedLetters))
    ⟨fun h => ⟨h.1, h.2.1, h.2.2.1, h.2.2.2.1, h.2.2.2.2⟩,
      fun h => ⟨h.letter, h.capital, h.unseparated, h.dotted, h.accents⟩⟩

instance : Decidable (IsLowerSpelling c first rest) :=
  decidable_of_iff ((first = c ∨ isLetter first = true) ∧
      (rest.all continuesIdentifier = true ↔ c ≠ dottedCapital))
    ⟨fun h => ⟨h.1, h.2⟩, fun h => ⟨h.letter, h.accents⟩⟩

end

/-- Letters with an accent of their own are spelled by expansions. -/
theorem lookups_of_mem_accentedLetters : ∀ c ∈ accentedLetters,
    caseImage uppercaseRuns c.toNat = none ∧ expansionOf uppercaseExpansions c.toNat ≠ none := by
  decide +kernel

theorem lookups_dottedCapital : caseImage uppercaseRuns dottedCapital.toNat = none ∧
    caseImage lowercaseRuns dottedCapital.toNat = none ∧
    expansionOf lowercaseExpansions dottedCapital.toNat ≠ none := by
  decide +kernel

theorem dottedCapital_not_image : ∀ run ∈ uppercaseRuns,
    run.lastImage < dottedCapital.toNat ∨ dottedCapital.toNat < run.image := by
  decide +kernel

theorem isUpperSpelling_of_mem_expansions : ∀ entry ∈ uppercaseExpansions,
    entry.2 ≠ [] ∧ IsUpperSpelling (Char.ofNat entry.1) (Char.ofNat (entry.2.headD 0))
      (entry.2.tail.map Char.ofNat) := by
  decide +kernel

theorem isLowerSpelling_of_mem_expansions : ∀ entry ∈ lowercaseExpansions,
    entry.2 ≠ [] ∧ IsLowerSpelling (Char.ofNat entry.1) (Char.ofNat (entry.2.headD 0))
      (entry.2.tail.map Char.ofNat) := by
  decide +kernel

/-- The only character of a run is a letter, and it is a capital as upper case takes it no further. -/
theorem isUpperSpelling_of_mem_images {c : Char} {run : CaseRun} {image : Nat}
    (hrun : run ∈ uppercaseRuns) (hon : image ∈ run.images)
    (himage : caseImage uppercaseRuns c.toNat = some image) :
    IsUpperSpelling c (Char.ofNat image) [] := by
  have hletter := CaseRun.covers_of_givesLetters
    (List.all_eq_true.mp givesLetters_uppercaseRuns run hrun) hon
  have hpoint := toNat_ofNat_of_covers hletter
  constructor
  · exact .inr (isLetter_ofNat hletter)
  · obtain ⟨hruns, hexpansions⟩ := CaseRun.eq_none_of_givesCapitals
      (List.all_eq_true.mp givesCapitals_uppercaseRuns run hrun) hon
    rw [upperSpelling, spelling, hpoint, hruns, hexpansions]
  · exact fun d hmem => absurd hmem List.not_mem_nil
  · refine iff_of_false ?_ ?_
    · intro hdotted
      obtain ⟨hlow, hhigh, -⟩ := CaseRun.mem_images hon
      have hother := dottedCapital_not_image run hrun
      rw [← hdotted, hpoint] at hother
      omega
    · rintro rfl
      rw [lookups_dottedCapital.1] at himage
      cases himage
  · refine iff_of_true rfl ?_
    intro hmem
    rw [(lookups_of_mem_accentedLetters c hmem).1] at himage
    cases himage

theorem exists_upperSpelling_eq (c : Char) :
    ∃ first rest, upperSpelling c = first :: rest ∧ IsUpperSpelling c first rest := by
  refine exists_spelling_eq ?_ (fun run hrun image hon => isUpperSpelling_of_mem_images hrun hon) ?_
  · intro hruns hexpansions
    have hself : upperSpelling c = [c] := by
      rw [upperSpelling, spelling, hruns, hexpansions]
    have hplain : c ∉ accentedLetters :=
      fun hmem => (lookups_of_mem_accentedLetters c hmem).2 hexpansions
    exact ⟨.inl rfl, hself, by simp, Iff.rfl, iff_of_true rfl hplain⟩
  · intro entry hmem hpoint
    have hspells := isUpperSpelling_of_mem_expansions entry hmem
    rwa [hpoint, Char.ofNat_toNat] at hspells

theorem exists_lowerSpelling_eq (c : Char) :
    ∃ first rest, lowerSpelling c = first :: rest ∧ IsLowerSpelling c first rest := by
  refine exists_spelling_eq ?_ ?_ ?_
  · intro _ hexpansions
    refine ⟨.inl rfl, iff_of_true rfl ?_⟩
    rintro rfl
    exact lookups_dottedCapital.2.2 hexpansions
  · intro run hrun image hon himage
    have hletter := CaseRun.covers_of_givesLetters
      (List.all_eq_true.mp givesLetters_lowercaseRuns run hrun) hon
    refine ⟨.inr (isLetter_ofNat hletter), iff_of_true rfl ?_⟩
    rintro rfl
    rw [lookups_dottedCapital.2.1] at himage
    cases himage
  · intro entry hmem hpoint
    have hspells := isLowerSpelling_of_mem_expansions entry hmem
    rwa [hpoint, Char.ofNat_toNat] at hspells

end SoapClasses
