import SoapClasses.Proofs.NamingLaws
import SoapClasses.Proofs.TextOccurrences

/-!
# Text in comments

In a comment each line of a text stands behind a star. A text that has the end of a comment in it ends
the comment early, and one that has a line feed in it goes on at the left margin, where the rest must look
like a line of the comment by itself. Plain text has neither, and put in front of another text it changes
nothing.
-/

namespace SoapClasses

/-- What ends a comment. -/
def commentEnd : List Char :=
  ['*', '/']

/-- The line starts as the first line of a comment does, or as one of the others. -/
def StartsComment (indent : String) (line : List Char) : Prop :=
  (indent ++ "/**").toList <+: line ∨ (indent ++ " *").toList <+: line

instance (indent : String) (line : List Char) : Decidable (StartsComment indent line) :=
  inferInstanceAs (Decidable (_ ∨ _))

/-- The text can stand behind a star: it does not end the comment, and what follows a line feed in it
starts as a line of the comment does. -/
structure FitsComment (indent text : String) : Prop where
  open_ended : ¬ commentEnd <:+: text.toList
  continued : ∀ piece ∈ (piecesOf (· == '\n') text.toList).tail, StartsComment indent piece

theorem fitsComment_iff (indent text : String) :
    FitsComment indent text ↔ ¬ commentEnd <:+: text.toList ∧
      ∀ piece ∈ (piecesOf (· == '\n') text.toList).tail, StartsComment indent piece :=
  ⟨fun h => ⟨h.open_ended, h.continued⟩, fun h => ⟨h.1, h.2⟩⟩

instance (indent text : String) : Decidable (FitsComment indent text) :=
  decidable_of_iff _ (fitsComment_iff indent text).symm

theorem commentEnd_ne_nil : commentEnd ≠ [] :=
  List.cons_ne_nil _ _

theorem not_feed_commentEnd : '\n' ∉ commentEnd := by decide

theorem not_return_commentEnd : '\r' ∉ commentEnd := by decide

/-! ## Plain texts -/

/-- Line feeds and the characters of the end of a comment are what can disturb a comment. -/
def disturbsComment (c : Char) : Bool :=
  c == '\n' || commentEnd.contains c

def IsPlainText (text : String) : Prop :=
  ∀ c ∈ text.toList, disturbsComment c = false

instance (text : String) : Decidable (IsPlainText text) :=
  inferInstanceAs (Decidable (∀ c ∈ text.toList, disturbsComment c = false))

@[simp] theorem isPlainText_append (front behind : String) :
    IsPlainText (front ++ behind) ↔ IsPlainText front ∧ IsPlainText behind := by
  simp only [IsPlainText, String.toList_append, List.forall_mem_append]

theorem disturbsComment_eq_false_iff (c : Char) :
    disturbsComment c = false ↔ c ∉ ['\n', '*', '/'] := by
  simp [disturbsComment, commentEnd]

theorem isPlainText_of_isIdentifier {name : String} (h : isIdentifier name = true) :
    IsPlainText name := by
  intro c hmem
  have hcontinues := continuesIdentifier_of_mem h hmem
  have hnone : ∀ d ∈ ['\n', '*', '/'], continuesIdentifier d = false := by decide
  rw [disturbsComment_eq_false_iff]
  intro hspecial
  rw [hnone c hspecial] at hcontinues
  cases hcontinues

theorem isPlainText_joinText {texts : List String} (h : ∀ text ∈ texts, IsPlainText text) :
    IsPlainText (joinText "\\" texts) := by
  have hseparator : IsPlainText "\\" := by decide
  intro c hmem
  rcases mem_of_mem_joinText hmem with hmem | ⟨text, htext, hmem⟩
  · exact hseparator c hmem
  · exact h text htext c hmem

theorem isPlainText_toString (n : Nat) : IsPlainText (toString n) := by
  intro c hmem
  rw [Nat.toString_eq_ofList_toDigits, String.toList_ofList] at hmem
  have hdigit := Nat.isDigit_of_mem_toDigits (Nat.succ_pos 9) (Nat.le_refl 10) hmem
  have hnone : ∀ d ∈ ['\n', '*', '/'], d.isDigit = false := by decide
  rw [disturbsComment_eq_false_iff]
  intro hspecial
  rw [hnone c hspecial] at hdigit
  cases hdigit

section

variable {indent front text behind : String}

theorem IsPlainText.not_feed (h : IsPlainText text) : ∀ c ∈ text.toList, (c == '\n') = false := by
  intro c hmem
  have hc := h c hmem
  rw [disturbsComment, Bool.or_eq_false_iff] at hc
  exact hc.1

theorem IsPlainText.not_mem_commentEnd (h : IsPlainText text) : ∀ c ∈ text.toList, c ∉ commentEnd := by
  intro c hmem
  have hc := h c hmem
  rw [disturbsComment, Bool.or_eq_false_iff] at hc
  simpa using hc.2

theorem fitsComment_append_left (h : IsPlainText front) :
    FitsComment indent (front ++ text) ↔ FitsComment indent text := by
  obtain ⟨head, tail, hp⟩ := List.exists_cons_of_ne_nil (piecesOf_ne_nil (· == '\n') text.toList)
  rw [fitsComment_iff, fitsComment_iff, String.toList_append, ← occurrences_eq_zero_iff,
    ← occurrences_eq_zero_iff, occurrences_append_left commentEnd_ne_nil h.not_mem_commentEnd,
    piecesOf_append_of_none h.not_feed, hp]
  rfl

theorem fitsComment_of_isPlainText (h : IsPlainText text) : FitsComment indent text := by
  have hempty : FitsComment indent "" := by
    refine ⟨by decide, fun piece hmem => absurd hmem List.not_mem_nil⟩
  rw [← String.append_empty (s := text), fitsComment_append_left h]
  exact hempty

/-- Plain text behind another text can complete the start of a line only with a space. -/
theorem fitsComment_append_right (hindent : ∀ c ∈ indent.toList, c = ' ') (h : IsPlainText behind)
    (hspace : behind.toList.head? ≠ some ' ') :
    FitsComment indent (text ++ behind) ↔ FitsComment indent text := by
  have hstarts : ∀ line : List Char,
      StartsComment indent (line ++ behind.toList) ↔ StartsComment indent line := by
    intro line
    cases hchars : behind.toList with
    | nil => rw [List.append_nil]
    | cons c rest =>
      have hplain := h.not_mem_commentEnd c (hchars ▸ List.mem_cons_self)
      have hc : c ≠ ' ' := by
        rintro rfl
        exact hspace (by rw [hchars, List.head?_cons])
      have hmark : ∀ mark : String, (∀ d ∈ mark.toList, d = ' ' ∨ d ∈ commentEnd) →
          c ∉ (indent ++ mark).toList := by
        intro mark hmark hmem
        rw [String.toList_append, List.mem_append] at hmem
        rcases hmem with hmem | hmem
        · exact hc (hindent c hmem)
        · rcases hmark c hmem with hmem | hmem
          · exact hc hmem
          · exact hplain hmem
      rw [StartsComment, StartsComment, prefix_append_cons_iff (hmark "/**" (by decide)),
        prefix_append_cons_iff (hmark " *" (by decide))]
  obtain ⟨pieces, last, htext, hall⟩ := piecesOf_append_eq h.not_feed text.toList
  rw [fitsComment_iff, fitsComment_iff, String.toList_append, ← occurrences_eq_zero_iff,
    ← occurrences_eq_zero_iff, occurrences_append_right commentEnd_ne_nil h.not_mem_commentEnd,
    hall, htext]
  cases pieces with
  | nil => rfl
  | cons piece pieces =>
    simp only [List.cons_append, List.tail_cons, List.forall_mem_append, List.forall_mem_singleton,
      hstarts]

/-- A text that is cut into lines fits unless it ends the comment. -/
theorem fitsComment_textLines_iff :
    (∀ line ∈ textLines text, FitsComment indent line) ↔ ¬ commentEnd <:+: text.toList := by
  have hone : ∀ line ∈ textLines text, (FitsComment indent line ↔ ¬ commentEnd <:+: line.toList) := by
    intro line hmem
    have hfree : ∀ c ∈ line.toList, (c == '\n') = false := by
      intro c hc
      rw [beq_eq_false_iff_ne]
      rintro rfl
      exact not_feed_of_mem_textLines hmem hc
    rw [fitsComment_iff, piecesOf_of_none hfree]
    exact and_iff_left (fun piece hpiece => absurd hpiece List.not_mem_nil)
  rw [← exists_mem_textLines_infix_iff commentEnd_ne_nil not_feed_commentEnd not_return_commentEnd]
  constructor
  · rintro hfits ⟨line, hmem, hends⟩
    exact (hone line hmem).mp (hfits line hmem) hends
  · intro hnone line hmem
    exact (hone line hmem).mpr (fun hends => hnone ⟨line, hmem, hends⟩)

end

end SoapClasses
