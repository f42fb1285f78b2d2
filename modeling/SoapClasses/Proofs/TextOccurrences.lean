import Mathlib.Algebra.GroupWithZero.Nat
import Mathlib.Data.List.Infix
import SoapClasses.Proofs.JoinedTexts

/-!
# Occurrences in text

A pattern cannot reach over a character that it does not have. So when texts are put together with such
a character between them, the pattern occurs in the whole as often as in the parts; and a text is cut
into lines without losing an occurrence, as line ends are such characters for most patterns.
-/

namespace SoapClasses

variable {pattern : List Char} {c : Char}

/-- How often a pattern occurs in a text. -/
def occurrences (pattern text : List Char) : Nat :=
  text.tails.countP pattern.isPrefixOf

theorem prefix_append_cons_iff (h : c ∉ pattern) (front behind : List Char) :
    pattern <+: front ++ c :: behind ↔ pattern <+: front := by
  constructor
  · intro hprefix
    rcases List.prefix_or_prefix_of_prefix hprefix (List.prefix_append front (c :: behind)) with
      hfront | ⟨rest, rfl⟩
    · exact hfront
    · have hrest : rest <+: c :: behind := (List.prefix_append_right_inj front).mp hprefix
      cases rest with
      | nil => exact (List.append_nil front).symm ▸ List.prefix_rfl
      | cons d rest =>
        obtain ⟨rfl, _⟩ := List.cons_prefix_cons.mp hrest
        exact absurd (List.mem_append_right front List.mem_cons_self) h
  · exact fun hfront => hfront.trans (List.prefix_append _ _)

theorem occurrences_cons (pattern : List Char) (d : Char) (text : List Char) :
    occurrences pattern (d :: text) =
      occurrences pattern text + if pattern <+: d :: text then 1 else 0 := by
  rw [occurrences, List.tails_cons, List.countP_cons, occurrences]
  simp only [List.isPrefixOf_iff_prefix]

theorem occurrences_nil (hne : pattern ≠ []) : occurrences pattern [] = 0 := by
  cases pattern with
  | nil => exact absurd rfl hne
  | cons d rest => rfl

theorem occurrences_append_cons (hne : pattern ≠ []) (h : c ∉ pattern) (front behind : List Char) :
    occurrences pattern (front ++ c :: behind) =
      occurrences pattern front + occurrences pattern behind := by
  induction front with
  | nil =>
    have hnone : ¬ pattern <+: c :: behind := by
      intro hprefix
      exact hne (List.prefix_nil.mp ((prefix_append_cons_iff h [] behind).mp hprefix))
    rw [List.nil_append, occurrences_cons, if_neg hnone, occurrences_nil hne, Nat.zero_add, Nat.add_zero]
  | cons d front ih =>
    have hsame : pattern <+: d :: (front ++ c :: behind) ↔ pattern <+: d :: front :=
      prefix_append_cons_iff h (d :: front) behind
    rw [List.cons_append, occurrences_cons, occurrences_cons, ih]
    simp only [hsame]
    omega

theorem occurrences_eq_zero_iff (text : List Char) :
    occurrences pattern text = 0 ↔ ¬ pattern <:+: text := by
  rw [occurrences, List.countP_eq_zero, List.infix_iff_prefix_suffix]
  simp only [List.mem_tails, List.isPrefixOf_iff_prefix]
  constructor
  · rintro hnone ⟨rest, hprefix, hsuffix⟩
    exact hnone rest hsuffix hprefix
  · exact fun hnone rest hsuffix hprefix => hnone ⟨rest, hprefix, hsuffix⟩

theorem infix_append_cons_iff (hne : pattern ≠ []) (h : c ∉ pattern) (front behind : List Char) :
    pattern <:+: front ++ c :: behind ↔ pattern <:+: front ∨ pattern <:+: behind := by
  rw [← not_iff_not, not_or, ← occurrences_eq_zero_iff, ← occurrences_eq_zero_iff,
    ← occurrences_eq_zero_iff, occurrences_append_cons hne h, Nat.add_eq_zero_iff]

/-- A text without the first character of a pattern adds no occurrence in front of another one. -/
theorem infix_append_left_iff {rest front : List Char} (h : c ∉ front) (text : List Char) :
    c :: rest <:+: front ++ text ↔ c :: rest <:+: text := by
  induction front with
  | nil => rfl
  | cons d front ih =>
    have hnone : ¬ c :: rest <+: d :: (front ++ text) :=
      fun hprefix => List.ne_of_not_mem_cons h (List.cons_prefix_cons.mp hprefix).1
    rw [List.cons_append, List.infix_cons_iff, or_iff_right hnone, ih (List.not_mem_of_not_mem_cons h)]

theorem occurrences_append_left (hne : pattern ≠ []) {front : List Char}
    (h : ∀ d ∈ front, d ∉ pattern) (text : List Char) :
    occurrences pattern (front ++ text) = occurrences pattern text := by
  induction front with
  | nil => rfl
  | cons d front ih =>
    have hd := occurrences_append_cons hne (h d List.mem_cons_self) [] (front ++ text)
    rw [List.nil_append, occurrences_nil hne, Nat.zero_add] at hd
    rw [List.cons_append, hd, ih (fun e hmem => h e (List.mem_cons_of_mem _ hmem))]

theorem occurrences_append_right (hne : pattern ≠ []) {behind : List Char}
    (h : ∀ d ∈ behind, d ∉ pattern) (text : List Char) :
    occurrences pattern (text ++ behind) = occurrences pattern text := by
  cases behind with
  | nil => rw [List.append_nil]
  | cons d behind =>
    have hbehind := occurrences_append_left hne (fun e hmem => h e (List.mem_cons_of_mem _ hmem)) []
    rw [List.append_nil, occurrences_nil hne] at hbehind
    rw [occurrences_append_cons hne (h d List.mem_cons_self), hbehind, Nat.add_zero]

theorem occurrences_unlines (hne : pattern ≠ []) (h : '\n' ∉ pattern) (lines : List String) :
    occurrences pattern (unlines lines).toList =
      (lines.map (fun line => occurrences pattern line.toList)).sum := by
  induction lines with
  | nil => exact occurrences_nil hne
  | cons line rest ih =>
    have hchars : (unlines (line :: rest)).toList = line.toList ++ '\n' :: (unlines rest).toList := by
      simp [unlines]
    rw [hchars, occurrences_append_cons hne h, ih, List.map_cons, List.sum_cons]

theorem occurrences_joinText (hne : pattern ≠ []) {separator : String}
    (hseparator : separator.toList = [c]) (h : c ∉ pattern) (texts : List String) :
    occurrences pattern (joinText separator texts).toList =
      (texts.map (fun text => occurrences pattern text.toList)).sum := by
  induction texts with
  | nil => exact occurrences_nil hne
  | cons text rest ih =>
    cases rest with
    | nil => exact (Nat.add_zero _).symm
    | cons next rest =>
      have hchars : (joinText separator (text :: next :: rest)).toList =
          text.toList ++ c :: (joinText separator (next :: rest)).toList := by
        simp [joinText_cons_cons, hseparator]
      rw [hchars, occurrences_append_cons hne h, ih]
      rfl

theorem occurrences_dropReturn (hne : pattern ≠ []) (h : '\r' ∉ pattern) (text : List Char) :
    occurrences pattern (dropReturn text) = occurrences pattern text := by
  rcases exists_append_dropReturn text with heq | heq
  · rw [← heq]
  · have hbehind := occurrences_append_right hne
      (fun d hmem => List.mem_singleton.mp hmem ▸ h) (dropReturn text)
    rw [← hbehind, ← heq]

theorem prefix_dropReturn_iff (h : '\r' ∉ pattern) (text : List Char) :
    pattern <+: dropReturn text ↔ pattern <+: text := by
  rcases exists_append_dropReturn text with heq | heq
  · rw [← heq]
  · have hreturn := prefix_append_cons_iff h (dropReturn text) []
    rw [← heq] at hreturn
    exact hreturn.symm

/-- A pattern without line ends occurs in the lines of a text as often as in the text. -/
theorem sum_occurrences_linesOfPieces (hne : pattern ≠ []) (h : '\r' ∉ pattern)
    (pieces : List (List Char)) :
    ((linesOfPieces pieces).map (occurrences pattern)).sum = (pieces.map (occurrences pattern)).sum := by
  induction pieces with
  | nil => rfl
  | cons piece rest ih =>
    cases rest with
    | nil =>
      cases piece with
      | nil => simp [linesOfPieces, occurrences_nil hne]
      | cons d piece => rfl
    | cons next rest =>
      rw [linesOfPieces, List.map_cons, List.sum_cons, ih, occurrences_dropReturn hne h]
      rfl

theorem sum_occurrences_textLines (hne : pattern ≠ []) (hfeed : '\n' ∉ pattern)
    (hreturn : '\r' ∉ pattern) (text : String) :
    ((textLines text).map (fun line => occurrences pattern line.toList)).sum =
      occurrences pattern text.toList := by
  have honly : ∀ d, (d == '\n') = true → d = '\n' := fun d hd => beq_iff_eq.mp hd
  have hfeeds : "\n".toList = ['\n'] := rfl
  have hpieces := occurrences_joinText hne hfeeds hfeed (splitText (· == '\n') text)
  rw [joinText_splitText hfeeds honly, splitText, List.map_map] at hpieces
  rw [textLines, List.map_map]
  simp only [Function.comp_def, String.toList_ofList] at hpieces ⊢
  rw [hpieces]
  exact sum_occurrences_linesOfPieces hne hreturn _

theorem exists_mem_textLines_infix_iff (hne : pattern ≠ []) (hfeed : '\n' ∉ pattern)
    (hreturn : '\r' ∉ pattern) (text : String) :
    (∃ line ∈ textLines text, pattern <:+: line.toList) ↔ pattern <:+: text.toList := by
  rw [← not_iff_not, ← occurrences_eq_zero_iff, ← sum_occurrences_textLines hne hfeed hreturn,
    List.sum_eq_zero_iff_forall_eq_nat]
  simp only [List.forall_mem_map, occurrences_eq_zero_iff, not_exists, not_and]

end SoapClasses
