import Mathlib.Data.List.DropRight
import Mathlib.Data.List.Infix
import SoapClasses.Proofs.TextOccurrences
import SoapClasses.Proofs.TypeNames

/-!
# Marks in a text

Which class a piece of code refers to is found by the mark that stands beside the name. A text is cut at
the first occurrence of the mark, and the name is the longest run of characters of names next to it. What
stands in front does not matter as long as no occurrence begins in it, whatever follows; the replacement of
placeholders passes over such text as well.
-/

namespace SoapClasses

/-- What stands in front of the class of a new object that a method returns. -/
def returnMark : String := "return new "

/-- Whether a character may stand in the name of a class, with its namespace or without. -/
def belongsToName (c : Char) : Bool :=
  continuesIdentifier c || isNameSeparator c

/-- A text cut at the first occurrence of a mark: what stands in front of it, and what behind it. -/
def cutAtMark (mark : List Char) : List Char → Option (List Char × List Char)
  | [] => none
  | c :: rest =>
    if mark.isPrefixOf (c :: rest) then some ([], (c :: rest).drop mark.length)
    else (cutAtMark mark rest).map (fun cut => (c :: cut.1, cut.2))

/-- The text in front of the first occurrence of a mark. -/
def textInFrontOf (mark text : String) : Option String :=
  (cutAtMark mark.toList text.toList).map (fun cut => String.ofList cut.1)

/-- The text behind the first occurrence of a mark. -/
def textBehind (mark text : String) : Option String :=
  (cutAtMark mark.toList text.toList).map (fun cut => String.ofList cut.2)

/-- The name that ends where the first occurrence of a mark begins. -/
def nameInFrontOf (mark text : String) : Option String :=
  (textInFrontOf mark text).map (fun front =>
    String.ofList (front.toList.rtakeWhile belongsToName))

/-- The name that begins where the first occurrence of a mark ends. -/
def nameBehind (mark text : String) : Option String :=
  (textBehind mark text).map (fun behind => String.ofList (behind.toList.takeWhile belongsToName))

/-- No occurrence of the mark begins in the text, whatever follows the text. -/
def ClearOf (mark text : List Char) : Prop :=
  ∀ start rest, start ++ rest = text → rest ≠ [] → ∀ behind, ¬ mark <+: rest ++ behind

variable {mark front : List Char} {c : Char}

theorem clearOf_nil (mark : List Char) : ClearOf mark [] :=
  fun _ _ h hne => absurd (List.append_eq_nil_iff.mp h).2 hne

theorem clearOf_cons_iff : ClearOf mark (c :: front) ↔
    (∀ behind, ¬ mark <+: c :: (front ++ behind)) ∧ ClearOf mark front := by
  constructor
  · intro h
    refine ⟨h [] (c :: front) rfl (List.cons_ne_nil c front), ?_⟩
    exact fun start rest heq => h (c :: start) rest (congrArg (c :: ·) heq)
  · rintro ⟨hfirst, hrest⟩ start rest heq hne
    cases start with
    | nil =>
      rw [List.nil_append] at heq
      subst heq
      exact hfirst
    | cons d start => exact hrest start rest (List.cons.inj heq).2 hne

theorem ClearOf.append {behind : List Char} (h : ClearOf mark front) (hbehind : ClearOf mark behind) :
    ClearOf mark (front ++ behind) := by
  induction front with
  | nil => exact hbehind
  | cons d front ih =>
    obtain ⟨hfirst, hfront⟩ := clearOf_cons_iff.mp h
    rw [List.cons_append]
    refine clearOf_cons_iff.mpr ⟨?_, ih hfront⟩
    intro text
    rw [List.append_assoc]
    exact hfirst (behind ++ text)

theorem ClearOf.append_text {mark : List Char} {front behind : String} (h : ClearOf mark front.toList)
    (hbehind : ClearOf mark behind.toList) : ClearOf mark (front ++ behind).toList := by
  rw [String.toList_append]
  exact h.append hbehind

theorem clearOf_of_head? (hmark : mark ≠ []) (h : ∀ d ∈ front, mark.head? ≠ some d) :
    ClearOf mark front := by
  obtain ⟨c, rest, rfl⟩ := List.exists_cons_of_ne_nil hmark
  induction front with
  | nil => exact clearOf_nil _
  | cons d front ih =>
    obtain ⟨hd, hfront⟩ := List.forall_mem_cons.mp h
    refine clearOf_cons_iff.mpr ⟨fun text hprefix => hd ?_, ih hfront⟩
    rw [(List.cons_prefix_cons.mp hprefix).1, List.head?_cons]

/-- A text without an occurrence is clear of the mark if a character follows that the mark does not have. -/
theorem clearOf_concat (hc : c ∉ mark) (h : ¬ mark <:+: front) : ClearOf mark (front ++ [c]) := by
  induction front with
  | nil =>
    refine clearOf_cons_iff.mpr ⟨fun text hprefix => h ?_, clearOf_nil _⟩
    have hnil : mark <+: [] := (prefix_append_cons_iff hc [] text).mp hprefix
    exact hnil.isInfix
  | cons d front ih =>
    have hrest := ih fun hoccurs => h (hoccurs.trans (List.suffix_cons d front).isInfix)
    rw [List.cons_append]
    refine clearOf_cons_iff.mpr ⟨fun text hprefix => h ?_, hrest⟩
    rw [List.append_assoc] at hprefix
    exact ((prefix_append_cons_iff hc (d :: front) text).mp hprefix).isInfix

theorem clearOf_unlines (hfeed : '\n' ∉ mark) {lines : List String}
    (h : ∀ line ∈ lines, ¬ mark <:+: line.toList) : ClearOf mark (unlines lines).toList := by
  induction lines with
  | nil => exact clearOf_nil _
  | cons line rest ih =>
    have hrest := ih (fun other hmem => h other (List.mem_cons_of_mem _ hmem))
    have hline := clearOf_concat hfeed (h line List.mem_cons_self)
    have hended : ClearOf mark (line ++ "\n").toList := by
      rw [String.toList_append]
      exact hline
    exact hended.append_text hrest

theorem cutAtMark_append (h : ClearOf mark front) (text : List Char) :
    cutAtMark mark (front ++ text) =
      (cutAtMark mark text).map (fun cut => (front ++ cut.1, cut.2)) := by
  induction front with
  | nil => simp
  | cons c front ih =>
    obtain ⟨hfirst, hfront⟩ := clearOf_cons_iff.mp h
    have hnone : ¬ mark.isPrefixOf (c :: (front ++ text)) = true :=
      fun hprefix => hfirst text (List.isPrefixOf_iff_prefix.mp hprefix)
    rw [List.cons_append, cutAtMark, if_neg hnone, ih hfront, Option.map_map]
    rfl

/-- A text is cut at a mark that nothing in front of it conceals. -/
theorem cutAtMark_eq (h : ClearOf mark front) (hmark : mark ≠ []) (behind : List Char) :
    cutAtMark mark (front ++ (mark ++ behind)) = some (front, behind) := by
  obtain ⟨c, rest, rfl⟩ := List.exists_cons_of_ne_nil hmark
  have hfound : (c :: rest).isPrefixOf (c :: (rest ++ behind)) = true :=
    List.isPrefixOf_iff_prefix.mpr (List.prefix_append (c :: rest) behind)
  rw [cutAtMark_append h, List.cons_append, cutAtMark, if_pos hfound, ← List.cons_append,
    List.drop_left]
  simp

/-- Nothing can be taken for a mark exactly when the mark stands at no place of the text, and the rest of
the text at no place is the start of the mark. -/
theorem clearOf_iff (mark text : List Char) : ClearOf mark text ↔
    ∀ rest ∈ text.tails, rest ≠ [] → ¬ mark <+: rest ∧ ¬ rest <+: mark := by
  simp only [List.mem_tails]
  constructor
  · rintro h rest ⟨start, htext⟩ hne
    refine ⟨fun hfound => h start rest htext hne [] ?_, ?_⟩
    · rwa [List.append_nil]
    · rintro ⟨behind, rfl⟩
      exact h start rest htext hne behind List.prefix_rfl
  · intro h start rest htext hne behind hfound
    obtain ⟨hmark, hrest⟩ := h rest ⟨start, htext⟩ hne
    exact (List.prefix_or_prefix_of_prefix hfound (List.prefix_append rest behind)).elim hmark hrest

instance (mark text : List Char) : Decidable (ClearOf mark text) :=
  decidable_of_iff _ (clearOf_iff mark text).symm

theorem ClearOf.not_occurs (h : ClearOf mark front) (hmark : mark ≠ []) : ¬ mark <:+: front := by
  rintro ⟨start, behind, htext⟩
  rw [List.append_assoc] at htext
  have hne : mark ++ behind ≠ [] := fun hnil => hmark (List.append_eq_nil_iff.mp hnil).1
  apply h start (mark ++ behind) htext hne []
  rw [List.append_nil]
  exact List.prefix_append mark behind

theorem belongsToName_of_isIdentifier {name : String} (h : isIdentifier name = true) :
    ∀ c ∈ name.toList, belongsToName c = true := by
  intro c hmem
  rw [belongsToName, continuesIdentifier_of_mem h hmem, Bool.true_or]

section

variable {mark front name behind : String} {rest : List Char}

theorem nameBehind_eq (hfront : ClearOf mark.toList front.toList) (hmark : mark ≠ "")
    (hname : ∀ d ∈ name.toList, belongsToName d = true) (hbehind : behind.toList = c :: rest)
    (hc : belongsToName c = false) :
    nameBehind mark (front ++ mark ++ name ++ behind) = some name := by
  have hchars : (front ++ mark ++ name ++ behind).toList =
      front.toList ++ (mark.toList ++ (name.toList ++ c :: rest)) := by
    simp only [String.toList_append, hbehind, List.append_assoc]
  have hrun : (name.toList ++ c :: rest).takeWhile belongsToName = name.toList := by
    rw [List.takeWhile_append_of_pos hname, List.takeWhile_cons_of_neg (by simp [hc]), List.append_nil]
  rw [nameBehind, textBehind, hchars, cutAtMark_eq hfront (by simpa using hmark), Option.map_some,
    Option.map_some, String.toList_ofList, hrun, String.ofList_toList]

theorem nameInFrontOf_eq (hfront : ClearOf mark.toList front.toList)
    (hclear : ClearOf mark.toList name.toList) (hmark : mark ≠ "")
    (hlast : front.toList.getLast? = some c) (hc : belongsToName c = false)
    (hname : ∀ d ∈ name.toList, belongsToName d = true) :
    nameInFrontOf mark (front ++ name ++ mark ++ behind) = some name := by
  obtain ⟨opening, hopening⟩ := List.getLast?_eq_some_iff.mp hlast
  have hchars : (front ++ name ++ mark ++ behind).toList =
      front.toList ++ (name.toList ++ (mark.toList ++ behind.toList)) := by
    simp only [String.toList_append, List.append_assoc]
  have hreversed : ∀ d ∈ name.toList.reverse, belongsToName d = true :=
    fun d hmem => hname d (List.mem_reverse.mp hmem)
  have hrun : (front.toList ++ name.toList).rtakeWhile belongsToName = name.toList := by
    rw [List.rtakeWhile, hopening, List.reverse_append, List.reverse_append,
      List.takeWhile_append_of_pos hreversed]
    simp [hc]
  rw [nameInFrontOf, textInFrontOf, hchars, cutAtMark_append hfront,
    cutAtMark_eq hclear (by simpa using hmark), Option.map_some, Option.map_some, Option.map_some,
    String.toList_ofList, hrun, String.ofList_toList]

end

example : nameBehind returnMark "return new \\Wrapper($this->id);" = some "\\Wrapper" := by
  decide +kernel

end SoapClasses
