import Mathlib.Data.List.Infix
import SoapClasses.ClassRendering
import SoapClasses.Proofs.JoinedTexts

/-!
# Written methods

A class is written line by line, so the lines of a text that is written into it are lines of the class,
as long as they are lines at all. The body of a method stands there between its braces, eight spaces
further in.
-/

namespace SoapClasses

/-- The text is one line: it has no line feed, nor a carriage return that would belong to one. -/
structure IsLine (line : String) : Prop where
  noFeed : '\n' ∉ line.toList
  noReturn : line.toList.getLast? ≠ some '\r'

instance (line : String) : Decidable (IsLine line) :=
  decidable_of_iff ('\n' ∉ line.toList ∧ line.toList.getLast? ≠ some '\r')
    ⟨fun h => ⟨h.1, h.2⟩, fun h => ⟨h.noFeed, h.noReturn⟩⟩

theorem IsLine.append_of_ne_empty {line : String} (h : IsLine line) (hne : line ≠ "") {front : String}
    (hfront : '\n' ∉ front.toList) : IsLine (front ++ line) := by
  constructor
  · rw [String.toList_append, List.mem_append]
    exact fun hmem => hmem.elim hfront h.noFeed
  · rw [String.toList_append, List.getLast?_append_of_ne_nil _ (mt String.toList_eq_nil_iff.mp hne)]
    exact h.noReturn

theorem IsLine.append_left {line : String} (h : IsLine line) {front : String} (hfront : IsLine front) :
    IsLine (front ++ line) := by
  by_cases hne : line = ""
  · rw [hne, String.append_empty]
    exact hfront
  · exact h.append_of_ne_empty hne hfront.noFeed

theorem textLines_unlines_of_isLine {lines : List String} (h : ∀ line ∈ lines, IsLine line) :
    textLines (unlines lines) = lines := by
  have hone : ∀ line ∈ lines, (piecesOf (· == '\n') line.toList).map
      (fun piece => String.ofList (dropReturn piece)) = [line] := by
    intro line hmem
    have hfree : ∀ c ∈ line.toList, (c == '\n') = false := by
      intro c hc
      simpa using fun heq : c = '\n' => (h line hmem).noFeed (heq ▸ hc)
    rw [piecesOf_of_none hfree, List.map_singleton, dropReturn_of_getLast? (h line hmem).noReturn,
      String.ofList_toList]
  rw [textLines_unlines, List.flatMap_congr hone, List.flatMap_singleton']

theorem textLines_of_isLine {line : String} (h : IsLine line) (hne : line ≠ "") :
    textLines line = [line] := by
  show textLines (joinText "\n" [line]) = [line]
  apply textLines_joinText (List.cons_ne_nil line [])
  · exact List.forall_mem_singleton.mpr h.noFeed
  · exact List.forall_mem_singleton.mpr h.noReturn
  · simpa using hne

theorem textLines_unlines_append (first next : List String) :
    textLines (unlines (first ++ next)) = textLines (unlines first) ++ textLines (unlines next) := by
  simp only [textLines_unlines, List.flatMap_append]

/-- Lines that stand together among texts do so among the lines of these texts. -/
theorem infix_textLines_unlines {lines texts : List String} (h : lines <:+: texts)
    (hlines : ∀ line ∈ lines, IsLine line) : lines <:+: textLines (unlines texts) := by
  obtain ⟨before, after, rfl⟩ := h
  rw [textLines_unlines_append, textLines_unlines_append, textLines_unlines_of_isLine hlines]
  exact List.infix_append _ _ _

theorem infix_spacedBlocks {blocks : List (List String)} {block : List String} (h : block ∈ blocks) :
    block <:+: spacedBlocks blocks := by
  unfold spacedBlocks
  induction blocks with
  | nil => cases h
  | cons head rest ih =>
    cases rest with
    | nil =>
      rw [List.mem_singleton.mp h, List.intersperse_singleton, List.flatten_singleton]
    | cons next rest =>
      rw [List.intersperse_cons_cons, List.flatten_cons, List.flatten_cons]
      rcases List.mem_cons.mp h with rfl | hmem
      · exact (List.prefix_append _ _).isInfix
      · exact ((ih hmem).trans (List.suffix_append _ _).isInfix).trans (List.suffix_append _ _).isInfix

namespace Method

/-- The lines of a method behind its doc block. -/
def writtenLines (method : Method) : List String :=
  ["    " ++ method.signature, "    \x7b"] ++
    (textLines method.body).map (fun line => "        " ++ line) ++ ["    \x7d"]

/-- The signature of the method is a line, and so are the lines of its body, none of them empty. -/
structure IsWellSet (method : Method) : Prop where
  signature : IsLine method.signature
  body : ∀ line ∈ textLines method.body, line ≠ "" ∧ IsLine line

variable {method : Method}

theorem IsWellSet.isLine_of_mem_writtenLines (h : method.IsWellSet) {line : String}
    (hmem : line ∈ method.writtenLines) : IsLine line := by
  simp only [writtenLines, List.mem_append, List.mem_cons, List.not_mem_nil, or_false] at hmem
  rcases hmem with ((rfl | rfl) | hmem) | rfl
  · exact h.signature.append_left (by decide)
  · decide
  · obtain ⟨inner, hinner, rfl⟩ := List.mem_map.mp hmem
    exact (h.body inner hinner).2.append_left (by decide)
  · decide

theorem IsWellSet.lines_eq (h : method.IsWellSet) :
    method.lines = memberDocLines method.doc ++ method.writtenLines := by
  have hbody : (textLines method.body).map bodyLine =
      (textLines method.body).map (fun line => "        " ++ line) := by
    apply List.map_congr_left
    intro line hmem
    rw [bodyLine, if_neg (by simpa using (h.body line hmem).1)]
    rfl
  rw [lines, hbody, writtenLines]
  simp only [List.append_assoc]
  rfl

end Method

namespace PhpClass

variable {php : PhpClass} {method : Method}

theorem infix_lines (hmem : method ∈ php.methods.toList) : method.lines <:+: php.lines := by
  have hmembers : method.lines <:+: php.memberLines :=
    infix_spacedBlocks (List.mem_append_right _ (List.mem_map_of_mem hmem))
  have hclass : php.memberLines <:+: php.lines := by
    unfold lines
    exact ((List.suffix_append _ _).isInfix).trans (List.prefix_append _ _).isInfix
  exact hmembers.trans hclass

/-- A method of a class stands among the lines of the class, and among those of the text of the class. -/
theorem exists_textLines_render (hmem : method ∈ php.methods.toList) (h : method.IsWellSet) :
    ∃ before after : List String, php.lines = before ++ method.writtenLines ++ after ∧
      textLines php.render =
        textLines (unlines before) ++ method.writtenLines ++ textLines (unlines after) := by
  have hmethod : method.writtenLines <:+: method.lines := by
    rw [h.lines_eq]
    exact (List.suffix_append _ _).isInfix
  obtain ⟨before, after, hlines⟩ := hmethod.trans (infix_lines hmem)
  refine ⟨before, after, hlines.symm, ?_⟩
  rw [render, ← hlines, textLines_unlines_append, textLines_unlines_append,
    textLines_unlines_of_isLine (fun _ hmem => h.isLine_of_mem_writtenLines hmem)]

end PhpClass

end SoapClasses
