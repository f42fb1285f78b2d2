import SoapClasses.Proofs.CommentTexts
import SoapClasses.Proofs.DocBlockLayout

/-!
# Doc blocks as comments

A doc block is written as a comment: each of its lines goes behind a star, and the comment ends with the
last line. It stays one exactly when all of its lines fit. Descriptions are cut into lines before, so they
can only end the comment; a tag is written as one line, whatever its text is.
-/

namespace SoapClasses

/-- The comment ends with its text and nowhere before, and each line of the text starts as a line of a
comment does. -/
structure DocBlock.StaysInside (doc : DocBlock) (indent : String) : Prop where
  ends_once : occurrences commentEnd (doc.render indent).toList = 1
  ends_last : ∃ front, doc.render indent = front ++ "*/\n"
  starts : ∀ line ∈ textLines (doc.render indent), StartsComment indent line.toList

section

variable {indent : String} (hindent : ∀ c ∈ indent.toList, c = ' ')
include hindent

theorem startsComment_dropReturn_iff (line : List Char) :
    StartsComment indent (dropReturn line) ↔ StartsComment indent line := by
  have hreturn : ∀ mark : String, '\r' ∉ mark.toList → '\r' ∉ (indent ++ mark).toList := by
    intro mark hmark hmem
    rw [String.toList_append, List.mem_append] at hmem
    rcases hmem with hmem | hmem
    · exact absurd (hindent _ hmem) (by decide)
    · exact hmark hmem
  rw [StartsComment, StartsComment, prefix_dropReturn_iff (hreturn "/**" (by decide)),
    prefix_dropReturn_iff (hreturn " *" (by decide))]

/-- A line that is put behind a star has the star in front of its first piece only. -/
theorem startsComment_starLine_iff (line : String) :
    (∀ piece ∈ piecesOf (· == '\n') (indent ++ DocBlock.starLine line).toList,
      StartsComment indent piece) ↔
    ∀ piece ∈ (piecesOf (· == '\n') line.toList).tail, StartsComment indent piece := by
  obtain ⟨star, hstar, hline⟩ := DocBlock.exists_toList_starLine indent line
  have hfree : ∀ c ∈ (indent ++ " *").toList ++ star, (c == '\n') = false := by
    intro c hmem
    rw [String.toList_append, List.mem_append, List.mem_append] at hmem
    rcases hmem with (hmem | hmem) | hmem
    · rw [hindent c hmem]
      rfl
    · revert c
      decide
    · rcases hstar with ⟨rfl, -⟩ | rfl
      · cases hmem
      · rw [List.mem_singleton.mp hmem]
        rfl
  obtain ⟨head, tail, hp⟩ := List.exists_cons_of_ne_nil (piecesOf_ne_nil (· == '\n') line.toList)
  rw [hline, ← List.append_assoc, piecesOf_append_of_none hfree, hp, List.modifyHead_cons,
    List.forall_mem_cons, List.tail_cons]
  apply and_iff_right
  rw [List.append_assoc]
  exact .inr (List.prefix_append _ _)

namespace DocBlock

variable (doc : DocBlock)

theorem starts_iff : (∀ line ∈ textLines (doc.render indent), StartsComment indent line.toList) ↔
    ∀ block ∈ doc.sections, ∀ line ∈ block,
      ∀ piece ∈ (piecesOf (· == '\n') line.toList).tail, StartsComment indent piece := by
  have hmargin : ∀ mark : String, (∀ c ∈ mark.toList, (c == '\n') = false) →
      piecesOf (· == '\n') (indent ++ mark).toList = [(indent ++ mark).toList] := by
    intro mark hmark
    apply piecesOf_of_none
    intro c hmem
    rw [String.toList_append, List.mem_append] at hmem
    rcases hmem with hmem | hmem
    · rw [hindent c hmem]
      rfl
    · exact hmark c hmem
  have hfirst : StartsComment indent (indent ++ "/**").toList := .inl List.prefix_rfl
  have hlast : StartsComment indent (indent ++ " */").toList :=
    .inr ⟨['/'], by simp⟩
  rw [render, textLines_unlines]
  simp only [List.forall_mem_flatMap, List.forall_mem_map, String.toList_ofList,
    startsComment_dropReturn_iff hindent, lines, List.forall_mem_cons, List.forall_mem_append,
    List.forall_mem_map, startsComment_starLine_iff hindent]
  rw [hmargin "/**" (by decide), hmargin " */" (by decide)]
  simp only [List.forall_mem_singleton, hfirst, hlast, true_and, and_true, List.not_mem_nil,
    false_implies, implies_true]
  exact forall_mem_spacedBlocks (fun piece hmem => absurd hmem List.not_mem_nil)

omit hindent in
theorem occurrences_starLine (line : String) :
    occurrences commentEnd (starLine line).toList = occurrences commentEnd line.toList := by
  unfold starLine
  split
  · rename_i hempty
    rw [beq_iff_eq.mp hempty]
    decide
  · have hchars : (" * " ++ line).toList = [' ', '*'] ++ ' ' :: line.toList := by simp
    have hstar : occurrences commentEnd [' ', '*'] = 0 := by decide
    rw [hchars, occurrences_append_cons commentEnd_ne_nil (by decide), hstar, Nat.zero_add]

theorem occurrences_render : occurrences commentEnd (doc.render indent).toList =
    ((spacedBlocks doc.sections).map (fun line => occurrences commentEnd line.toList)).sum + 1 := by
  have hspace : ∀ c ∈ indent.toList, c ∉ commentEnd := by
    intro c hmem
    rw [hindent c hmem]
    decide
  have hfirst : occurrences commentEnd "/**".toList = 0 := by decide
  have hlast : occurrences commentEnd " */".toList = 1 := by decide
  rw [render, occurrences_unlines commentEnd_ne_nil not_feed_commentEnd, List.map_map]
  simp only [Function.comp_def, String.toList_append,
    occurrences_append_left commentEnd_ne_nil hspace, lines, List.map_cons, List.map_append,
    List.map_map, occurrences_starLine, List.sum_cons, List.sum_append, List.map_nil,
    List.sum_nil, hfirst, hlast, Nat.zero_add, Nat.add_zero]

omit hindent in
theorem exists_render_eq (indent : String) : ∃ front, doc.render indent = front ++ "*/\n" := by
  refine ⟨unlines (("/**" :: (spacedBlocks doc.sections).map starLine).map (indent ++ ·)) ++
    (indent ++ " "), ?_⟩
  rw [render, lines, ← List.cons_append, List.map_append, unlines_append, String.append_assoc]
  simp [unlines, String.append_assoc]

/-- The comment stays a comment exactly when all lines of its parts fit. -/
theorem staysInside_iff : doc.StaysInside indent ↔
    ∀ block ∈ doc.sections, ∀ line ∈ block, FitsComment indent line := by
  have hends : occurrences commentEnd (doc.render indent).toList = 1 ↔
      ∀ block ∈ doc.sections, ∀ line ∈ block, ¬ commentEnd <:+: line.toList := by
    rw [occurrences_render hindent, Nat.add_eq_right, List.sum_eq_zero_iff_forall_eq_nat,
      List.forall_mem_map]
    simp only [occurrences_eq_zero_iff]
    exact forall_mem_spacedBlocks (by decide)
  constructor
  · rintro ⟨honce, -, hstarts⟩ block hblock line hline
    exact ⟨hends.mp honce block hblock line hline,
      (starts_iff hindent doc).mp hstarts block hblock line hline⟩
  · intro hfits
    refine ⟨hends.mpr ?_, doc.exists_render_eq indent, (starts_iff hindent doc).mpr ?_⟩
    · exact fun block hblock line hline => (hfits block hblock line hline).open_ended
    · exact fun block hblock line hline => (hfits block hblock line hline).continued

end DocBlock

end

/-! ## Parts of a doc block -/

section

variable {indent : String} (hindent : ∀ c ∈ indent.toList, c = ' ')

namespace DocBlock

variable (doc : DocBlock)

theorem fitsComment_tagLine_iff {name : String} (h : IsPlainText name) (description : String) :
    FitsComment indent (tagLine ⟨name, description⟩) ↔ FitsComment indent description := by
  have hat : IsPlainText ("@" ++ name) := (isPlainText_append _ _).mpr ⟨by decide, h⟩
  unfold tagLine
  split
  · rename_i hempty
    have hnone : description = "" := beq_iff_eq.mp hempty
    rw [hnone]
    exact iff_of_true (fitsComment_of_isPlainText hat) (fitsComment_of_isPlainText (by decide))
  · exact fitsComment_append_left ((isPlainText_append _ _).mpr ⟨hat, by decide⟩)

theorem forall_visibleText_iff (text : String) :
    (∀ shown, visibleText text = some shown → ¬ commentEnd <:+: shown.toList) ↔
      ¬ commentEnd <:+: text.toList := by
  unfold visibleText
  split
  · rename_i hblank
    refine iff_of_true (fun shown hshown => absurd hshown (Option.some_ne_none shown).symm) ?_
    intro hends
    have hstar := List.all_eq_true.mp hblank '*' (hends.subset List.mem_cons_self)
    exact absurd hstar (by decide)
  · exact ⟨fun h => h text rfl, fun h shown hshown => Option.some.inj hshown ▸ h⟩

include hindent

/-- Descriptions can disturb the comment by its end, tags also by what follows a line feed. -/
theorem staysInside_iff_parts : doc.StaysInside indent ↔
    (∀ text, doc.summary = some text → ¬ commentEnd <:+: text.toList) ∧
    (∀ text, doc.details = some text → ¬ commentEnd <:+: text.toList) ∧
    ∀ tag ∈ doc.tags, FitsComment indent (tagLine tag) := by
  have htags : (∀ block ∈ (if doc.tags.isEmpty then [] else [doc.tags.map tagLine]), ∀ line ∈ block,
      FitsComment indent line) ↔ ∀ tag ∈ doc.tags, FitsComment indent (tagLine tag) := by
    rw [← List.forall_mem_map (P := fun line => FitsComment indent line)]
    cases doc.tags <;> simp
  have htext : ∀ text : Option String, (∀ block ∈ (text.map textLines).toList, ∀ line ∈ block,
      FitsComment indent line) ↔ ∀ shown, text = some shown → ¬ commentEnd <:+: shown.toList := by
    intro text
    cases text with
    | none => simp
    | some shown => simp [← @fitsComment_textLines_iff indent]
  rw [staysInside_iff hindent, sections, List.forall_mem_append, List.forall_mem_append, htags,
    htext doc.summary, htext doc.details, and_assoc]

theorem staysInside_withSummary_empty_iff (text : String) :
    (empty.withSummary text).StaysInside indent ↔ ¬ commentEnd <:+: text.toList := by
  rw [staysInside_iff_parts hindent, ← forall_visibleText_iff text]
  refine and_iff_left ⟨?_, fun tag hmem => absurd hmem List.not_mem_nil⟩
  exact fun shown hshown => absurd hshown (Option.some_ne_none shown).symm

theorem staysInside_empty : empty.StaysInside indent :=
  (staysInside_withSummary_empty_iff hindent "").mpr (by decide)

theorem staysInside_withDetails_iff (hnone : doc.details = none) (text : String) :
    (doc.withDetails text).StaysInside indent ↔
      doc.StaysInside indent ∧ ¬ commentEnd <:+: text.toList := by
  rw [staysInside_iff_parts hindent, staysInside_iff_parts hindent, hnone,
    ← forall_visibleText_iff text]
  simp only [withDetails, reduceCtorEq, false_implies, implies_true, true_and]
  rw [and_assoc]
  exact and_congr_right (fun _ => and_comm)

theorem staysInside_withTag_iff {name : String} (hname : IsPlainText name) (description : String) :
    (doc.withTag name description).StaysInside indent ↔
      doc.StaysInside indent ∧ FitsComment indent description := by
  rw [staysInside_iff_parts hindent, staysInside_iff_parts hindent]
  simp only [withTag, List.forall_mem_append, List.forall_mem_singleton,
    fitsComment_tagLine_iff hname]
  rw [and_assoc, and_assoc]

end DocBlock

end

end SoapClasses
