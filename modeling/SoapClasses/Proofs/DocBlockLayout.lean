import Mathlib.Data.List.Basic
import SoapClasses.DocBlocks
import SoapClasses.Proofs.JoinedTexts

/-!
# Layout of doc blocks

The lines of a written doc block can be read back: what stands behind the stars are the lines of the
summary, of the longer description and of the tags, as far as the doc block has them, with one empty line
between two of these parts. A doc block that has been built has no blank text, so a part that is present has
a line at least, and an empty line stands between parts only or is one of a description.
-/

namespace SoapClasses

def withoutSpace : List Char → List Char
  | ' ' :: rest => rest
  | text => text

/-- What a line of a comment says: the text behind its star, without one space in front. -/
def commentContent (indent line : String) : Option String :=
  (line.toList.dropPrefix? (indent ++ " *").toList).map fun behind =>
    String.ofList (withoutSpace behind)

namespace DocBlock

/-- The doc blocks that are built from the empty one, part by part. -/
inductive IsBuilt : DocBlock → Prop
  | empty : IsBuilt .empty
  | withSummary {doc : DocBlock} (h : doc.IsBuilt) (text : String) : IsBuilt (doc.withSummary text)
  | withDetails {doc : DocBlock} (h : doc.IsBuilt) (text : String) : IsBuilt (doc.withDetails text)
  | withTag {doc : DocBlock} (h : doc.IsBuilt) (name description : String) :
      IsBuilt (doc.withTag name description)

/-- The lines of the summary, of the longer description and of the tags; what is absent has none. -/
def parts (doc : DocBlock) : List (List String) :=
  [textLines (doc.summary.getD ""), textLines (doc.details.getD ""),
    doc.tags.map fun tag =>
      if tag.description = "" then "@" ++ tag.name else "@" ++ tag.name ++ " " ++ tag.description]

/-- The lines of the parts that have any, with one empty line between neighbours. -/
def contentLines (doc : DocBlock) : List String :=
  [""].intercalate (doc.parts.filter fun part => !part.isEmpty)

end DocBlock

/-! ## Lines of texts -/

theorem linesOfPieces_eq_nil_iff {pieces : List (List Char)} :
    linesOfPieces pieces = [] ↔ pieces = [] ∨ pieces = [[]] := by
  cases pieces with
  | nil => simp [linesOfPieces]
  | cons piece rest =>
    cases rest with
    | nil => simp [linesOfPieces]
    | cons next rest => simp [linesOfPieces]

theorem textLines_eq_nil_iff {text : String} : textLines text = [] ↔ text = "" := by
  constructor
  · intro h
    have hpieces := linesOfPieces_eq_nil_iff.mp (List.map_eq_nil_iff.mp h)
    have hone := hpieces.resolve_left (piecesOf_ne_nil _ _)
    cases hchars : text.toList with
    | nil => exact String.toList_eq_nil_iff.mp hchars
    | cons c rest =>
      obtain ⟨piece, pieces, hp⟩ := List.exists_cons_of_ne_nil (piecesOf_ne_nil (· == '\n') rest)
      rw [hchars] at hone
      simp only [piecesOf, hp] at hone
      split at hone <;> cases hone
  · rintro rfl
    rfl

/-! ## Lines behind stars -/

namespace DocBlock

variable {doc : DocBlock} {indent : String}

theorem exists_toList_starLine (indent line : String) :
    ∃ space : List Char, (space = [] ∧ line = "" ∨ space = [' ']) ∧
      (indent ++ starLine line).toList = (indent ++ " *").toList ++ (space ++ line.toList) := by
  unfold starLine
  split
  case isTrue hempty => exact ⟨[], .inl ⟨rfl, beq_iff_eq.mp hempty⟩, by simp [beq_iff_eq.mp hempty]⟩
  case isFalse => exact ⟨[' '], .inr rfl, by simp⟩

theorem prefix_starLine (indent line : String) :
    (indent ++ " *").toList <+: (indent ++ starLine line).toList := by
  obtain ⟨space, -, hline⟩ := exists_toList_starLine indent line
  rw [hline]
  exact List.prefix_append _ _

theorem commentContent_starLine (indent line : String) :
    commentContent indent (indent ++ starLine line) = some line := by
  obtain ⟨space, hspace, hline⟩ := exists_toList_starLine indent line
  have hbehind : withoutSpace (space ++ line.toList) = line.toList := by
    rcases hspace with ⟨rfl, rfl⟩ | rfl <;> rfl
  rw [commentContent, hline, List.dropPrefix?_append_of_beq _ BEq.rfl, Option.map_some, hbehind,
    String.ofList_toList]

theorem mapM_commentContent (indent : String) (lines : List String) :
    (lines.map fun line => indent ++ starLine line).mapM (commentContent indent) = some lines := by
  induction lines with
  | nil => rfl
  | cons line rest ih =>
    rw [List.map_cons, List.mapM_cons, commentContent_starLine, ih]
    rfl

/-! ## Parts that are present -/

theorem IsBuilt.not_blank (h : doc.IsBuilt) :
    (∀ text ∈ doc.summary, isBlank text = false) ∧ ∀ text ∈ doc.details, isBlank text = false := by
  have hvisible : ∀ given, ∀ text ∈ visibleText given, isBlank text = false := by
    intro given text hmem
    unfold visibleText at hmem
    split at hmem
    · cases hmem
    · rename_i hblank
      rw [← Option.some.inj hmem]
      exact eq_false_of_ne_true hblank
  induction h with
  | empty => exact ⟨nofun, nofun⟩
  | withSummary _ text ih => exact ⟨hvisible text, ih.2⟩
  | withDetails _ text ih => exact ⟨ih.1, hvisible text⟩
  | withTag _ _ _ ih => exact ih

/-- A description that is not blank is present exactly when it has lines. -/
theorem toList_textLines {description : Option String}
    (h : ∀ text ∈ description, isBlank text = false) :
    (description.map textLines).toList =
      [textLines (description.getD "")].filter fun part => !part.isEmpty := by
  cases description with
  | none => rfl
  | some text =>
    have hne : textLines text ≠ [] := by
      intro hnil
      have hblank := h text rfl
      rw [textLines_eq_nil_iff.mp hnil] at hblank
      cases hblank
    simp [hne]

theorem parts_eq (doc : DocBlock) : doc.parts =
    [textLines (doc.summary.getD ""), textLines (doc.details.getD ""), doc.tags.map tagLine] := by
  simp [parts, tagLine]

theorem IsBuilt.sections_eq (h : doc.IsBuilt) :
    doc.sections = doc.parts.filter fun part => !part.isEmpty := by
  have htags : (if doc.tags.isEmpty then [] else [doc.tags.map tagLine]) =
      [doc.tags.map tagLine].filter fun part => !part.isEmpty := by
    cases doc.tags <;> rfl
  obtain ⟨hsummary, hdetails⟩ := h.not_blank
  rw [sections, toList_textLines hsummary, toList_textLines hdetails, htags, ← List.filter_append,
    ← List.filter_append, parts_eq]
  rfl

theorem not_feed_tagLine {tag : DocTag} (hname : '\n' ∉ tag.name.toList)
    (hdescription : '\n' ∉ tag.description.toList) : '\n' ∉ (tagLine tag).toList := by
  unfold tagLine
  split <;> simp [hname, hdescription]

theorem forall_mem_lines {P : String → Prop} (hplain : ∀ line : String, '\n' ∉ line.toList → P line)
    (hstar : ∀ line, P line → P (starLine line)) (htags : ∀ tag ∈ doc.tags, P (tagLine tag)) :
    ∀ line ∈ doc.lines, P line := by
  have hdescription : ∀ description : Option String, ∀ block ∈ (description.map textLines).toList,
      ∀ line ∈ block, P line := by
    intro description block hblock line hline
    obtain ⟨text, _, rfl⟩ := Option.map_eq_some_iff.mp (Option.mem_toList.mp hblock)
    exact hplain line (not_feed_of_mem_textLines hline)
  have hsections : ∀ block ∈ doc.sections, ∀ line ∈ block, P line := by
    intro block hblock line hline
    rcases List.mem_append.mp hblock with hblock | hblock
    · exact (List.mem_append.mp hblock).elim (hdescription _ block · line hline)
        (hdescription _ block · line hline)
    · split at hblock
      · cases hblock
      · rw [List.mem_singleton.mp hblock] at hline
        obtain ⟨tag, htag, rfl⟩ := List.mem_map.mp hline
        exact htags tag htag
  have hblocks := (forall_mem_spacedBlocks (hplain "" (by decide))).mpr hsections
  rw [lines, List.forall_mem_cons, List.forall_mem_append, List.forall_mem_map, List.forall_mem_singleton]
  exact ⟨hplain _ (by decide), fun line hmem => hstar line (hblocks line hmem), hplain _ (by decide)⟩

theorem not_feed_of_mem_lines (hindent : '\n' ∉ indent.toList)
    (htags : ∀ tag ∈ doc.tags, '\n' ∉ tag.name.toList ∧ '\n' ∉ tag.description.toList) :
    ∀ line ∈ doc.lines.map (indent ++ ·), '\n' ∉ line.toList := by
  have hstar : ∀ line : String, '\n' ∉ line.toList → '\n' ∉ (starLine line).toList := by
    intro line hline
    unfold starLine
    split <;> simp [hline]
  have hlines := forall_mem_lines (fun _ hline => hline) hstar
    (fun tag htag => not_feed_tagLine (htags tag htag).1 (htags tag htag).2)
  rw [List.forall_mem_map]
  intro line hmem
  rw [String.toList_append, List.mem_append, not_or]
  exact ⟨hindent, hlines line hmem⟩

/-- A built doc block whose tags have no line feeds is written as the first line of a comment, one line
behind a star for each line of its parts and between them, and the last line of the comment. -/
theorem splitText_render_of_isBuilt (h : doc.IsBuilt) (hindent : '\n' ∉ indent.toList)
    (htags : ∀ tag ∈ doc.tags, '\n' ∉ tag.name.toList ∧ '\n' ∉ tag.description.toList) :
    ∃ middle, splitText (· == '\n') (doc.render indent) =
        (indent ++ "/**") :: (middle ++ [indent ++ " */", ""]) ∧
      (∀ line ∈ middle, (indent ++ " *").toList <+: line.toList) ∧
      middle.mapM (commentContent indent) = some doc.contentLines := by
  refine ⟨(spacedBlocks doc.sections).map fun line => indent ++ starLine line, ?_, ?_, ?_⟩
  · rw [render, splitText_unlines, flatMap_splitText_of_noFeed (not_feed_of_mem_lines hindent htags), lines]
    simp
  · rw [List.forall_mem_map]
    exact fun line _ => prefix_starLine indent line
  · rw [mapM_commentContent, contentLines, ← h.sections_eq]
    rfl

/-- A summary of three lines, the middle one empty, a description with nothing to see, and a tag. -/
def ofSpacedSummary : DocBlock :=
  ((empty.withSummary "Finds a user\r\n\n  by name").withDetails " \n").withTag "return" "User"

/-- The empty line of the summary is read back as well as the one in front of the tag, and nothing is left
of the description. -/
theorem splitText_render_ofSpacedSummary :
    ofSpacedSummary.IsBuilt ∧ '\n' ∉ "    ".toList ∧
      (∀ tag ∈ ofSpacedSummary.tags, '\n' ∉ tag.name.toList ∧ '\n' ∉ tag.description.toList) ∧
      ∃ middle, splitText (· == '\n') (ofSpacedSummary.render "    ") =
          "    /**" :: (middle ++ ["     */", ""]) ∧
        (∀ line ∈ middle, "     *".toList <+: line.toList) ∧
        middle.mapM (commentContent "    ") =
          some ["Finds a user", "", "  by name", "", "@return User"] := by
  have hbuilt : ofSpacedSummary.IsBuilt := ((IsBuilt.empty.withSummary _).withDetails _).withTag _ _
  have hindent : '\n' ∉ "    ".toList := by decide
  have htags : ∀ tag ∈ ofSpacedSummary.tags, '\n' ∉ tag.name.toList ∧ '\n' ∉ tag.description.toList := by
    decide
  have hread := splitText_render_of_isBuilt hbuilt hindent htags
  have hcontent : ofSpacedSummary.contentLines =
      ["Finds a user", "", "  by name", "", "@return User"] := by
    decide +kernel
  rw [hcontent] at hread
  exact ⟨hbuilt, hindent, htags, hread⟩

end DocBlock

end SoapClasses
