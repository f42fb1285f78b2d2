import SoapClasses.Proofs.TextPieceLaws

/-!
# Laws of joining text

Cutting a text at a separator and joining texts with it are inverse to each other, as long as the
joined texts are free of the separator and there is at least one of them. In the same way the lines of
a text are the texts that were joined with line feeds.
-/

namespace SoapClasses

theorem joinText_cons_cons (separator text next : String) (rest : List String) :
    joinText separator (text :: next :: rest) =
      text ++ separator ++ joinText separator (next :: rest) := rfl

theorem joinText_append_head (separator front text : String) (rest : List String) :
    joinText separator ((front ++ text) :: rest) = front ++ joinText separator (text :: rest) := by
  cases rest with
  | nil => rfl
  | cons next rest => simp only [joinText_cons_cons, String.append_assoc]

theorem joinText_concat (separator last : String) {texts : List String} (h : texts ≠ []) :
    joinText separator (texts ++ [last]) = joinText separator texts ++ separator ++ last := by
  induction texts with
  | nil => exact absurd rfl h
  | cons text rest ih =>
    cases rest with
    | nil => rfl
    | cons next rest =>
      have hrest := ih (List.cons_ne_nil next rest)
      simp only [List.cons_append, joinText_cons_cons] at hrest ⊢
      rw [hrest]
      simp only [String.append_assoc]

theorem mem_of_mem_joinText {separator : String} {texts : List String} {c : Char}
    (h : c ∈ (joinText separator texts).toList) :
    c ∈ separator.toList ∨ ∃ text ∈ texts, c ∈ text.toList := by
  induction texts with
  | nil => simp [joinText] at h
  | cons text rest ih =>
    cases rest with
    | nil => exact .inr ⟨text, List.mem_cons_self, h⟩
    | cons next rest =>
      rw [joinText_cons_cons, String.toList_append, String.toList_append, List.mem_append,
        List.mem_append] at h
      rcases h with (h | h) | h
      · exact .inr ⟨text, List.mem_cons_self, h⟩
      · exact .inl h
      · exact (ih h).imp_right (fun ⟨other, hother, hc⟩ =>
          ⟨other, List.mem_cons_of_mem _ hother, hc⟩)

section

variable {isSeparator : Char → Bool} {separator : String} {c : Char}

/-- The pieces of texts that are joined with a separator, when the texts are free of separators. -/
theorem piecesOf_joinText (hseparator : separator.toList = [c]) (hc : isSeparator c = true)
    {texts : List String} (hne : texts ≠ [])
    (hfree : ∀ text ∈ texts, ∀ d ∈ text.toList, isSeparator d = false) :
    piecesOf isSeparator (joinText separator texts).toList = texts.map String.toList := by
  induction texts with
  | nil => exact absurd rfl hne
  | cons text rest ih =>
    have hone : piecesOf isSeparator text.toList = [text.toList] :=
      piecesOf_of_none (hfree text List.mem_cons_self)
    cases rest with
    | nil => exact hone
    | cons next rest =>
      have hrest := ih (List.cons_ne_nil next rest)
        (fun other hmem => hfree other (List.mem_cons_of_mem _ hmem))
      have hchars : (joinText separator (text :: next :: rest)).toList =
          text.toList ++ c :: (joinText separator (next :: rest)).toList := by
        simp [joinText_cons_cons, hseparator]
      rw [hchars, piecesOf_append_cons hc, hone, hrest]
      rfl

theorem splitText_joinText (hseparator : separator.toList = [c]) (hc : isSeparator c = true)
    {texts : List String} (hne : texts ≠ [])
    (hfree : ∀ text ∈ texts, ∀ d ∈ text.toList, isSeparator d = false) :
    splitText isSeparator (joinText separator texts) = texts := by
  rw [splitText, piecesOf_joinText hseparator hc hne hfree, List.map_map]
  simp [Function.comp_def]

theorem splitText_ne_nil (isSeparator : Char → Bool) (text : String) :
    splitText isSeparator text ≠ [] := by
  simpa [splitText] using piecesOf_ne_nil isSeparator text.toList

/-- Joining the pieces of a text with the one character it was cut at gives the text back. -/
theorem joinText_splitText (hseparator : separator.toList = [c])
    (honly : ∀ d, isSeparator d = true → d = c) (text : String) :
    joinText separator (splitText isSeparator text) = text := by
  suffices h : ∀ chars : List Char,
      joinText separator ((piecesOf isSeparator chars).map String.ofList) = String.ofList chars by
    have htext := h text.toList
    rwa [String.ofList_toList] at htext
  intro chars
  induction chars with
  | nil => rfl
  | cons d rest ih =>
    obtain ⟨piece, pieces, hp⟩ := List.exists_cons_of_ne_nil (piecesOf_ne_nil isSeparator rest)
    rw [hp, List.map_cons] at ih
    cases hd : isSeparator d with
    | true =>
      have hsingle : separator = String.ofList [d] := by
        rw [honly d hd, ← hseparator, String.ofList_toList]
      simp only [piecesOf, hd, if_true, hp, List.map_cons, joinText_cons_cons, ih]
      rw [hsingle, ← String.ofList_append, ← String.ofList_append]
      rfl
    | false =>
      have hfront : String.ofList (d :: piece) = String.ofList [d] ++ String.ofList piece := by
        rw [← String.ofList_append]
        rfl
      simp only [piecesOf, hd, Bool.false_eq_true, if_false, hp, List.map_cons]
      rw [hfront, joinText_append_head, ih, ← String.ofList_append]
      rfl

end

/-- Pieces are lines when none of them ends in a carriage return and the last one is not empty. -/
theorem linesOfPieces_eq {pieces : List (List Char)}
    (hreturn : ∀ piece ∈ pieces, piece.getLast? ≠ some '\r') (hlast : pieces.getLast? ≠ some []) :
    linesOfPieces pieces = pieces := by
  induction pieces with
  | nil => rfl
  | cons piece rest ih =>
    cases rest with
    | nil =>
      have hne : piece ≠ [] := by simpa using hlast
      simp [linesOfPieces, hne]
    | cons next rest =>
      rw [List.getLast?_cons_cons] at hlast
      have hrest := ih (fun other hmem => hreturn other (List.mem_cons_of_mem _ hmem)) hlast
      rw [linesOfPieces, hrest, dropReturn_of_getLast? (hreturn piece List.mem_cons_self)]

theorem textLines_joinText {lines : List String} (hne : lines ≠ [])
    (hfeed : ∀ line ∈ lines, '\n' ∉ line.toList)
    (hreturn : ∀ line ∈ lines, line.toList.getLast? ≠ some '\r')
    (hlast : lines.getLast? ≠ some "") : textLines (joinText "\n" lines) = lines := by
  have hfree : ∀ line ∈ lines, ∀ d ∈ line.toList, (d == '\n') = false := by
    intro line hmem d hd
    simpa using fun hdn : d = '\n' => hfeed line hmem (hdn ▸ hd)
  have hpieces : piecesOf (· == '\n') (joinText "\n" lines).toList = lines.map String.toList :=
    piecesOf_joinText rfl rfl hne hfree
  rw [textLines, hpieces, linesOfPieces_eq, List.map_map]
  · simp [Function.comp_def]
  · intro piece hmem
    obtain ⟨line, hline, rfl⟩ := List.mem_map.mp hmem
    exact hreturn line hline
  · rw [List.getLast?_map]
    intro heq
    obtain ⟨line, hline, hempty⟩ := Option.map_eq_some_iff.mp heq
    rw [String.toList_eq_nil_iff.mp hempty] at hline
    exact hlast hline

theorem linesOfPieces_append (pieces : List (List Char)) {rest : List (List Char)} (h : rest ≠ []) :
    linesOfPieces (pieces ++ rest) = pieces.map dropReturn ++ linesOfPieces rest := by
  induction pieces with
  | nil => rfl
  | cons piece pieces ih =>
    obtain ⟨next, others, hnext⟩ := List.exists_cons_of_ne_nil (List.append_ne_nil_of_right_ne_nil pieces h)
    rw [List.cons_append, hnext, linesOfPieces, ← hnext, ih]
    rfl

theorem unlines_append (first next : List String) :
    unlines (first ++ next) = unlines first ++ unlines next := by
  induction first with
  | nil => exact (String.empty_append).symm
  | cons line rest ih => simp only [List.cons_append, unlines, ih, String.append_assoc]

/-- Texts that are joined with line feeds are lines, the last one apart. -/
theorem joinText_feed_append (lines : List String) {rest : List String} (h : rest ≠ []) :
    joinText "\n" (lines ++ rest) = unlines lines ++ joinText "\n" rest := by
  induction lines with
  | nil => exact String.empty_append.symm
  | cons line lines ih =>
    obtain ⟨next, others, hnext⟩ :=
      List.exists_cons_of_ne_nil (List.append_ne_nil_of_right_ne_nil lines h)
    rw [List.cons_append, hnext, joinText_cons_cons, ← hnext, ih, unlines]
    simp only [String.append_assoc]

/-- Texts that each end in a line feed have the lines of each of them. -/
theorem textLines_unlines (lines : List String) : textLines (unlines lines) =
    lines.flatMap (fun line =>
      (piecesOf (· == '\n') line.toList).map (fun piece => String.ofList (dropReturn piece))) := by
  induction lines with
  | nil => rfl
  | cons line rest ih =>
    have hchars : (unlines (line :: rest)).toList = line.toList ++ '\n' :: (unlines rest).toList := by
      simp [unlines]
    rw [textLines, hchars, piecesOf_append_cons (by rfl), linesOfPieces_append _ (piecesOf_ne_nil _ _),
      List.map_append, List.map_map, List.flatMap_cons, ← ih]
    rfl

theorem splitText_unlines (lines : List String) : splitText (· == '\n') (unlines lines) =
    lines.flatMap (splitText (· == '\n')) ++ [""] := by
  induction lines with
  | nil => rfl
  | cons line rest ih =>
    have hchars : (unlines (line :: rest)).toList = line.toList ++ '\n' :: (unlines rest).toList := by
      simp [unlines]
    rw [splitText, hchars, piecesOf_append_cons (by rfl), List.map_append, List.flatMap_cons,
      List.append_assoc, ← ih]
    rfl

theorem splitText_of_noFeed {line : String} (h : '\n' ∉ line.toList) :
    splitText (· == '\n') line = [line] := by
  have hfree : ∀ c ∈ line.toList, (c == '\n') = false := by
    intro c hc
    simpa using fun heq : c = '\n' => h (heq ▸ hc)
  rw [splitText, piecesOf_of_none hfree, List.map_singleton, String.ofList_toList]

theorem flatMap_splitText_of_noFeed {lines : List String} (h : ∀ line ∈ lines, '\n' ∉ line.toList) :
    lines.flatMap (splitText (· == '\n')) = lines := by
  induction lines with
  | nil => rfl
  | cons line rest ih =>
    obtain ⟨hline, hrest⟩ := List.forall_mem_cons.mp h
    rw [List.flatMap_cons, splitText_of_noFeed hline, ih hrest]
    rfl

theorem exists_prefix_of_mem_linesOfPieces {pieces : List (List Char)} {line : List Char}
    (h : line ∈ linesOfPieces pieces) : ∃ piece ∈ pieces, line <+: piece := by
  induction pieces with
  | nil => cases h
  | cons piece rest ih =>
    cases rest with
    | nil =>
      simp only [linesOfPieces] at h
      split at h
      · cases h
      · exact ⟨line, h, List.prefix_rfl⟩
    | cons next rest =>
      rcases List.mem_cons.mp h with rfl | hmem
      · exact ⟨piece, List.mem_cons_self, dropReturn_prefix piece⟩
      · obtain ⟨other, hother, hfront⟩ := ih hmem
        exact ⟨other, List.mem_cons_of_mem _ hother, hfront⟩

/-- No line of a text has a line feed in it. -/
theorem not_feed_of_mem_textLines {text line : String} (h : line ∈ textLines text) :
    '\n' ∉ line.toList := by
  obtain ⟨chars, hchars, rfl⟩ := List.mem_map.mp h
  obtain ⟨piece, hpiece, hfront⟩ := exists_prefix_of_mem_linesOfPieces hchars
  rw [String.toList_ofList]
  intro hmem
  simpa using not_separator_of_mem_piecesOf hpiece _ (hfront.subset hmem)

/-- The lines of spaced blocks are those of the blocks, and empty ones. -/
theorem forall_mem_spacedBlocks {P : String → Prop} (h : P "") {blocks : List (List String)} :
    (∀ line ∈ spacedBlocks blocks, P line) ↔ ∀ block ∈ blocks, ∀ line ∈ block, P line := by
  unfold spacedBlocks
  induction blocks with
  | nil => simp
  | cons block rest ih =>
    cases rest with
    | nil => simp
    | cons next rest =>
      rw [List.intersperse_cons_cons, List.flatten_cons, List.flatten_cons, List.forall_mem_append,
        List.forall_mem_append, ih, List.forall_mem_singleton]
      rw [and_iff_right h, List.forall_mem_cons (a := block)]

end SoapClasses
