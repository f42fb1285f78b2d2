import SoapClasses.Proofs.TextMarks

/-!
# Substitution of several patterns

Several patterns are replaced in one pass over a text, or in one pass for each of them. A later pass also
goes over what the earlier ones have put in, so in general the outcomes differ. They are the same, and the
order of the passes does not matter, when no pattern can begin in another one or in a replacement, and when
apart from the patterns themselves the text has only parts in which none can begin.
-/

namespace SoapClasses

/-- Replaces the occurrences of all patterns in one pass over the text, from left to right. The counter is
the number of characters that still belong to the last occurrence found. -/
def substituteFrom (bindings : List (List Char × List Char)) : Nat → List Char → List Char
  | _, [] => []
  | pending + 1, _ :: rest => substituteFrom bindings pending rest
  | 0, c :: rest =>
    match bindings.find? (fun binding => binding.1.isPrefixOf (c :: rest)) with
    | some binding => binding.2 ++ substituteFrom bindings (binding.1.length - 1) rest
    | none => c :: substituteFrom bindings 0 rest

/-- The text with the occurrences of all patterns replaced at once. -/
def substituteText (bindings : List (String × String)) (text : String) : String :=
  String.ofList (substituteFrom (bindings.map (fun binding => (binding.1.toList, binding.2.toList))) 0
    text.toList)

/-- The patterns are replaced one after the other, each in the whole text. -/
def replaceInTurn (bindings : List (List Char × List Char)) (text : List Char) : List Char :=
  bindings.foldl (fun text binding => replaceFrom binding.1 binding.2 0 text) text

/-- No pattern can begin in another one or in a replacement. -/
structure CaptureFree (bindings : List (List Char × List Char)) : Prop where
  ne_nil : ∀ binding ∈ bindings, binding.1 ≠ []
  patterns_clear : ∀ binding ∈ bindings, ∀ other ∈ bindings, other ≠ binding → ClearOf other.1 binding.1
  replacements_clear : ∀ binding ∈ bindings, ∀ other ∈ bindings, ClearOf other.1 binding.2

/-- A text is made of patterns and of plain parts in which no pattern begins, and the result has the same
plain parts, with the replacements between them. -/
inductive FillsIn (bindings : List (List Char × List Char)) : List Char → List Char → Prop
  | nil : FillsIn bindings [] []
  | plain {front text result : List Char} (hclear : ∀ binding ∈ bindings, ClearOf binding.1 front)
    (h : FillsIn bindings text result) : FillsIn bindings (front ++ text) (front ++ result)
  | pattern {binding : List Char × List Char} {text result : List Char} (hmem : binding ∈ bindings)
    (h : FillsIn bindings text result) : FillsIn bindings (binding.1 ++ text) (binding.2 ++ result)

variable {bindings others : List (List Char × List Char)} {binding : List Char × List Char}
  {mark front text result : List Char}

/-! ## One pass -/

theorem substituteFrom_append (h : ∀ binding ∈ bindings, ClearOf binding.1 front) (text : List Char) :
    substituteFrom bindings 0 (front ++ text) = front ++ substituteFrom bindings 0 text := by
  induction front with
  | nil => rfl
  | cons c front ih =>
    have hnone : bindings.find? (fun binding => binding.1.isPrefixOf (c :: (front ++ text))) = none := by
      rw [List.find?_eq_none]
      intro binding hmem hprefix
      exact (clearOf_cons_iff.mp (h binding hmem)).1 text (List.isPrefixOf_iff_prefix.mp hprefix)
    have hrest := ih fun binding hmem => (clearOf_cons_iff.mp (h binding hmem)).2
    rw [List.cons_append, substituteFrom, hnone]
    exact congrArg (c :: ·) hrest

/-- What still belongs to an occurrence is passed over. -/
theorem substituteFrom_pending (bindings : List (List Char × List Char)) (passed text : List Char) :
    substituteFrom bindings passed.length (passed ++ text) = substituteFrom bindings 0 text := by
  induction passed with
  | nil => rfl
  | cons c passed ih => rw [List.length_cons, List.cons_append, substituteFrom, ih]

theorem substituteFrom_pattern (hne : binding.1 ≠ [])
    (hfind : bindings.find? (fun other => other.1.isPrefixOf (binding.1 ++ text)) = some binding) :
    substituteFrom bindings 0 (binding.1 ++ text) = binding.2 ++ substituteFrom bindings 0 text := by
  obtain ⟨c, rest, hpattern⟩ := List.exists_cons_of_ne_nil hne
  rw [hpattern, List.cons_append] at hfind
  rw [hpattern, List.cons_append, substituteFrom, hfind]
  show binding.2 ++ substituteFrom bindings (binding.1.length - 1) (rest ++ text) = _
  rw [hpattern, List.length_cons, Nat.add_sub_cancel, substituteFrom_pending]

theorem CaptureFree.find?_eq (h : CaptureFree bindings) (hmem : binding ∈ bindings) (text : List Char) :
    bindings.find? (fun other => other.1.isPrefixOf (binding.1 ++ text)) = some binding := by
  have honly : ∀ other ∈ bindings, other.1 <+: binding.1 ++ text → other = binding := by
    intro other hother hprefix
    by_contra hne
    have hclear := h.patterns_clear binding hmem other hother hne
    exact hclear [] binding.1 rfl (h.ne_nil binding hmem) text hprefix
  cases hfind : bindings.find? (fun other => other.1.isPrefixOf (binding.1 ++ text)) with
  | none =>
    have hself := List.find?_eq_none.mp hfind binding hmem
    exact absurd (List.isPrefixOf_iff_prefix.mpr (List.prefix_append _ _)) hself
  | some other =>
    have hfound := (List.find?_eq_some_iff_append.mp hfind).1
    rw [honly other (List.mem_of_find?_eq_some hfind) (List.isPrefixOf_iff_prefix.mp hfound)]

theorem FillsIn.substituteFrom_eq (h : FillsIn bindings text result) (hfree : CaptureFree bindings) :
    substituteFrom bindings 0 text = result := by
  induction h with
  | nil => rfl
  | plain hclear _ ih => rw [substituteFrom_append hclear, ih]
  | pattern hmem _ ih =>
    rw [substituteFrom_pattern (hfree.ne_nil _ hmem) (hfree.find?_eq hmem _), ih]

/-! ## One pass for each pattern -/

theorem replaceFrom_eq_substituteFrom (mark replacement : List Char) (pending : Nat) (text : List Char) :
    replaceFrom mark replacement pending text = substituteFrom [(mark, replacement)] pending text := by
  induction text generalizing pending with
  | nil => cases pending <;> rfl
  | cons c rest ih =>
    cases pending with
    | succ pending => exact ih pending
    | zero =>
      rw [replaceFrom, substituteFrom, List.find?_cons, List.find?_nil]
      cases mark.isPrefixOf (c :: rest) with
      | true => exact congrArg (replacement ++ ·) (ih _)
      | false => exact congrArg (c :: ·) (ih 0)

theorem replaceFrom_append (h : ClearOf mark front) (replacement text : List Char) :
    replaceFrom mark replacement 0 (front ++ text) =
      front ++ replaceFrom mark replacement 0 text := by
  simp only [replaceFrom_eq_substituteFrom]
  exact substituteFrom_append (List.forall_mem_singleton.mpr h) text

theorem replaceFrom_mark (hmark : mark ≠ []) (replacement text : List Char) :
    replaceFrom mark replacement 0 (mark ++ text) =
      replacement ++ replaceFrom mark replacement 0 text := by
  have hfind : [(mark, replacement)].find? (fun other => other.1.isPrefixOf (mark ++ text)) =
      some (mark, replacement) :=
    List.find?_cons_of_pos (List.isPrefixOf_iff_prefix.mpr (List.prefix_append mark text))
  simp only [replaceFrom_eq_substituteFrom]
  exact @substituteFrom_pattern [(mark, replacement)] (mark, replacement) text hmark hfind

theorem CaptureFree.tail (h : CaptureFree (binding :: bindings)) : CaptureFree bindings where
  ne_nil other hmem := h.ne_nil other (List.mem_cons_of_mem _ hmem)
  patterns_clear first hfirst other hother :=
    h.patterns_clear first (List.mem_cons_of_mem _ hfirst) other (List.mem_cons_of_mem _ hother)
  replacements_clear first hfirst other hother :=
    h.replacements_clear first (List.mem_cons_of_mem _ hfirst) other (List.mem_cons_of_mem _ hother)

/-- When one pattern has been replaced, its replacements are plain parts for the others. -/
theorem FillsIn.replaceFrom (h : FillsIn (binding :: bindings) text result)
    (hfree : CaptureFree (binding :: bindings)) :
    FillsIn bindings (replaceFrom binding.1 binding.2 0 text) result := by
  have hfirst : binding ∈ binding :: bindings := List.mem_cons_self
  induction h with
  | nil => exact .nil
  | plain hclear _ ih =>
    rw [replaceFrom_append (hclear binding hfirst)]
    exact .plain (fun other hmem => hclear other (List.mem_cons_of_mem _ hmem)) ih
  | @pattern found text result hmem _ ih =>
    by_cases hsame : found = binding
    · rw [hsame, replaceFrom_mark (hfree.ne_nil binding hfirst)]
      exact .plain (fun other hother =>
        hfree.replacements_clear binding hfirst other (List.mem_cons_of_mem _ hother)) ih
    · have hother := (List.mem_cons.mp hmem).resolve_left hsame
      rw [replaceFrom_append (hfree.patterns_clear found hmem binding hfirst (Ne.symm hsame))]
      exact .pattern hother ih

theorem FillsIn.eq_of_nil (h : FillsIn [] text result) : text = result := by
  induction h with
  | nil => rfl
  | plain _ _ ih => rw [ih]
  | pattern hmem => cases hmem

theorem FillsIn.replaceInTurn_eq (h : FillsIn bindings text result) (hfree : CaptureFree bindings) :
    replaceInTurn bindings text = result := by
  induction bindings generalizing text with
  | nil => exact h.eq_of_nil
  | cons binding bindings ih => exact ih (h.replaceFrom hfree) hfree.tail

/-! ## What the order of the patterns has no part in -/

theorem FillsIn.perm (h : FillsIn bindings text result) (hperm : bindings.Perm others) :
    FillsIn others text result := by
  induction h with
  | nil => exact .nil
  | plain hclear _ ih => exact .plain (fun other hmem => hclear other (hperm.mem_iff.mpr hmem)) ih
  | pattern hmem _ ih => exact .pattern (hperm.mem_iff.mp hmem) ih

theorem CaptureFree.perm (h : CaptureFree bindings) (hperm : bindings.Perm others) :
    CaptureFree others where
  ne_nil binding hmem := h.ne_nil binding (hperm.mem_iff.mpr hmem)
  patterns_clear binding hmem other hother :=
    h.patterns_clear binding (hperm.mem_iff.mpr hmem) other (hperm.mem_iff.mpr hother)
  replacements_clear binding hmem other hother :=
    h.replacements_clear binding (hperm.mem_iff.mpr hmem) other (hperm.mem_iff.mpr hother)

/-- The passes may be made in any order, or all at once. -/
theorem FillsIn.replaceInTurn_perm (h : FillsIn bindings text result) (hfree : CaptureFree bindings)
    (hperm : bindings.Perm others) :
    replaceInTurn others text = substituteFrom bindings 0 text := by
  rw [(h.perm hperm).replaceInTurn_eq (hfree.perm hperm), h.substituteFrom_eq hfree]

theorem FillsIn.clearOf_result (h : FillsIn bindings text result) (hfree : CaptureFree bindings)
    (hmem : binding ∈ bindings) : ClearOf binding.1 result := by
  induction h with
  | nil => exact clearOf_nil _
  | plain hclear _ ih => exact (hclear binding hmem).append ih
  | pattern hfound _ ih => exact (hfree.replacements_clear _ hfound binding hmem).append ih

end SoapClasses
