import SoapClasses.TextPieces

/-!
# Laws of cutting text

A separator between two texts separates their pieces, and a text without separators is one piece. So
the first line of a text is what stands before its first line feed.
-/

namespace SoapClasses

/-- What is said about the characters of a text is decided on them, never on all characters there are. -/
instance (priority := 1100) decidableForallMemChars {P : Char → Prop} [DecidablePred P]
    (chars : List Char) : Decidable (∀ c ∈ chars, P c) :=
  List.decidableBAll P chars

variable {isSeparator : Char → Bool}

theorem piecesOf_ne_nil (isSeparator : Char → Bool) (text : List Char) :
    piecesOf isSeparator text ≠ [] := by
  cases text with
  | nil => simp [piecesOf]
  | cons c rest =>
    simp only [piecesOf]
    split
    · simp
    · split <;> simp

theorem piecesOf_append_cons {c : Char} (h : isSeparator c = true) (first rest : List Char) :
    piecesOf isSeparator (first ++ c :: rest) =
      piecesOf isSeparator first ++ piecesOf isSeparator rest := by
  induction first with
  | nil => simp [piecesOf, h]
  | cons d first ih =>
    simp only [List.cons_append, piecesOf, ih]
    cases hd : isSeparator d with
    | true => simp
    | false =>
      cases hp : piecesOf isSeparator first with
      | nil => exact absurd hp (piecesOf_ne_nil isSeparator first)
      | cons piece pieces => simp

theorem piecesOf_of_none {text : List Char} (h : ∀ c ∈ text, isSeparator c = false) :
    piecesOf isSeparator text = [text] := by
  induction text with
  | nil => rfl
  | cons c rest ih =>
    have hrest := ih (fun d hd => h d (List.mem_cons_of_mem _ hd))
    simp [piecesOf, h c List.mem_cons_self, hrest]

theorem piecesOf_append_of_none {front : List Char} (h : ∀ c ∈ front, isSeparator c = false)
    (text : List Char) :
    piecesOf isSeparator (front ++ text) = (piecesOf isSeparator text).modifyHead (front ++ ·) := by
  induction front with
  | nil => exact (congrFun List.modifyHead_id _).symm
  | cons c front ih =>
    have hrest := ih (fun d hd => h d (List.mem_cons_of_mem _ hd))
    obtain ⟨piece, pieces, hp⟩ := List.exists_cons_of_ne_nil (piecesOf_ne_nil isSeparator text)
    rw [hp, List.modifyHead_cons] at hrest ⊢
    simp only [List.cons_append, piecesOf, h c List.mem_cons_self, hrest, Bool.false_eq_true, if_false]

theorem piecesOf_append_eq {behind : List Char} (h : ∀ c ∈ behind, isSeparator c = false)
    (text : List Char) : ∃ pieces last, piecesOf isSeparator text = pieces ++ [last] ∧
      piecesOf isSeparator (text ++ behind) = pieces ++ [last ++ behind] := by
  induction text with
  | nil => exact ⟨[], [], rfl, piecesOf_of_none h⟩
  | cons c text ih =>
    obtain ⟨pieces, last, htext, hall⟩ := ih
    simp only [List.cons_append, piecesOf, htext, hall]
    cases isSeparator c with
    | true => exact ⟨[] :: pieces, last, rfl, rfl⟩
    | false =>
      cases pieces with
      | nil => exact ⟨[], c :: last, rfl, rfl⟩
      | cons piece pieces => exact ⟨(c :: piece) :: pieces, last, rfl, rfl⟩

theorem exists_mem_piecesOf {text : List Char} {c : Char} (hmem : c ∈ text)
    (h : isSeparator c = false) : ∃ piece ∈ piecesOf isSeparator text, c ∈ piece := by
  induction text with
  | nil => cases hmem
  | cons d rest ih =>
    cases hd : isSeparator d with
    | true =>
      have hne : c ≠ d := by
        rintro rfl
        simp [h] at hd
      obtain ⟨piece, hpiece, hc⟩ := ih ((List.mem_cons.mp hmem).resolve_left hne)
      exact ⟨piece, by simp [piecesOf, hd, hpiece], hc⟩
    | false =>
      obtain ⟨head, tail, hp⟩ := List.exists_cons_of_ne_nil (piecesOf_ne_nil isSeparator rest)
      have hcut : piecesOf isSeparator (d :: rest) = (d :: head) :: tail := by
        simp [piecesOf, hd, hp]
      rw [hcut]
      rcases List.mem_cons.mp hmem with rfl | hrest
      · exact ⟨c :: head, List.mem_cons_self, List.mem_cons_self⟩
      · obtain ⟨piece, hpiece, hc⟩ := ih hrest
        rw [hp] at hpiece
        rcases List.mem_cons.mp hpiece with rfl | htail
        · exact ⟨d :: piece, List.mem_cons_self, List.mem_cons_of_mem _ hc⟩
        · exact ⟨piece, List.mem_cons_of_mem _ htail, hc⟩

theorem not_separator_of_mem_piecesOf {text piece : List Char} (h : piece ∈ piecesOf isSeparator text) :
    ∀ c ∈ piece, isSeparator c = false := by
  induction text generalizing piece with
  | nil =>
    rw [List.mem_singleton.mp h]
    exact fun c hmem => absurd hmem List.not_mem_nil
  | cons d rest ih =>
    obtain ⟨head, tail, hp⟩ := List.exists_cons_of_ne_nil (piecesOf_ne_nil isSeparator rest)
    rw [hp] at ih
    cases hd : isSeparator d with
    | true =>
      simp only [piecesOf, hd, if_true, hp] at h
      rcases List.mem_cons.mp h with rfl | hmem
      · exact fun c hmem => absurd hmem List.not_mem_nil
      · exact ih hmem
    | false =>
      simp only [piecesOf, hd, Bool.false_eq_true, if_false, hp] at h
      rcases List.mem_cons.mp h with rfl | hmem
      · exact List.forall_mem_cons.mpr ⟨hd, ih List.mem_cons_self⟩
      · exact ih (List.mem_cons_of_mem _ hmem)

/-- The first piece stands at the start of the text, and each of the others behind a separator. -/
theorem exists_piecesOf_eq (isSeparator : Char → Bool) (text : List Char) :
    ∃ first others, piecesOf isSeparator text = first :: others ∧ first <+: text ∧
      ∀ piece ∈ others, ∃ c, isSeparator c = true ∧ c :: piece <:+: text := by
  induction text with
  | nil => exact ⟨[], [], rfl, List.nil_prefix, fun _ hmem => absurd hmem List.not_mem_nil⟩
  | cons d rest ih =>
    obtain ⟨first, others, hcut, hfirst, hothers⟩ := ih
    have hbehind : ∀ piece ∈ others, ∃ c, isSeparator c = true ∧ c :: piece <:+: d :: rest := by
      intro piece hmem
      obtain ⟨c, hc, hinfix⟩ := hothers piece hmem
      exact ⟨c, hc, hinfix.trans (List.suffix_cons d rest).isInfix⟩
    cases hd : isSeparator d with
    | true =>
      refine ⟨[], first :: others, by simp [piecesOf, hd, hcut], List.nil_prefix, ?_⟩
      exact List.forall_mem_cons.mpr
        ⟨⟨d, hd, ((List.prefix_cons_inj d).mpr hfirst).isInfix⟩, hbehind⟩
    | false =>
      exact ⟨d :: first, others, by simp [piecesOf, hd, hcut], (List.prefix_cons_inj d).mpr hfirst, hbehind⟩

theorem infix_of_mem_piecesOf {text piece : List Char} (h : piece ∈ piecesOf isSeparator text) :
    piece <:+: text := by
  obtain ⟨first, others, hcut, hfirst, hothers⟩ := exists_piecesOf_eq isSeparator text
  rw [hcut] at h
  rcases List.mem_cons.mp h with rfl | hmem
  · exact hfirst.isInfix
  · obtain ⟨c, _, hinfix⟩ := hothers piece hmem
    exact (List.suffix_cons c piece).isInfix.trans hinfix

/-- What stands before the first occurrence of a character is determined by the text. -/
theorem eq_of_append_cons {c : Char} {first other rest rest' : List Char} (hfirst : c ∉ first)
    (hother : c ∉ other) (heq : first ++ c :: rest = other ++ c :: rest') : first = other := by
  have hnone : ∀ text : List Char, c ∉ text → ∀ d ∈ text, (d == c) = false := by
    intro text htext d hd
    simpa using fun hdc : d = c => htext (hdc ▸ hd)
  have hcut := congrArg (piecesOf (· == c)) heq
  rw [piecesOf_append_cons (by simp), piecesOf_append_cons (by simp),
    piecesOf_of_none (hnone first hfirst), piecesOf_of_none (hnone other hother)] at hcut
  exact (List.cons.inj hcut).1

theorem dropReturn_of_getLast? {text : List Char} (h : text.getLast? ≠ some '\r') :
    dropReturn text = text := by
  induction text with
  | nil => rfl
  | cons c rest ih =>
    cases rest with
    | nil =>
      have hc : c ≠ '\r' := by simpa using h
      simp [dropReturn, hc]
    | cons d rest =>
      rw [List.getLast?_cons_cons] at h
      simp [dropReturn, ih h]

theorem exists_append_dropReturn (text : List Char) :
    text = dropReturn text ∨ text = dropReturn text ++ ['\r'] := by
  by_cases hlast : text.getLast? = some '\r'
  · obtain ⟨front, rfl⟩ := List.getLast?_eq_some_iff.mp hlast
    right
    have hdrop : dropReturn (front ++ ['\r']) = front := by
      clear hlast
      induction front with
      | nil => rfl
      | cons d front ih => cases front <;> simp_all [dropReturn]
    rw [hdrop]
  · exact .inl (dropReturn_of_getLast? hlast).symm

theorem dropReturn_prefix (text : List Char) : dropReturn text <+: text := by
  rcases exists_append_dropReturn text with heq | heq
  · exact ⟨[], (List.append_nil _).trans heq.symm⟩
  · exact ⟨['\r'], heq.symm⟩

/-- A line without line feeds, and without a carriage return at its end, is the first line of the text
that starts with it and a line feed. -/
theorem head?_textLines {line : String} (hfeed : '\n' ∉ line.toList)
    (hreturn : line.toList.getLast? ≠ some '\r') (rest : String) :
    (textLines (line ++ "\n" ++ rest)).head? = some line := by
  have hone : piecesOf (· == '\n') line.toList = [line.toList] := by
    apply piecesOf_of_none
    intro d hd
    simpa using fun hdn : d = '\n' => hfeed (hdn ▸ hd)
  have hcut : piecesOf (· == '\n') (line ++ "\n" ++ rest).toList =
      line.toList :: piecesOf (· == '\n') rest.toList := by
    have happend : (line ++ "\n" ++ rest).toList = line.toList ++ '\n' :: rest.toList := by simp
    rw [happend, piecesOf_append_cons (by rfl), hone]
    rfl
  obtain ⟨piece, pieces, hp⟩ :=
    List.exists_cons_of_ne_nil (piecesOf_ne_nil (· == '\n') rest.toList)
  simp only [textLines, hcut, hp, linesOfPieces, List.map_cons, List.head?_cons]
  rw [dropReturn_of_getLast? hreturn, String.ofList_toList]

end SoapClasses
