import SoapClasses.Proofs.JoinedTexts
import SoapClasses.Proofs.TypeNames

/-!
# Words of code

Code is read as its words, between which there are blanks, line feeds, commas and semicolons. A text is cut
into words at any of these characters, so the words of a text are those of its parts as long as the text is
taken apart beside such a character. Identifiers and names of classes are words.
-/

namespace SoapClasses

/-- Whether a character stands between words. -/
def endsWord (c : Char) : Bool :=
  c == ' ' || c == '\n' || c == ',' || c == ';'

def codeWords (text : String) : List String :=
  (splitText endsWord text).filter (fun word => word != "")

/-- A text that is one word. -/
structure IsWord (text : String) : Prop where
  nonempty : text ≠ ""
  unbroken : ∀ c ∈ text.toList, endsWord c = false

section

variable {text front behind : String} {c : Char}

theorem codeWords_of_isWord (h : IsWord text) : codeWords text = [text] := by
  have hone : piecesOf endsWord text.toList = [text.toList] := piecesOf_of_none h.unbroken
  rw [codeWords, splitText, hone, List.map_singleton, String.ofList_toList, List.filter_singleton,
    bne_iff_ne.mpr h.nonempty, cond_true]

theorem codeWords_cut (hc : endsWord c = true)
    (h : text.toList = front.toList ++ c :: behind.toList) :
    codeWords text = codeWords front ++ codeWords behind := by
  rw [codeWords, splitText, h, piecesOf_append_cons hc, List.map_append, List.filter_append]
  rfl

theorem codeWords_empty : codeWords "" = [] := by decide

/-- Words end at the end of a text that ends between words. -/
theorem codeWords_append_of_getLast? (hlast : front.toList.getLast? = some c) (hc : endsWord c = true)
    (behind : String) : codeWords (front ++ behind) = codeWords front ++ codeWords behind := by
  obtain ⟨opening, hopening⟩ := List.getLast?_eq_some_iff.mp hlast
  have hfront : codeWords front = codeWords (String.ofList opening) ++ codeWords "" :=
    codeWords_cut hc (by simp [hopening])
  have hwhole : codeWords (front ++ behind) = codeWords (String.ofList opening) ++ codeWords behind :=
    codeWords_cut hc (by simp [hopening])
  rw [hwhole, hfront, codeWords_empty, List.append_nil]

theorem codeWords_append_of_head? (hhead : behind.toList.head? = some c) (hc : endsWord c = true)
    (front : String) : codeWords (front ++ behind) = codeWords front ++ codeWords behind := by
  obtain ⟨rest, hrest⟩ := List.head?_eq_some_iff.mp hhead
  have hbehind : codeWords behind = codeWords "" ++ codeWords (String.ofList rest) :=
    codeWords_cut hc (by simp [hrest])
  have hwhole : codeWords (front ++ behind) = codeWords front ++ codeWords (String.ofList rest) :=
    codeWords_cut hc (by simp [hrest])
  rw [hwhole, hbehind, codeWords_empty, List.nil_append]

/-- A text that begins and ends between words keeps those in front of it from those behind it. -/
theorem codeWords_around {mark : String} {d : Char} (hhead : mark.toList.head? = some c)
    (hc : endsWord c = true) (hlast : mark.toList.getLast? = some d) (hd : endsWord d = true)
    (front behind : String) : codeWords (front ++ mark ++ behind) =
      codeWords front ++ codeWords mark ++ codeWords behind := by
  have hend : (front ++ mark).toList.getLast? = some d := by
    rw [String.toList_append, List.getLast?_append, hlast]
    rfl
  rw [codeWords_append_of_getLast? hend hd, codeWords_append_of_head? hhead hc]

end

theorem codeWords_joinText {words : List String} (h : ∀ word ∈ words, IsWord word) :
    codeWords (joinText ", " words) = words := by
  induction words with
  | nil => exact codeWords_empty
  | cons word rest ih =>
    obtain ⟨hword, hrest⟩ := List.forall_mem_cons.mp h
    cases rest with
    | nil => exact codeWords_of_isWord hword
    | cons next rest =>
      have hcomma : codeWords ", " = [] := by decide
      rw [joinText_cons_cons, codeWords_around (by rfl) (by rfl) (by rfl) (by rfl), hcomma, ih hrest,
        codeWords_of_isWord hword]
      rfl

section

variable {name : String}

theorem not_endsWord_of_continuesIdentifier {c : Char} (h : continuesIdentifier c = true) :
    endsWord c = false := by
  unfold endsWord
  simp only [Bool.or_eq_false_iff, beq_eq_false_iff_ne]
  refine ⟨⟨⟨?_, ?_⟩, ?_⟩, ?_⟩ <;> (rintro rfl; exact absurd h (by decide))

theorem isWord_of_isIdentifier (h : isIdentifier name = true) : IsWord name :=
  ⟨ne_empty_of_isIdentifier h, fun _ hmem =>
    not_endsWord_of_continuesIdentifier (continuesIdentifier_of_mem h hmem)⟩

theorem isWord_of_nameSegments (h : (nameSegments name).all isIdentifier = true) : IsWord name := by
  have hsegments := List.all_eq_true.mp h
  constructor
  · rintro rfl
    exact absurd h (by decide)
  · intro c hmem
    rw [← joinText_nameSegments name] at hmem
    rcases mem_of_mem_joinText hmem with hseparator | ⟨segment, hsegment, hc⟩
    · rw [List.mem_singleton.mp hseparator]
      rfl
    · exact (isWord_of_isIdentifier (hsegments segment hsegment)).unbroken c hc

theorem isWord_of_isBuiltinType (h : isBuiltinType name = true) : IsWord name := by
  constructor
  · rintro rfl
    exact absurd h (by decide)
  · intro c hmem
    cases hbreak : endsWord c with
    | false => rfl
    | true =>
      have hnone : ∀ d ∈ [' ', '\n', ',', ';'], d ≠ '?' ∧ d.toLower = d ∧
          ∀ word ∈ builtinTypes, d ∉ word.toList := by
        decide +kernel
      have hlisted : c ∈ [' ', '\n', ',', ';'] := by simpa [endsWord, or_assoc] using hbreak
      obtain ⟨hmark, hlower, hwords⟩ := hnone c hlisted
      exact absurd hmem (not_mem_of_isBuiltinType h hmark hlower hwords)

theorem IsWord.append_left {front : String} (h : IsWord name)
    (hfront : ∀ c ∈ front.toList, endsWord c = false) : IsWord (front ++ name) := by
  constructor
  · intro hempty
    exact h.nonempty (String.append_eq_empty_iff.mp hempty).2
  · intro c hmem
    rw [String.toList_append, List.mem_append] at hmem
    exact hmem.elim (hfront c) (h.unbroken c)

end

example : codeWords "class Order implements \\Countable, Result" =
    ["class", "Order", "implements", "\\Countable", "Result"] := by
  decide +kernel

end SoapClasses
