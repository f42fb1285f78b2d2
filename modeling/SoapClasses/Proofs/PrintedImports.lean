import SoapClasses.Proofs.DocBlockLayout
import SoapClasses.Proofs.ImportLines
import SoapClasses.Proofs.ImportTableUpdates
import SoapClasses.Proofs.RenderedTypes
import SoapClasses.Proofs.TextOccurrences
import SoapClasses.Proofs.TypeNames

/-!
# Printed imports

What a class is given is written as it is, so a text with a line feed in it is printed as several lines. The
lines that start like an import are still those of the imports as long as no imported name and no alias has a
line feed, and no other text has the word `use` behind one.
-/

namespace SoapClasses

/-- A line feed with the word `use` behind it stands in the text. -/
def HoldsImport (text : String) : Prop :=
  '\n' :: "use".toList <:+: text.toList

instance : DecidablePred HoldsImport := fun text =>
  inferInstanceAs (Decidable ('\n' :: "use".toList <:+: text.toList))

/-- No import reaches over the sign: it starts with another character, and it has no line feed. -/
def KeepsApart (sign : String) : Prop :=
  sign.toList.head?.any (· ∉ '\n' :: "use".toList) = true ∧ '\n' ∉ sign.toList

instance : DecidablePred KeepsApart := fun sign =>
  inferInstanceAs (Decidable (_ ∧ '\n' ∉ sign.toList))

/-- The texts of a doc block that are written as they are. -/
def docTexts (doc : Option DocBlock) : List String :=
  doc.toList.flatMap (fun doc => doc.tags.flatMap (fun tag => [tag.name, tag.description]))

/-- The texts of a field that are written as they are, other than its name. -/
def Field.verbatimTexts (field : Field) : List String :=
  docTexts field.doc ++ field.typeHint.toList ++ field.initial.toList

/-- The texts of a method that are written as they are, other than names. -/
def Method.verbatimTexts (method : Method) : List String :=
  docTexts method.doc ++ method.parameters.filterMap Parameter.typeHint ++ method.returnType.toList

namespace PhpClass

/-- The texts of a class that are written as they are, other than its imports and the names of members. -/
def verbatimTexts (php : PhpClass) : List String :=
  [php.ns, php.name] ++ php.interfaces.toList ++ docTexts php.doc ++
    php.fields.toList.flatMap Field.verbatimTexts ++ php.methods.toList.flatMap Method.verbatimTexts

/-- The imports are printed on one line each, and nothing else is printed as an import. -/
structure KeepsImportLines (php : PhpClass) : Prop where
  imports : ∀ entry ∈ php.imports.toList,
    '\n' ∉ entry.name.toList ∧ '\n' ∉ (entry.aliasName.getD "").toList
  texts : ∀ text ∈ php.verbatimTexts, ¬ HoldsImport text

instance (php : PhpClass) : Decidable php.KeepsImportLines :=
  decidable_of_iff _ ⟨fun h => ⟨h.1, h.2⟩, fun h => And.intro h.imports h.texts⟩

end PhpClass

/-! ## Texts without imports -/

section

variable {front text behind : String}

theorem not_holdsImport_of_noFeed (text : String) (h : '\n' ∉ text.toList) : ¬ HoldsImport text :=
  fun hholds => h (hholds.subset List.mem_cons_self)

theorem not_holdsImport_of_infix (h : text.toList <:+: front.toList) (hfront : ¬ HoldsImport front) :
    ¬ HoldsImport text :=
  fun hholds => hfront (hholds.trans h)

theorem not_holdsImport_append (hfront : '\n' ∉ front.toList) (htext : ¬ HoldsImport text) :
    ¬ HoldsImport (front ++ text) := by
  rwa [HoldsImport, String.toList_append, infix_append_left_iff hfront]

theorem not_holdsImport_around (sign : String) (hsign : KeepsApart sign) (htext : ¬ HoldsImport text)
    (hbehind : ¬ HoldsImport behind) : ¬ HoldsImport (text ++ sign ++ behind) := by
  obtain ⟨hother, hfeed⟩ := hsign
  obtain ⟨c, hhead, hc⟩ := (Option.any_eq_true ..).mp hother
  obtain ⟨rest, hrest⟩ := List.head?_eq_some_iff.mp hhead
  have hchars : (text ++ sign ++ behind).toList = text.toList ++ c :: (rest ++ behind.toList) := by
    simp [hrest]
  rw [hrest] at hfeed
  rw [HoldsImport, hchars, infix_append_cons_iff (List.cons_ne_nil _ _) (of_decide_eq_true hc), not_or,
    infix_append_left_iff (List.not_mem_of_not_mem_cons hfeed)]
  exact ⟨htext, hbehind⟩

theorem not_holdsImport_closed (sign : String) (hsign : KeepsApart sign) (htext : ¬ HoldsImport text) :
    ¬ HoldsImport (text ++ sign) := by
  rw [← String.append_empty (s := text ++ sign)]
  exact not_holdsImport_around sign hsign htext (not_holdsImport_of_noFeed _ (by decide))

theorem not_holdsImport_of_isIdentifier {name : String} (h : isIdentifier name = true) :
    ¬ HoldsImport name :=
  not_holdsImport_of_noFeed name (not_mem_of_isIdentifier h (by decide))

theorem not_holdsImport_joinText {texts : List String} (h : ∀ text ∈ texts, ¬ HoldsImport text) :
    ¬ HoldsImport (joinText ", " texts) := by
  induction texts with
  | nil => exact not_holdsImport_of_noFeed _ (by decide)
  | cons text rest ih =>
    obtain ⟨htext, hrest⟩ := List.forall_mem_cons.mp h
    cases rest with
    | nil => exact htext
    | cons next rest => exact not_holdsImport_around _ (by decide) htext (ih hrest)

theorem not_holdsImport_absoluteName {name : String} (h : ¬ HoldsImport name) :
    ¬ HoldsImport (absoluteName name) := by
  apply not_holdsImport_append (by decide)
  apply not_holdsImport_of_infix _ h
  rw [dropLeadingSeparators, dropLeading, String.toList_ofList]
  exact (List.dropWhile_suffix _).isInfix

theorem not_holdsImport_renderType {hint : String} (h : ¬ HoldsImport hint) :
    ¬ HoldsImport (renderType hint) := by
  unfold renderType
  split
  · rename_i inner hchars
    have hinner : ¬ HoldsImport (String.ofList inner) := by
      apply not_holdsImport_of_infix _ h
      rw [String.toList_ofList, hchars]
      exact (List.suffix_cons _ _).isInfix
    apply not_holdsImport_append (by decide)
    split
    · exact hinner
    · exact not_holdsImport_absoluteName hinner
  · split
    · exact h
    · exact not_holdsImport_absoluteName h

end

/-! ## Cut lines -/

theorem startsImport_of_mem_splitText {line piece : String} (hstart : startsImport line = false)
    (h : ¬ HoldsImport line) (hmem : piece ∈ splitText (· == '\n') line) : startsImport piece = false := by
  obtain ⟨first, others, hcut, hfirst, hothers⟩ := exists_piecesOf_eq (· == '\n') line.toList
  rw [splitText, hcut] at hmem
  obtain ⟨chars, hchars, rfl⟩ := List.mem_map.mp hmem
  rw [startsImport, ← Bool.not_eq_true, List.isPrefixOf_iff_prefix] at hstart ⊢
  rw [String.toList_ofList (l := chars)]
  intro hword
  rcases List.mem_cons.mp hchars with rfl | hbehind
  · exact hstart (hword.trans hfirst)
  · obtain ⟨c, hc, hinfix⟩ := hothers chars hbehind
    obtain rfl := beq_iff_eq.mp hc
    have hfront : "use".toList <+: chars := (List.prefix_append "use".toList [' ']).trans hword
    exact h (((List.prefix_cons_inj _).mpr hfront).isInfix.trans hinfix)

theorem filter_startsImport_eq_nil {lines : List String}
    (h : ∀ line ∈ lines, startsImport line = false ∧ ¬ HoldsImport line) :
    (lines.flatMap (splitText (· == '\n'))).filter startsImport = [] := by
  rw [List.filter_eq_nil_iff]
  intro piece hmem
  obtain ⟨line, hline, hpiece⟩ := List.mem_flatMap.mp hmem
  obtain ⟨hstart, hnone⟩ := h line hline
  rw [startsImport_of_mem_splitText hstart hnone hpiece]
  exact Bool.false_ne_true

namespace Import

theorem startsImport_line (entry : Import) : startsImport entry.line = true := by
  rw [startsImport, List.isPrefixOf_iff_prefix]
  unfold line
  split <;> simp only [String.toList_append, List.append_assoc, List.prefix_append]

theorem not_feed_line {entry : Import} (hname : '\n' ∉ entry.name.toList)
    (halias : '\n' ∉ (entry.aliasName.getD "").toList) : '\n' ∉ entry.line.toList := by
  unfold line
  split
  case h_1 aliasName hsome =>
    rw [hsome] at halias
    simpa [hname] using halias
  case h_2 => simp [hname]

end Import

/-! ## Lines without imports -/

theorem DocBlock.not_holdsImport_of_mem_lines {doc : DocBlock}
    (h : ∀ text ∈ docTexts (some doc), ¬ HoldsImport text) : ∀ line ∈ doc.lines, ¬ HoldsImport line := by
  apply forall_mem_lines not_holdsImport_of_noFeed
  · intro line hline
    unfold starLine
    split
    · exact not_holdsImport_of_noFeed _ (by decide)
    · exact not_holdsImport_append (by decide) hline
  · intro tag htag
    have htexts : ∀ text ∈ [tag.name, tag.description], ¬ HoldsImport text := by
      intro text hmem
      apply h
      rw [docTexts, Option.toList_some, List.flatMap_singleton]
      exact List.mem_flatMap.mpr ⟨tag, htag, hmem⟩
    obtain ⟨hname, hdescription⟩ := List.forall_mem_cons.mp htexts
    have htagged : ¬ HoldsImport ("@" ++ tag.name) := not_holdsImport_append (by decide) hname
    unfold tagLine
    split
    · exact htagged
    · exact not_holdsImport_around _ (by decide) htagged
        (hdescription _ List.mem_cons_self)

theorem not_holdsImport_of_mem_memberDocLines {doc : Option DocBlock}
    (h : ∀ text ∈ docTexts doc, ¬ HoldsImport text) : ∀ line ∈ memberDocLines doc, ¬ HoldsImport line := by
  cases doc with
  | none => exact fun line hmem => absurd hmem List.not_mem_nil
  | some doc =>
    rw [memberDocLines, List.forall_mem_map]
    exact fun line hmem =>
      not_holdsImport_append (by decide) (DocBlock.not_holdsImport_of_mem_lines h line hmem)

theorem Visibility.not_feed_word (visibility : Visibility) : '\n' ∉ visibility.word.toList := by
  cases visibility <;> decide

theorem Field.not_holdsImport_declaration {field : Field} (hname : isIdentifier field.name = true)
    (hhint : ∀ hint ∈ field.typeHint, ¬ HoldsImport hint)
    (hinitial : ∀ value ∈ field.initial, ¬ HoldsImport value) : ¬ HoldsImport field.declaration := by
  have hword : '\n' ∉ (field.visibility.word ++ " ").toList := by
    simp [field.visibility.not_feed_word]
  have hshown : ¬ HoldsImport (hintText field.typeHint) := by
    cases htype : field.typeHint with
    | none => exact not_holdsImport_of_noFeed _ (by decide)
    | some hint =>
      exact not_holdsImport_closed " " (by decide) (not_holdsImport_renderType (hhint hint htype))
  have hnamed := not_holdsImport_around "$" (by decide) (not_holdsImport_append hword hshown)
    (not_holdsImport_of_isIdentifier hname)
  simp only [field.declaration_eq, ← String.append_assoc] at hnamed ⊢
  apply not_holdsImport_closed ";" (by decide)
  cases hvalue : field.initial with
  | none =>
    rw [initialText, Option.map_none, Option.getD_none, String.append_empty]
    exact hnamed
  | some value =>
    rw [initialText, Option.map_some, Option.getD_some, ← String.append_assoc]
    exact not_holdsImport_around " = " (by decide) hnamed (hinitial value hvalue)

theorem Field.not_holdsImport_of_mem_lines {field : Field} (hname : isIdentifier field.name = true)
    (h : ∀ text ∈ field.verbatimTexts, ¬ HoldsImport text) : ∀ line ∈ field.lines, ¬ HoldsImport line := by
  obtain ⟨hfront, hinitial⟩ := List.forall_mem_append.mp h
  obtain ⟨hdoc, hhint⟩ := List.forall_mem_append.mp hfront
  rw [lines, List.forall_mem_append, List.forall_mem_singleton]
  refine ⟨not_holdsImport_of_mem_memberDocLines hdoc, not_holdsImport_append (by decide) ?_⟩
  exact field.not_holdsImport_declaration hname
    (fun hint hmem => hhint hint (Option.mem_toList.mpr hmem))
    (fun value hmem => hinitial value (Option.mem_toList.mpr hmem))

theorem Parameter.not_holdsImport_declaration {parameter : Parameter}
    (hname : isIdentifier parameter.name = true) (h : ∀ hint ∈ parameter.typeHint, ¬ HoldsImport hint) :
    ¬ HoldsImport parameter.declaration := by
  have hidentifier := not_holdsImport_of_isIdentifier hname
  unfold declaration
  split
  case h_1 hint hsome =>
    exact not_holdsImport_around " $" (by decide) (not_holdsImport_renderType (h hint hsome)) hidentifier
  case h_2 => exact not_holdsImport_append (by decide) hidentifier

theorem Method.not_holdsImport_signature {method : Method} (hname : isIdentifier method.name = true)
    (hparameters : ∀ parameter ∈ method.parameters, ¬ HoldsImport parameter.declaration)
    (hresult : ∀ hint ∈ method.returnType, ¬ HoldsImport hint) : ¬ HoldsImport method.signature := by
  have hfront : '\n' ∉ (method.visibility.word ++ " " ++ (if method.isStatic then "static " else "") ++
      "function " ++ method.name).toList := by
    have hidentifier := not_mem_of_isIdentifier hname (c := '\n') (by decide)
    split <;> simp [method.visibility.not_feed_word, hidentifier]
  have hlisted := not_holdsImport_around "(" (by decide)
    (not_holdsImport_of_noFeed _ hfront) (not_holdsImport_joinText (List.forall_mem_map.mpr hparameters))
  have hclosed := not_holdsImport_closed ")" (by decide) hlisted
  unfold signature
  cases hhint : method.returnType with
  | none =>
    rw [String.append_empty]
    exact hclosed
  | some hint =>
    rw [← String.append_assoc]
    exact not_holdsImport_around ": " (by decide) hclosed
      (not_holdsImport_renderType (hresult hint hhint))

theorem Method.not_holdsImport_of_mem_lines {method : Method} (hname : isIdentifier method.name = true)
    (hparameters : ∀ parameter ∈ method.parameters, isIdentifier parameter.name = true)
    (h : ∀ text ∈ method.verbatimTexts, ¬ HoldsImport text) :
    ∀ line ∈ method.lines, ¬ HoldsImport line := by
  obtain ⟨hfront, hresult⟩ := List.forall_mem_append.mp h
  obtain ⟨hdoc, hhints⟩ := List.forall_mem_append.mp hfront
  have hsignature : ¬ HoldsImport method.signature := by
    apply method.not_holdsImport_signature hname
    · intro parameter hmem
      apply parameter.not_holdsImport_declaration (hparameters parameter hmem)
      exact fun hint hsome => hhints hint (List.mem_filterMap.mpr ⟨parameter, hmem, hsome⟩)
    · exact fun hint hmem => hresult hint (Option.mem_toList.mpr hmem)
  have hbody : ∀ line ∈ (textLines method.body).map bodyLine, ¬ HoldsImport line := by
    rw [List.forall_mem_map]
    intro line hmem
    have hline := not_holdsImport_of_noFeed line (not_feed_of_mem_textLines hmem)
    unfold bodyLine
    split
    · exact not_holdsImport_of_noFeed _ (by decide)
    · exact not_holdsImport_append (by decide) hline
  rw [lines, List.forall_mem_append, List.forall_mem_append, List.forall_mem_append, List.forall_mem_cons,
    List.forall_mem_singleton, List.forall_mem_singleton]
  exact ⟨⟨⟨not_holdsImport_of_mem_memberDocLines hdoc, not_holdsImport_append (by decide) hsignature,
    by decide⟩, hbody⟩, by decide⟩

namespace PhpClass

variable {php : PhpClass}

/-- All members and parameters are named by identifiers. -/
structure MembersNamed (php : PhpClass) : Prop where
  fields : ∀ field ∈ php.fields.toList, isIdentifier field.name = true
  methods : ∀ method ∈ php.methods.toList,
    isIdentifier method.name = true ∧ ∀ parameter ∈ method.parameters, isIdentifier parameter.name = true

theorem not_holdsImport_interfaceReference (h : php.KeepsImportLines) {interface : String}
    (hinterface : ¬ HoldsImport interface) : ¬ HoldsImport (php.interfaceReference interface) := by
  unfold interfaceReference
  split
  case h_1 asked aliasName hfound =>
    obtain ⟨hmem, -⟩ := (ImportTable.find?_eq_some_iff _ _ _).mp hfound
    exact not_holdsImport_of_noFeed aliasName (h.imports _ hmem).2
  case h_2 =>
    apply not_holdsImport_of_infix _ hinterface
    obtain ⟨piece, hpiece, hname⟩ := List.mem_map.mp (shortName_mem_nameSegments interface)
    rw [← hname, String.toList_ofList]
    exact infix_of_mem_piecesOf hpiece
  case h_3 => exact not_holdsImport_append (by decide) hinterface

theorem not_holdsImport_declaration (h : php.KeepsImportLines) : ¬ HoldsImport php.declaration := by
  have hname : ¬ HoldsImport ("class " ++ php.name) :=
    not_holdsImport_append (by decide) (h.texts _ (by simp [verbatimTexts]))
  unfold declaration
  split
  · exact hname
  · apply not_holdsImport_around _ (by decide) hname
    apply not_holdsImport_joinText
    rw [List.forall_mem_map]
    intro interface hmem
    exact not_holdsImport_interfaceReference h (h.texts _ (by simp [verbatimTexts, hmem]))

theorem not_holdsImport_of_mem_memberLines (hnames : php.MembersNamed) (h : php.KeepsImportLines) :
    ∀ line ∈ php.memberLines, ¬ HoldsImport line := by
  rw [memberLines, forall_mem_spacedBlocks (not_holdsImport_of_noFeed _ (by decide)),
    List.forall_mem_append, List.forall_mem_map, List.forall_mem_map]
  constructor
  · intro field hmem
    apply field.not_holdsImport_of_mem_lines (hnames.fields field hmem)
    intro text htext
    have hall : text ∈ php.fields.toList.flatMap Field.verbatimTexts :=
      List.mem_flatMap.mpr ⟨field, hmem, htext⟩
    exact h.texts text (by simp [verbatimTexts, hall])
  · intro method hmem
    obtain ⟨hname, hparameters⟩ := hnames.methods method hmem
    apply method.not_holdsImport_of_mem_lines hname hparameters
    intro text htext
    have hall : text ∈ php.methods.toList.flatMap Method.verbatimTexts :=
      List.mem_flatMap.mpr ⟨method, hmem, htext⟩
    exact h.texts text (by simp [verbatimTexts, hall])

theorem KeepsImportLines.not_feed_line (h : php.KeepsImportLines) :
    ∀ line ∈ php.imports.toList.map Import.line, '\n' ∉ line.toList := by
  rw [List.forall_mem_map]
  exact fun entry hmem => Import.not_feed_line (h.imports entry hmem).1 (h.imports entry hmem).2

theorem not_holdsImport_of_mem_lines (hnames : php.MembersNamed) (h : php.KeepsImportLines) :
    ∀ line ∈ php.lines, ¬ HoldsImport line := by
  have hblank : ¬ HoldsImport "" := not_holdsImport_of_noFeed _ (by decide)
  have hns : ∀ line ∈ php.namespaceLines, ¬ HoldsImport line := by
    have hname : ¬ HoldsImport ("namespace " ++ php.ns) :=
      not_holdsImport_append (by decide) (h.texts _ (by simp [verbatimTexts]))
    unfold namespaceLines
    split
    · exact fun line hmem => absurd hmem List.not_mem_nil
    · rw [List.forall_mem_cons, List.forall_mem_singleton]
      exact ⟨not_holdsImport_closed _ (by decide) hname, hblank⟩
  have himports : ∀ line ∈ php.importLines, ¬ HoldsImport line := by
    unfold importLines
    split
    · exact fun line hmem => absurd hmem List.not_mem_nil
    · rw [List.forall_mem_append, List.forall_mem_singleton]
      exact ⟨fun line hmem => not_holdsImport_of_noFeed line (h.not_feed_line line hmem), hblank⟩
  have hdoc : ∀ line ∈ (php.doc.map DocBlock.lines).getD [], ¬ HoldsImport line := by
    cases hdoc : php.doc with
    | none => exact fun line hmem => absurd hmem List.not_mem_nil
    | some doc =>
      apply doc.not_holdsImport_of_mem_lines
      intro text hmem
      rw [← hdoc] at hmem
      exact h.texts text (by simp [verbatimTexts, hmem])
  have hopening : ∀ line ∈ [php.declaration, "\x7b"], ¬ HoldsImport line := by
    rw [List.forall_mem_cons, List.forall_mem_singleton]
    exact ⟨not_holdsImport_declaration h, by decide⟩
  have hclosing : ∀ line ∈ ["\x7d"], ¬ HoldsImport line := by decide
  simp only [lines_eq, List.forall_mem_append]
  exact ⟨⟨⟨⟨⟨hns, himports⟩, hdoc⟩, hopening⟩, not_holdsImport_of_mem_memberLines hnames h⟩, hclosing⟩

/-- The lines of the written class that start as an import does are those of its imports. -/
theorem filter_startsImport_render (hnames : php.MembersNamed) (h : php.KeepsImportLines) :
    (splitText (· == '\n') php.render).filter startsImport = php.imports.toList.map Import.line := by
  obtain ⟨before, behind, hlines, hothers⟩ := php.exists_lines_eq
  have hheld := not_holdsImport_of_mem_lines hnames h
  rw [hlines, List.forall_mem_append, List.forall_mem_append] at hheld
  rw [List.forall_mem_append] at hothers
  have hbefore : (before.flatMap (splitText (· == '\n'))).filter startsImport = [] :=
    filter_startsImport_eq_nil fun line hmem => ⟨hothers.1 line hmem, hheld.1.1 line hmem⟩
  have hbehind : (behind.flatMap (splitText (· == '\n'))).filter startsImport = [] :=
    filter_startsImport_eq_nil fun line hmem => ⟨hothers.2 line hmem, hheld.2 line hmem⟩
  have hself : (php.imports.toList.map Import.line).filter startsImport =
      php.imports.toList.map Import.line := by
    rw [List.filter_eq_self, List.forall_mem_map]
    exact fun entry _ => entry.startsImport_line
  have hlast : [""].filter startsImport = [] := by decide
  rw [render, splitText_unlines, hlines, List.flatMap_append, List.flatMap_append,
    flatMap_splitText_of_noFeed h.not_feed_line, List.filter_append, List.filter_append, List.filter_append,
    hbefore, hself, hbehind, hlast, List.append_nil, List.append_nil, List.nil_append]

end PhpClass

end SoapClasses
