import SoapClasses.ClientFactories
import SoapClasses.Proofs.TextSubstitutions

/-!
# The body of a factory

The body of a factory is the template with the names filled in: names that are identifiers cannot be taken
for a placeholder or for a part of one. So the names of the class map and of the client are found again
beside what the template has next to them.
-/

namespace SoapClasses

/-- What stands behind the name of the class map. -/
def classmapMark : String := "::getCollection()"

/-- What stands in the template in one place only. -/
def templateMarks : List String :=
  [classmapPlaceholder, clientPlaceholder, classmapMark, returnMark]

/-- The text of the template in front of the placeholder of the class map, and the text between its mark
and the mark of the client. -/
structure TemplateText (opening wiring : String) : Prop where
  template : factoryTemplate = opening ++ classmapPlaceholder ++ classmapMark ++ wiring ++ returnMark ++
    clientPlaceholder ++ "($caller);"
  opening_clear : ∀ mark ∈ templateMarks, ClearOf mark.toList opening.toList
  wiring_clear : ∀ mark ∈ templateMarks, ClearOf mark.toList wiring.toList
  opening_last : opening.toList.getLast? = some ' '

/-- One line of the template has the placeholder of the class map, and the last one that of the client. -/
theorem exists_factoryTemplate_eq : ∃ opening wiring : List String,
    factoryTemplate = joinText "\n" (opening ++
      ("                " ++ classmapPlaceholder ++ classmapMark) :: wiring ++
        [returnMark ++ clientPlaceholder ++ "($caller);"]) ∧
    ∀ line ∈ opening ++ wiring, ∀ mark ∈ templateMarks, ¬ mark.toList <:+: line.toList := by
  refine ⟨[_, _, _, _], [_, _, _, _, _, _, _, _, _, _, _, _, _, _, _], rfl, ?_⟩
  decide +kernel

theorem exists_templateText : ∃ opening wiring, TemplateText opening wiring := by
  obtain ⟨opening, wiring, htemplate, hlines⟩ := exists_factoryTemplate_eq
  obtain ⟨hopening, hwiring⟩ := List.forall_mem_append.mp hlines
  have hmarks : ∀ mark ∈ templateMarks, mark.toList ≠ [] ∧ '\n' ∉ mark.toList ∧
      ∀ c ∈ '\n' :: "                ".toList, mark.toList.head? ≠ some c := by
    decide +kernel
  refine ⟨unlines opening ++ "                ", "\n" ++ unlines wiring, ?_, ?_, ?_, ?_⟩
  · rw [htemplate, joinText_feed_append _ (List.cons_ne_nil _ _), unlines_append, unlines]
    simp only [String.append_assoc]
    rfl
  · intro mark hmark
    obtain ⟨hne, hfeed, hhead⟩ := hmarks mark hmark
    have hfront := clearOf_unlines hfeed (fun line hmem => hopening line hmem mark hmark)
    exact hfront.append_text (clearOf_of_head? hne (List.forall_mem_cons.mp hhead).2)
  · intro mark hmark
    obtain ⟨hne, hfeed, hhead⟩ := hmarks mark hmark
    have hfirst : ClearOf mark.toList "\n".toList :=
      clearOf_of_head? hne (List.forall_mem_singleton.mpr (List.forall_mem_cons.mp hhead).1)
    exact hfirst.append_text (clearOf_unlines hfeed (fun line hmem => hwiring line hmem mark hmark))
  · rw [String.toList_append, List.getLast?_append_of_ne_nil _ (by decide)]
    decide

theorem clearOf_of_isIdentifier {mark name : String} {c : Char} (h : isIdentifier name = true)
    (hmark : mark.toList.head? = some c) (hc : continuesIdentifier c = false) :
    ClearOf mark.toList name.toList := by
  apply clearOf_of_head?
  · rintro hnil
    rw [hnil] at hmark
    cases hmark
  · intro d hmem heq
    rw [hmark] at heq
    exact not_mem_of_isIdentifier h hc (Option.some.inj heq ▸ hmem)

theorem head?_templateMarks : classmapPlaceholder.toList.head? = some '\x7b' ∧
    clientPlaceholder.toList.head? = some '\x7b' ∧ classmapMark.toList.head? = some ':' := by
  decide +kernel

namespace FactoryNames

variable (names : FactoryNames)

/-- What is filled in for the placeholders, in the order in which it is done. -/
def bindings : List (List Char × List Char) :=
  [(classmapPlaceholder.toList, names.classmapName.toList),
    (clientPlaceholder.toList, names.clientName.toList)]

theorem forall_mem_bindings {P : List Char × List Char → Prop} : (∀ binding ∈ names.bindings, P binding) ↔
    P (classmapPlaceholder.toList, names.classmapName.toList) ∧
      P (clientPlaceholder.toList, names.clientName.toList) := by
  rw [bindings, List.forall_mem_cons, List.forall_mem_singleton]

theorem toList_body : names.body.toList = replaceInTurn names.bindings factoryTemplate.toList := by
  rw [body, replaceText, replaceText, String.toList_ofList, String.toList_ofList, replaceInTurn, bindings,
    List.foldl_cons, List.foldl_cons, List.foldl_nil]

theorem captureFree_bindings {names : FactoryNames} (hclient : isIdentifier names.clientName = true)
    (hclassmap : isIdentifier names.classmapName = true) : CaptureFree names.bindings where
  ne_nil := by
    have hne : classmapPlaceholder.toList ≠ [] ∧ clientPlaceholder.toList ≠ [] := by decide +kernel
    exact names.forall_mem_bindings.mpr hne
  patterns_clear := by
    have hclear : ClearOf clientPlaceholder.toList classmapPlaceholder.toList ∧
        ClearOf classmapPlaceholder.toList clientPlaceholder.toList := by
      decide +kernel
    simp only [forall_mem_bindings]
    exact ⟨⟨fun hne => absurd rfl hne, fun _ => hclear.1⟩, fun _ => hclear.2, fun hne => absurd rfl hne⟩
  replacements_clear := by
    have hclear : ∀ name, isIdentifier name = true →
        ClearOf classmapPlaceholder.toList name.toList ∧ ClearOf clientPlaceholder.toList name.toList :=
      fun name hname => ⟨clearOf_of_isIdentifier hname head?_templateMarks.1 (by decide),
        clearOf_of_isIdentifier hname head?_templateMarks.2.1 (by decide)⟩
    simp only [forall_mem_bindings]
    exact ⟨hclear _ hclassmap, hclear _ hclient⟩

end FactoryNames

namespace TemplateText

variable {opening wiring : String} {names : FactoryNames}

theorem clearOf_middle (h : TemplateText opening wiring) (placeholder : String)
    (hmem : placeholder ∈ [classmapPlaceholder, clientPlaceholder]) :
    ClearOf placeholder.toList (classmapMark ++ wiring ++ returnMark).toList := by
  have hmark : placeholder ∈ templateMarks := List.mem_append_left [classmapMark, returnMark] hmem
  have hplain : ∀ placeholder ∈ [classmapPlaceholder, clientPlaceholder], placeholder.toList ≠ [] ∧
      ∀ c ∈ classmapMark.toList ++ returnMark.toList, placeholder.toList.head? ≠ some c := by
    decide +kernel
  obtain ⟨hne, hhead⟩ := hplain placeholder hmem
  obtain ⟨hclassmap, hclient⟩ := List.forall_mem_append.mp hhead
  exact ((clearOf_of_head? hne hclassmap).append_text (h.wiring_clear placeholder hmark)).append_text
    (clearOf_of_head? hne hclient)

/-- The placeholders of the template stand between plain parts. -/
theorem fillsIn (h : TemplateText opening wiring) (names : FactoryNames) :
    FillsIn names.bindings factoryTemplate.toList
      (opening ++ names.classmapName ++ (classmapMark ++ wiring ++ returnMark) ++ names.clientName ++
        "($caller);").toList := by
  have hending : ClearOf classmapPlaceholder.toList "($caller);".toList ∧
      ClearOf clientPlaceholder.toList "($caller);".toList := by
    decide +kernel
  have hopening : ClearOf classmapPlaceholder.toList opening.toList ∧
      ClearOf clientPlaceholder.toList opening.toList :=
    ⟨h.opening_clear _ (by simp [templateMarks]), h.opening_clear _ (by simp [templateMarks])⟩
  have hmiddle := And.intro (h.clearOf_middle classmapPlaceholder (by simp))
    (h.clearOf_middle clientPlaceholder (by simp))
  have hmem := names.forall_mem_bindings.mp (fun binding hmem => hmem)
  have hlast := FillsIn.plain (names.forall_mem_bindings.mpr hending) .nil
  have hclient := FillsIn.plain (names.forall_mem_bindings.mpr hmiddle) (.pattern hmem.2 hlast)
  have hall := FillsIn.plain (names.forall_mem_bindings.mpr hopening) (.pattern hmem.1 hclient)
  rw [h.template]
  simp only [String.toList_append, List.append_assoc, List.append_nil] at hall ⊢
  exact hall

theorem body_eq (h : TemplateText opening wiring) (hclient : isIdentifier names.clientName = true)
    (hclassmap : isIdentifier names.classmapName = true) :
    names.body = opening ++ names.classmapName ++ (classmapMark ++ wiring ++ returnMark) ++
      names.clientName ++ "($caller);" := by
  apply String.toList_injective
  rw [names.toList_body]
  exact (h.fillsIn names).replaceInTurn_eq (names.captureFree_bindings hclient hclassmap)

theorem clearOf_front (h : TemplateText opening wiring) {name : String} (hname : isIdentifier name = true) :
    ClearOf returnMark.toList (opening ++ name ++ classmapMark ++ wiring).toList := by
  have hmem : returnMark ∈ templateMarks := by simp [templateMarks]
  have hmark : ' ' ∈ returnMark.toList ∧ ':' ∉ returnMark.toList := by decide +kernel
  have hnone : ¬ returnMark.toList <:+: name.toList :=
    fun hoccurs => not_mem_of_isIdentifier hname (by decide) (hoccurs.subset hmark.1)
  have hcall : ClearOf returnMark.toList ":getCollection()".toList :=
    clearOf_of_head? (by decide +kernel) (by decide +kernel)
  have hchars : (opening ++ name ++ classmapMark ++ wiring).toList = opening.toList ++
      (name.toList ++ [':'] ++ ":getCollection()".toList) ++ wiring.toList := by
    have hclassmap : classmapMark.toList = [':'] ++ ":getCollection()".toList := by decide +kernel
    rw [String.toList_append, String.toList_append, String.toList_append, hclassmap]
    simp only [List.append_assoc]
  rw [hchars]
  exact ((h.opening_clear returnMark hmem).append
    ((clearOf_concat hmark.2 hnone).append hcall)).append (h.wiring_clear returnMark hmem)

end TemplateText

namespace FactoryNames

variable {names : FactoryNames}

theorem names_of_body (hclient : isIdentifier names.clientName = true)
    (hclassmap : isIdentifier names.classmapName = true) :
    nameInFrontOf classmapMark names.body = some names.classmapName ∧
      nameBehind returnMark names.body = some names.clientName := by
  obtain ⟨opening, wiring, h⟩ := exists_templateText
  have hending : "($caller);".toList = '(' :: "$caller);".toList := by decide +kernel
  constructor
  · have hname := clearOf_of_isIdentifier hclassmap head?_templateMarks.2.2 (by decide)
    have hbody : names.body = opening ++ names.classmapName ++ classmapMark ++
        (wiring ++ returnMark ++ names.clientName ++ "($caller);") := by
      rw [h.body_eq hclient hclassmap]
      simp only [String.append_assoc]
    rw [hbody]
    exact nameInFrontOf_eq (h.opening_clear classmapMark (by simp [templateMarks])) hname
      (by decide +kernel) h.opening_last (by decide) (belongsToName_of_isIdentifier hclassmap)
  · have hbody : names.body = opening ++ names.classmapName ++ classmapMark ++ wiring ++ returnMark ++
        names.clientName ++ "($caller);" := by
      rw [h.body_eq hclient hclassmap]
      simp only [String.append_assoc]
    rw [hbody]
    exact nameBehind_eq (h.clearOf_front hclassmap) (by decide +kernel)
      (belongsToName_of_isIdentifier hclient) hending (by decide)

end FactoryNames

end SoapClasses
