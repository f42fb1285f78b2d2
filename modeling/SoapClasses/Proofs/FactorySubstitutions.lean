import SoapClasses.Proofs.FactoryReferences

/-!
# Substitution of the names of a factory

A factory is made if and only if its client and its class map have identifiers as names. Its body is then
the template with both names filled in at once. The names are filled in one after the other, so the second
replacement goes over the first name as well, but it finds nothing there: a placeholder begins with a brace,
and identifiers have none.
-/

namespace SoapClasses

namespace FactoryNames

/-- Both names stand in the text where the template has their placeholders, and nowhere does the text differ
from the template otherwise. -/
structure FillsTemplate (names : FactoryNames) (text : String) : Prop where
  at_once : text = substituteText
    [(classmapPlaceholder, names.classmapName), (clientPlaceholder, names.clientName)] factoryTemplate
  classmap_first : text = replaceText clientPlaceholder names.clientName
    (replaceText classmapPlaceholder names.classmapName factoryTemplate)
  client_first : text = replaceText classmapPlaceholder names.classmapName
    (replaceText clientPlaceholder names.clientName factoryTemplate)
  none_left : ∀ placeholder ∈ [classmapPlaceholder, clientPlaceholder],
    ¬ placeholder.toList <:+: text.toList
  rest_kept : ∃ opening middle ending,
    factoryTemplate = opening ++ classmapPlaceholder ++ middle ++ clientPlaceholder ++ ending ∧
      text = opening ++ names.classmapName ++ middle ++ names.clientName ++ ending

variable {names : FactoryNames}

theorem fillsTemplate_body (hclient : isIdentifier names.clientName = true)
    (hclassmap : isIdentifier names.classmapName = true) : names.FillsTemplate names.body := by
  obtain ⟨opening, wiring, h⟩ := exists_templateText
  have hfree := names.captureFree_bindings hclient hclassmap
  have hfills := h.fillsIn names
  rw [← h.body_eq hclient hclassmap] at hfills
  constructor
  case at_once =>
    apply String.toList_injective
    rw [substituteText, String.toList_ofList]
    exact (hfills.substituteFrom_eq hfree).symm
  case classmap_first => rfl
  case client_first =>
    have hswapped : names.bindings.Perm [(clientPlaceholder.toList, names.clientName.toList),
        (classmapPlaceholder.toList, names.classmapName.toList)] := List.Perm.swap _ _ []
    have hturns := hfills.replaceInTurn_perm hfree hswapped
    rw [hfills.substituteFrom_eq hfree, replaceInTurn, List.foldl_cons, List.foldl_cons,
      List.foldl_nil] at hturns
    apply String.toList_injective
    rw [← hturns, replaceText, replaceText, String.toList_ofList, String.toList_ofList]
  case none_left =>
    have hclear := names.forall_mem_bindings.mp fun binding hmem =>
      (hfills.clearOf_result hfree hmem).not_occurs (hfree.ne_nil binding hmem)
    exact List.forall_mem_cons.mpr ⟨hclear.1, List.forall_mem_singleton.mpr hclear.2⟩
  case rest_kept =>
    refine ⟨opening, classmapMark ++ wiring ++ returnMark, "($caller);", ?_, h.body_eq hclient hclassmap⟩
    rw [h.template]
    simp only [String.append_assoc]

/-- A factory is generated exactly for names that are identifiers, and the body of its method fills both
into the template, in whatever order. -/
theorem generateFactory_fillsTemplate (names : FactoryNames) :
    ((∃ php, generateFactory (.factory names) = .ok php) ↔
      isIdentifier names.clientName = true ∧ isIdentifier names.classmapName = true) ∧
    ∀ php, generateFactory (.factory names) = .ok php →
      ∃ method, php.methods.find? "factory" = some method ∧ names.FillsTemplate method.body := by
  simp only [generateFactory_eq_ok_iff]
  constructor
  · exact ⟨fun ⟨_, hnamed, _⟩ => hnamed, fun hnamed => ⟨_, hnamed, rfl⟩⟩
  · rintro php ⟨⟨hclient, hclassmap⟩, rfl⟩
    exact ⟨names.method, find?_factoryClass names, fillsTemplate_body hclient hclassmap⟩

/-- A client and a class map that are each called like the placeholder of the other one: neither name is
taken for a placeholder. -/
theorem generateFactory_fillsTemplate_crossed :
    ∃ php method, generateFactory (.factory (ofParts "classmap" "Shop" "client" "")) = .ok php ∧
      php.methods.find? "factory" = some method ∧
      (ofParts "classmap" "Shop" "client" "").FillsTemplate method.body := by
  obtain ⟨hgenerated, hbody⟩ :=
    generateFactory_fillsTemplate (ofParts "classmap" "Shop" "client" "")
  obtain ⟨php, hphp⟩ := hgenerated.mpr (by decide +kernel)
  obtain ⟨method, hfind, hfills⟩ := hbody php hphp
  exact ⟨php, method, hphp, hfind, hfills⟩

end FactoryNames

end SoapClasses
