import Mathlib.Data.List.Nodup
import SoapClasses.Proofs.CallHistories
import SoapClasses.Proofs.CodeWords
import SoapClasses.Proofs.DisplayedNames
import SoapClasses.Proofs.WrittenMethods

/-!
# Declared interfaces

A class keeps its imports and its interfaces apart, and only its text joins them: the declaration names an
interface as the class knows it by an import, or by its full name. Here the text is read again. Whatever
calls have made the class, and in whatever order, the names behind the word `implements` mean its
interfaces, as long as the calls have brought names of classes, and identifiers as aliases, and the names
by which the class knows its imports can be told apart.
-/

namespace SoapClasses

/-- The import that these words make. -/
def importOfWords : List String → Option Import
  | ["use", name] => some ⟨name, none⟩
  | ["use", name, "as", aliasName] => some ⟨name, some aliasName⟩
  | _ => none

/-- The imports of a text, if there is one in each line that is not empty. -/
def readImports (text : String) : Option (List Import) :=
  (((textLines text).map codeWords).filter (fun words => !words.isEmpty)).mapM importOfWords

/-- The names in the clause behind the name of a class, which may be missing. -/
def readInterfaces (clause : String) : Option (List String) :=
  match codeWords clause with
  | [] => some []
  | "implements" :: shown => some shown
  | _ => none

/-- The name is made of identifiers, and so is the alias, if there is one. -/
structure Import.WellSpelled (entry : Import) : Prop where
  name : (nameSegments entry.name).all isIdentifier = true
  aliasName : ∀ known ∈ entry.aliasName, isIdentifier known = true

/-- A call brings names of classes only, and aliases that are identifiers. -/
def ClassEdit.SpellsWell : ClassEdit → Prop
  | .addImport name aliasName =>
    IsClassName name ∧ ∀ known ∈ aliasName, isIdentifier known = true
  | .addInterface name => IsClassName name
  | _ => True

instance : DecidablePred ClassEdit.SpellsWell
  | .addImport _ _ => inferInstanceAs (Decidable (_ ∧ _))
  | .addInterface name => inferInstanceAs (Decidable (IsClassName name))
  | .putField _ | .removeField _ | .putMethod _ | .removeMethod _ | .setDoc _ => isTrue trivial

theorem Import.WellSpelled.isIdentifier_localName {entry : Import} (h : entry.WellSpelled) :
    isIdentifier entry.localName = true := by
  unfold localName
  cases haliasName : entry.aliasName with
  | some known => exact h.aliasName known haliasName
  | none => exact List.all_eq_true.mp h.name _ (shortName_mem_nameSegments entry.name)

theorem Import.WellSpelled.codeWords_line {entry : Import} (h : entry.WellSpelled) :
    importOfWords (codeWords entry.line) = some entry := by
  obtain ⟨name, aliasName⟩ := entry
  have hname : codeWords name = [name] := codeWords_of_isWord (isWord_of_nameSegments h.name)
  have huse : codeWords "use " = ["use"] := by decide
  have hend : codeWords ";" = [] := by decide
  cases aliasName with
  | none =>
    have hline : codeWords ("use " ++ name ++ ";") = ["use", name] := by
      rw [codeWords_append_of_head? (by rfl) (by rfl), codeWords_append_of_getLast? (by rfl) (by rfl),
        huse, hname, hend]
      rfl
    rw [Import.line, hline]
    rfl
  | some known =>
    have hknown : codeWords known = [known] :=
      codeWords_of_isWord (isWord_of_isIdentifier (h.aliasName known rfl))
    have has : codeWords " as " = ["as"] := by decide
    have hline : codeWords ("use " ++ name ++ " as " ++ known ++ ";") = ["use", name, "as", known] := by
      rw [codeWords_append_of_head? (by rfl) (by rfl),
        codeWords_around (by rfl) (by rfl) (by rfl) (by rfl),
        codeWords_append_of_getLast? (by rfl) (by rfl), huse, hname, has, hknown, hend]
      rfl
    rw [Import.line, hline]
    rfl

theorem Import.WellSpelled.isLine_line {entry : Import} (h : entry.WellSpelled) : IsLine entry.line := by
  have hend : IsLine ";" := by decide
  have hname : '\n' ∉ entry.name.toList := fun hmem =>
    absurd ((isWord_of_nameSegments h.name).unbroken _ hmem) (by decide)
  unfold line
  split
  · rename_i known haliasName
    have hknown : '\n' ∉ known.toList :=
      not_mem_of_isIdentifier (h.aliasName known haliasName) (by decide)
    apply hend.append_of_ne_empty (by decide)
    simp [hname, hknown]
  · apply hend.append_of_ne_empty (by decide)
    simp [hname]

namespace PhpClass

/-- The imports and the interfaces of a class have names that are made of identifiers, and identifiers as
aliases. -/
structure WellSpelled (php : PhpClass) : Prop where
  imports : ∀ entry ∈ php.imports.toList, entry.WellSpelled
  interfaces : ∀ name ∈ php.interfaces.toList, (nameSegments name).all isIdentifier = true

variable {key : String → String} {php : PhpClass}

theorem wellSpelled_fresh (name ns : String) : (fresh name ns).WellSpelled :=
  ⟨fun _ hmem => absurd hmem List.not_mem_nil, fun _ hmem => absurd hmem List.not_mem_nil⟩

theorem WellSpelled.call (h : php.WellSpelled) {change : ClassEdit} (hchange : change.SpellsWell) :
    (php.call change).2.WellSpelled := by
  constructor
  · intro entry hmem
    rw [imports_call] at hmem
    rcases ImportTable.mem_insertAll hmem with hold | ⟨brought, hbrought, rfl⟩
    · exact h.imports entry hold
    · cases change with
      | addImport name aliasName =>
        obtain rfl : brought = ⟨name, aliasName⟩ := by simpa [ClassEdit.import?] using hbrought
        exact ⟨hchange.1.all_nameSegments, hchange.2⟩
      | _ => cases hbrought
  · intro name hmem
    rw [interfaces_call] at hmem
    rcases MemberTable.mem_putAll _ _ hmem with hbrought | ⟨hold, -⟩
    · cases change with
      | addInterface interface =>
        obtain rfl : name = dropLeadingSeparators interface := by
          simpa [ClassEdit.interface?] using hbrought
        exact IsClassName.all_nameSegments hchange
      | _ => cases hbrought
    · exact h.interfaces name hold

theorem WellSpelled.callAll (h : php.WellSpelled) {changes : List ClassEdit}
    (hchanges : ∀ change ∈ changes, change.SpellsWell) : (php.callAll changes).WellSpelled := by
  induction changes generalizing php with
  | nil => exact h
  | cons change rest ih =>
    obtain ⟨hchange, hrest⟩ := List.forall_mem_cons.mp hchanges
    exact ih (h.call hchange) hrest

/-- However a class knows an interface, it names the interface by a word that means it. -/
theorem WellSpelled.interfaceReference_meaning (h : php.WellSpelled)
    (hnodup : (php.imports.toList.map (fun entry => key entry.localName)).Nodup) {interface : String}
    (hmem : interface ∈ php.interfaces.toList) :
    IsWord (php.interfaceReference interface) ∧
      php.resolveBy key (php.interfaceReference interface) = interface := by
  have hsegments := h.interfaces interface hmem
  cases hfound : php.imports.find? interface with
  | none =>
    have hreference : php.interfaceReference interface = "\\" ++ interface := by
      rw [interfaceReference, hfound]
    rw [hreference, resolveBy_separator]
    exact ⟨(isWord_of_nameSegments hsegments).append_left (by decide), (isClassName_of_nameSegments hsegments).1⟩
  | some entry =>
    obtain ⟨hentry, rfl⟩ := (php.imports.find?_eq_some_iff interface entry).mp hfound
    have hreference : php.interfaceReference entry.name = entry.localName := by
      obtain ⟨name, aliasName⟩ := entry
      rw [interfaceReference, hfound]
      cases aliasName <;> rfl
    have hidentifier := (h.imports entry hentry).isIdentifier_localName
    have hmeant := (find?_key_eq_some_iff hnodup (key entry.localName) entry).mpr ⟨hentry, rfl⟩
    rw [hreference, resolveBy_identifier hidentifier, hmeant]
    exact ⟨isWord_of_isIdentifier hidentifier, rfl⟩

theorem mapM_importOfWords {entries : List Import} (h : ∀ entry ∈ entries, entry.WellSpelled) :
    (entries.map (fun entry => codeWords entry.line)).mapM importOfWords = some entries := by
  induction entries with
  | nil => rfl
  | cons entry rest ih =>
    obtain ⟨hentry, hrest⟩ := List.forall_mem_cons.mp h
    rw [List.map_cons, List.mapM_cons, hentry.codeWords_line, ih hrest]
    rfl

theorem WellSpelled.readImports_importLines (h : php.WellSpelled) :
    readImports (unlines php.importLines) = some php.imports.toList := by
  cases himports : php.imports.toList with
  | nil =>
    rw [importLines, himports]
    rfl
  | cons first rest =>
    have himportLines : php.importLines = (first :: rest).map Import.line ++ [""] := by
      rw [importLines, himports]
    have hspelled : ∀ entry ∈ first :: rest, entry.WellSpelled := himports ▸ h.imports
    have hlines : ∀ line ∈ (first :: rest).map Import.line ++ [""], IsLine line := by
      refine List.forall_mem_append.mpr ⟨?_, List.forall_mem_singleton.mpr (by decide)⟩
      intro line hmem
      obtain ⟨entry, hentry, rfl⟩ := List.mem_map.mp hmem
      exact (hspelled entry hentry).isLine_line
    have hkept : ∀ words ∈ (first :: rest).map (fun entry => codeWords entry.line),
        (!words.isEmpty) = true := by
      intro words hmem
      obtain ⟨entry, hentry, rfl⟩ := List.mem_map.mp hmem
      cases hwords : codeWords entry.line with
      | nil =>
        have hread := (hspelled entry hentry).codeWords_line
        rw [hwords] at hread
        cases hread
      | cons word words => rfl
    have hwords : ((first :: rest).map Import.line ++ [""]).map codeWords =
        (first :: rest).map (fun entry => codeWords entry.line) ++ [[]] := by
      rw [List.map_append, List.map_map, List.map_singleton, codeWords_empty]
      rfl
    have hblank : ([[]] : List (List String)).filter (fun words => !words.isEmpty) = [] := rfl
    rw [readImports, himportLines, textLines_unlines_of_isLine hlines, hwords, List.filter_append,
      List.filter_eq_self.mpr hkept, hblank, List.append_nil]
    exact mapM_importOfWords hspelled

/-- What stands behind the name of a class. -/
def implementsClause (php : PhpClass) : String :=
  match php.interfaces.toList with
  | [] => ""
  | interfaces => " implements " ++ joinText ", " (interfaces.map php.interfaceReference)

theorem WellSpelled.readInterfaces_implementsClause (h : php.WellSpelled)
    (hnodup : (php.imports.toList.map (fun entry => key entry.localName)).Nodup) :
    readInterfaces php.implementsClause =
      some (php.interfaces.toList.map php.interfaceReference) := by
  cases hinterfaces : php.interfaces.toList with
  | nil =>
    rw [implementsClause, hinterfaces]
    rfl
  | cons first rest =>
    have hwords : ∀ word ∈ (first :: rest).map php.interfaceReference, IsWord word := by
      intro word hmem
      obtain ⟨interface, hinterface, rfl⟩ := List.mem_map.mp hmem
      exact (h.interfaceReference_meaning hnodup (hinterfaces ▸ hinterface)).1
    have hclause : php.implementsClause =
        " implements " ++ joinText ", " ((first :: rest).map php.interfaceReference) := by
      rw [implementsClause, hinterfaces]
    have himplements : codeWords " implements " = ["implements"] := by decide
    rw [readInterfaces, hclause, codeWords_append_of_getLast? (by rfl) (by rfl), himplements,
      codeWords_joinText hwords]
    rfl

def namespaceText (php : PhpClass) : String :=
  if php.ns == "" then "" else "namespace " ++ php.ns ++ ";\n\n"

def docText (php : PhpClass) : String :=
  match php.doc with
  | some doc => doc.render ""
  | none => ""

theorem render_eq (php : PhpClass) : php.render =
    php.namespaceText ++ unlines php.importLines ++ php.docText ++ "class " ++ php.name ++
      php.implementsClause ++ "\n\x7b\n" ++ (unlines php.memberLines ++ "\x7d\n") := by
  have hnamespace : unlines php.namespaceLines = php.namespaceText := by
    unfold namespaceLines namespaceText
    split
    · rfl
    · simp only [unlines, String.append_assoc]
      rfl
  have hdoc : unlines ((php.doc.map DocBlock.lines).getD []) = php.docText := by
    unfold docText
    cases php.doc with
    | none => rfl
    | some doc => simp [DocBlock.render]
  have hdeclaration : php.declaration = "class " ++ php.name ++ php.implementsClause := by
    unfold declaration implementsClause
    cases php.interfaces.toList with
    | nil => exact String.append_empty.symm
    | cons first rest => simp only [String.append_assoc]
  have hopening : "\n\x7b\n" = "\n" ++ ("\x7b" ++ "\n") := by decide
  have hclosing : "\x7d\n" = "\x7d" ++ "\n" := by decide
  simp only [render, lines_eq, unlines_append, hnamespace, hdoc, unlines, hdeclaration, hopening,
    hclosing, String.append_assoc, String.append_empty]

/-- Whatever calls have made a class, as long as they have brought names of classes and aliases that are
identifiers: if the names by which the class knows its imports can be told apart by a key, then its text
makes its imports, and the names in the clause behind its name mean its interfaces, in their order. -/
theorem render_interfaces {name ns : String} {changes : List ClassEdit}
    (hphp : php = (fresh name ns).callAll changes)
    (hchanges : ∀ change ∈ changes, change.SpellsWell)
    (hnodup : (php.imports.toList.map (fun entry => key entry.localName)).Nodup) :
    ∃ uses clause members shown,
      php.render = php.namespaceText ++ uses ++ php.docText ++ "class " ++ php.name ++ clause ++
        "\n\x7b\n" ++ members ∧
      readImports uses = some php.imports.toList ∧ readInterfaces clause = some shown ∧
      shown.map (php.resolveBy key) = php.interfaces.toList := by
  have hspelled : php.WellSpelled := hphp ▸ (wellSpelled_fresh name ns).callAll hchanges
  refine ⟨_, _, _, _, php.render_eq, hspelled.readImports_importLines,
    hspelled.readInterfaces_implementsClause hnodup, ?_⟩
  rw [List.map_map]
  have hmeant : ∀ interface ∈ php.interfaces.toList,
      (php.resolveBy key ∘ php.interfaceReference) interface = id interface :=
    fun interface hmem => (hspelled.interfaceReference_meaning hnodup hmem).2
  rw [List.map_congr_left hmeant, List.map_id]

/-- Interfaces that are imported before and after they are declared, under an alias, and not at all. -/
def interfaceCalls : List ClassEdit := [.addInterface "\\App\\Own", .addInterface "Countable",
  .addImport "Vendor\\Result" none, .addInterface "Vendor\\Result", .addInterface "Lib\\Item",
  .addImport "Lib\\Item" (some "Row")]

theorem render_interfaces_of_all_kinds : ∃ uses clause members shown,
    ((fresh "Order" "App").callAll interfaceCalls).render =
      "namespace App;\n\n" ++ uses ++ "" ++ "class " ++ "Order" ++ clause ++ "\n\x7b\n" ++ members ∧
    readImports uses = some [⟨"Lib\\Item", some "Row"⟩, ⟨"Vendor\\Result", none⟩] ∧
    readInterfaces clause = some shown ∧
    shown.map (((fresh "Order" "App").callAll interfaceCalls).resolveBy asciiLowercase) =
      ["App\\Own", "Countable", "Vendor\\Result", "Lib\\Item"] := by
  have hcalls : (∀ change ∈ interfaceCalls, change.SpellsWell) ∧
      (((fresh "Order" "App").callAll interfaceCalls).imports.toList.map
        (fun entry => asciiLowercase entry.localName)).Nodup := by
    decide +kernel
  have hparts : ((fresh "Order" "App").callAll interfaceCalls).namespaceText = "namespace App;\n\n" ∧
      ((fresh "Order" "App").callAll interfaceCalls).docText = "" ∧
      ((fresh "Order" "App").callAll interfaceCalls).name = "Order" ∧
      ((fresh "Order" "App").callAll interfaceCalls).imports.toList =
        [⟨"Lib\\Item", some "Row"⟩, ⟨"Vendor\\Result", none⟩] ∧
      ((fresh "Order" "App").callAll interfaceCalls).interfaces.toList =
        ["App\\Own", "Countable", "Vendor\\Result", "Lib\\Item"] := by
    decide +kernel
  have hread := render_interfaces rfl hcalls.1 hcalls.2
  rwa [hparts.1, hparts.2.1, hparts.2.2.1, hparts.2.2.2.1, hparts.2.2.2.2] at hread

end PhpClass

end SoapClasses
