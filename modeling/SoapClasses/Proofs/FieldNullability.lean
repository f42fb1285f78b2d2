import SoapClasses.Proofs.CodeWords
import SoapClasses.Proofs.PipelineRuns
import SoapClasses.Proofs.RenderedTypes

/-!
# Nullability of fields

That a field may be null is said in three places: by a question mark in front of its type, by the value that
it starts with, and by its doc block. Each of them is computed by itself, from the property and the settings.
Here the declaration is read again as it is written. The initial value and the doc block always say the
same. The type does as well, unless the property has been declared with a question mark of its own: the
mark stays there if the field may not be null, and there are two of them if it may.
-/

namespace SoapClasses

/-- The type, the variable and the initial value in the declaration of a field. -/
structure WrittenField where
  hint : Option String
  variableName : String
  initial : Option String
  deriving DecidableEq

/-- The field that these words declare, behind the word for its visibility. -/
def fieldOfWords : List String → Option WrittenField
  | [_, variableName] => some ⟨none, variableName, none⟩
  | [_, hint, variableName] => some ⟨some hint, variableName, none⟩
  | [_, variableName, "=", value] => some ⟨none, variableName, some value⟩
  | [_, hint, variableName, "=", value] => some ⟨some hint, variableName, some value⟩
  | _ => none

/-- The type has at most one question mark, which stands in front of it if and only if the field may be
null. -/
def WrittenField.HintsNull (written : WrittenField) (nullable : Bool) : Prop :=
  ∀ hint ∈ written.hint,
    hint.toList.count '?' ≤ 1 ∧ (hint.toList.head? = some '?' ↔ nullable = true)

instance (written : WrittenField) (nullable : Bool) : Decidable (written.HintsNull nullable) :=
  inferInstanceAs (Decidable (∀ hint ∈ written.hint, _ ∧ _))

/-- The doc block of the field gives it a type that starts with null if and only if the field may be null. -/
def Field.DocumentsNull (field : Field) (nullable : Bool) : Prop :=
  ∀ doc ∈ field.doc, ∃ text, doc.tag? "var" = some text ∧
    ("null | ".toList <+: text.toList ↔ nullable = true)

theorem codeWords_visibility (visibility : Visibility) :
    codeWords visibility.word = [visibility.word] := by
  cases visibility <;> decide

theorem codeWords_hintText {hint : Option String} (h : ∀ type ∈ hint, IsWord (renderType type))
    (behind : String) :
    codeWords (hintText hint ++ behind) = (hint.map renderType).toList ++ codeWords behind := by
  cases hint with
  | none => exact congrArg codeWords String.empty_append
  | some type =>
    have hblank : codeWords " " = [] := by decide
    have htype : IsWord (renderType type) := h type rfl
    show codeWords (renderType type ++ " " ++ behind) = [renderType type] ++ codeWords behind
    rw [codeWords_around (by rfl) (by rfl) (by rfl) (by rfl), hblank, codeWords_of_isWord htype,
      List.append_nil]

theorem codeWords_initialText {initial : Option String} (h : ∀ value ∈ initial, IsWord value)
    (front : String) : codeWords (front ++ initialText initial ++ ";") =
      codeWords front ++ (initial.map (fun value => ["=", value])).getD [] := by
  have hend : codeWords ";" = [] := by decide
  rw [codeWords_append_of_head? (by rfl) (by rfl), hend, List.append_nil]
  cases initial with
  | none => exact (congrArg codeWords String.append_empty).trans (List.append_nil _).symm
  | some value =>
    have hequals : codeWords " = " = ["="] := by decide
    have hvalue : IsWord value := h value rfl
    show codeWords (front ++ (" = " ++ value)) = codeWords front ++ ["=", value]
    rw [← String.append_assoc, codeWords_around (by rfl) (by rfl) (by rfl) (by rfl), hequals,
      codeWords_of_isWord hvalue, List.append_assoc]
    rfl

theorem fieldOfWords_declaration {field : Field} (hname : IsWord ("$" ++ field.name))
    (hhint : ∀ type ∈ field.typeHint, IsWord (renderType type))
    (hinitial : ∀ value ∈ field.initial, IsWord value) :
    fieldOfWords (codeWords field.declaration) =
      some ⟨field.typeHint.map renderType, "$" ++ field.name, field.initial⟩ := by
  have hblank : codeWords " " = [] := by decide
  rw [field.declaration_eq, codeWords_around (by rfl) (by rfl) (by rfl) (by rfl),
    codeWords_visibility, hblank, codeWords_hintText hhint, codeWords_initialText hinitial,
    codeWords_of_isWord hname]
  cases field.typeHint <;> cases field.initial <;> rfl

namespace SchemaProperty

variable {settings : FieldSettings} {property : SchemaProperty}

/-- The property has a built-in type or a class whose name can be written. -/
def IsDeclarable (property : SchemaProperty) : Prop :=
  isBuiltinType property.typeName = true ∨
    isIdentifier (className property.typeName) = true ∧ isNamespace property.ns = true

/-- The field has a built-in type with a question mark of its own. -/
structure IsMarked (property : SchemaProperty) : Prop where
  single : property.facts.isList = false
  builtin : isBuiltinType property.typeName = true
  marked : property.typeName.toList.head? = some '?'

theorem exists_declaredType_eq (h : property.IsDeclarable)
    (hbuiltin : isBuiltinType property.typeName = false) :
    ∃ name, (nameSegments name).all isIdentifier = true ∧ declaredType property = "\\" ++ name := by
  rw [declaredType, hbuiltin, if_neg Bool.false_ne_true]
  rcases h with hword | ⟨hname, hns⟩
  · rw [hbuiltin] at hword
    cases hword
  · rw [isNamespace, Bool.or_eq_true, beq_iff_eq] at hns
    exact ⟨_, all_nameSegments_qualify hns hname, rfl⟩

theorem isWord_declaredType (h : property.IsDeclarable) : IsWord (declaredType property) := by
  cases hbuiltin : isBuiltinType property.typeName with
  | true =>
    rw [declaredType, hbuiltin, if_pos rfl]
    exact isWord_of_isBuiltinType hbuiltin
  | false =>
    obtain ⟨name, hsegments, hdeclared⟩ := exists_declaredType_eq h hbuiltin
    rw [hdeclared]
    exact (isWord_of_nameSegments hsegments).append_left (by decide)

theorem isWord_hintedType (h : property.IsDeclarable) : IsWord property.hintedType := by
  unfold hintedType
  split
  · exact isWord_of_isBuiltinType (by decide)
  · exact isWord_declaredType h

theorem renderType_hintedType (h : property.IsDeclarable) :
    renderType property.hintedType = property.hintedType ∧
      renderType ("?" ++ property.hintedType) = "?" ++ property.hintedType := by
  unfold hintedType
  split
  · exact renderType_of_isBuiltinType (by decide)
  · cases hbuiltin : isBuiltinType property.typeName with
    | true =>
      rw [declaredType, hbuiltin, if_pos rfl]
      exact renderType_of_isBuiltinType hbuiltin
    | false =>
      obtain ⟨name, hsegments, hdeclared⟩ := exists_declaredType_eq h hbuiltin
      have habsolute : absoluteName ("\\" ++ name) = "\\" ++ name := by
        rw [absoluteName_separator, absoluteName, (isClassName_of_nameSegments hsegments).1]
      have hseparator : ("\\" ++ name).toList = '\\' :: name.toList := by
        rw [String.toList_append]
        rfl
      have hrendered := renderType_of_separator hseparator
      rw [habsolute] at hrendered
      rw [hdeclared]
      exact hrendered

/-- The type of a field has no question mark of its own unless the property is marked. -/
theorem not_nullMark_hintedType (h : property.IsDeclarable) (hmarked : ¬ property.IsMarked) :
    '?' ∉ property.hintedType.toList := by
  unfold hintedType
  split
  · decide
  · rename_i hsingle
    cases hbuiltin : isBuiltinType property.typeName with
    | true =>
      rw [declaredType, hbuiltin, if_pos rfl]
      apply not_nullMark_of_isBuiltinType hbuiltin
      exact fun hmark => hmarked ⟨Bool.not_eq_true _ ▸ hsingle, hbuiltin, hmark⟩
    | false =>
      obtain ⟨name, hsegments, hdeclared⟩ := exists_declaredType_eq h hbuiltin
      have hmark : continuesIdentifier '?' = false := by decide
      have hname := (isClassName_of_nameSegments hsegments).2.not_mem hmark (by decide)
      rw [hdeclared, String.toList_append, List.mem_append, not_or]
      exact ⟨by decide, hname⟩

theorem head?_hintedType (h : property.IsMarked) : property.hintedType.toList.head? = some '?' := by
  rw [hintedType, h.single, if_neg Bool.false_ne_true, declaredType, h.builtin, if_pos rfl]
  exact h.marked

/-- What is written as the type of the field. -/
def shownType (property : SchemaProperty) (settings : FieldSettings) : String :=
  if property.isNullable settings then "?" ++ property.hintedType else property.hintedType

theorem map_renderType_field (h : property.IsDeclarable) :
    (property.field settings).typeHint.map renderType =
      if settings.typeHints then some (property.shownType settings) else none := by
  obtain ⟨hplain, hmarked⟩ := renderType_hintedType h
  unfold field shownType
  cases settings.typeHints with
  | false => rfl
  | true =>
    cases property.isNullable settings with
    | false => exact congrArg some hplain
    | true => exact congrArg some hmarked

/-- One question mark in front of the type of the field says that it may be null, unless the type has its
own. -/
theorem shownType_iff (h : property.IsDeclarable) :
    ((property.shownType settings).toList.count '?' ≤ 1 ∧
      ((property.shownType settings).toList.head? = some '?' ↔ property.isNullable settings = true)) ↔
      ¬ property.IsMarked := by
  have hchars : ("?" ++ property.hintedType).toList = '?' :: property.hintedType.toList := by
    rw [String.toList_append]
    rfl
  unfold shownType
  by_cases hmarked : property.IsMarked
  · have hhead := head?_hintedType hmarked
    refine iff_of_false (fun hstated => ?_) (fun hnot => hnot hmarked)
    cases hnullable : property.isNullable settings with
    | false =>
      rw [hnullable, if_neg Bool.false_ne_true] at hstated
      exact Bool.false_ne_true (hstated.2.mp hhead)
    | true =>
      rw [hnullable, if_pos rfl, hchars, List.count_cons_self] at hstated
      have hpos : 0 < property.hintedType.toList.count '?' :=
        List.count_pos_iff.mpr (List.mem_of_head? hhead)
      omega
  · have hnone := not_nullMark_hintedType h hmarked
    have hcount : property.hintedType.toList.count '?' = 0 := List.count_eq_zero.mpr hnone
    refine iff_of_true ?_ hmarked
    cases hnullable : property.isNullable settings with
    | false =>
      rw [if_neg Bool.false_ne_true, hcount]
      exact ⟨Nat.zero_le 1, iff_of_false (fun hhead => hnone (List.mem_of_head? hhead))
        Bool.false_ne_true⟩
    | true =>
      rw [if_pos rfl, hchars, List.count_cons_self, hcount]
      exact ⟨Nat.le_refl 1, iff_of_true rfl rfl⟩

theorem not_prefix_documentedType (h : property.IsDeclarable) :
    ¬ "null | ".toList <+: property.documentedType.toList := by
  unfold documentedType
  split
  · rw [String.toList_append]
    exact fun hprefix => absurd (List.cons_prefix_cons.mp hprefix).1 (by decide)
  · intro hprefix
    have hblank : ' ' ∈ (declaredType property).toList := hprefix.subset (by decide)
    exact absurd ((isWord_declaredType h).unbroken ' ' hblank) (by decide)

theorem tag?_fieldDoc (property : SchemaProperty) (settings : FieldSettings) :
    (property.fieldDoc settings).tag? "var" =
      some (if property.isNullable settings then "null | " ++ property.documentedType
        else property.documentedType) := by
  simp [fieldDoc, DocBlock.tag?, DocBlock.withTag, DocBlock.withSummary, DocBlock.empty]

theorem documentsNull_field (h : property.IsDeclarable) :
    (property.field settings).DocumentsNull (property.isNullable settings) := by
  intro doc hdoc
  obtain ⟨-, rfl⟩ : settings.docBlocks = true ∧ property.fieldDoc settings = doc := by
    simpa [field] using hdoc
  refine ⟨_, tag?_fieldDoc property settings, ?_⟩
  cases property.isNullable settings with
  | false =>
    rw [if_neg Bool.false_ne_true]
    exact iff_of_false (not_prefix_documentedType h) Bool.false_ne_true
  | true =>
    rw [if_pos rfl, String.toList_append]
    exact iff_of_true (List.prefix_append _ _) rfl

theorem find?_of_property {schema : SchemaType} {php after : PhpClass}
    (h : (Assembler.property settings).assemble (.property schema property) php = (.ok (), after)) :
    isIdentifier property.name = true ∧
      after.fields.find? property.name = some (property.field settings) := by
  have hleads := (leads_singleton _ _ _ _).mpr h
  have hsucceeds : (draftField php.toClassIdentity settings property).outcome = .ok () :=
    hleads.1 _ List.mem_cons_self
  cases hname : isIdentifier property.name with
  | false =>
    rw [draftField_of_not_isIdentifier _ hname] at hsucceeds
    cases hsucceeds
  | true =>
    have hedits : GenerationStep.draft php.toClassIdentity
        ⟨.property settings, .property schema property⟩ = _ :=
      draftField_of_isIdentifier php.toClassIdentity hname
    refine ⟨rfl, ?_⟩
    rw [(leads_iff_extended.mp hleads).2, editLog, List.flatMap_singleton, hedits]
    exact (MemberTable.find?_put php.fields (property.field settings) property.name).trans (if_pos rfl)

theorem isWord_shownType (h : property.IsDeclarable) : IsWord (property.shownType settings) := by
  have hhinted := isWord_hintedType h
  unfold shownType
  split
  · exact hhinted.append_left (by decide)
  · exact hhinted

theorem isWord_renderType_field (h : property.IsDeclarable) :
    ∀ type ∈ (property.field settings).typeHint, IsWord (renderType type) := by
  intro type htype
  have hwritten := congrArg (Option.map renderType) htype
  rw [map_renderType_field h, Option.map_some] at hwritten
  cases hhints : settings.typeHints with
  | false =>
    rw [hhints] at hwritten
    cases hwritten
  | true =>
    rw [hhints, if_pos rfl] at hwritten
    rw [← Option.some.inj hwritten]
    exact isWord_shownType h

theorem isWord_initial_field (property : SchemaProperty) (settings : FieldSettings) :
    ∀ value ∈ (property.field settings).initial, IsWord value := by
  intro value hvalue
  obtain ⟨-, rfl⟩ : property.isNullable settings = true ∧ "null" = value := by
    simpa [field] using hvalue
  exact isWord_of_isBuiltinType (by decide)

/-- A field that the step makes of a property is written with the words for its parts, and its initial
value and its doc block say whether it may be null. Its type says the same, by at most one question mark,
if and only if there is no type or the property is not marked. -/
theorem nullability_of_assemble {schema : SchemaType} {php after : PhpClass}
    (h : (Assembler.property settings).assemble (.property schema property) php = (.ok (), after))
    (hdeclarable : property.IsDeclarable) :
    ∃ field written, after.fields.find? property.name = some field ∧
      fieldOfWords (codeWords field.declaration) = some written ∧
      written.variableName = "$" ++ property.name ∧
      (written.hint.isSome = true ↔ settings.typeHints = true) ∧
      (written.initial = some "null" ↔ property.isNullable settings = true) ∧
      (field.doc.isSome = true ↔ settings.docBlocks = true) ∧
      field.DocumentsNull (property.isNullable settings) ∧
      (written.HintsNull (property.isNullable settings) ↔
        (settings.typeHints = true → ¬ property.IsMarked)) := by
  obtain ⟨hname, hfind⟩ := find?_of_property h
  have hhint : (property.field settings).typeHint.map renderType =
      if settings.typeHints then some (property.shownType settings) else none :=
    map_renderType_field hdeclarable
  have hwords : fieldOfWords (codeWords (property.field settings).declaration) = _ :=
    fieldOfWords_declaration ((isWord_of_isIdentifier hname).append_left (by decide))
      (isWord_renderType_field hdeclarable) (isWord_initial_field property settings)
  rw [hhint] at hwords
  refine ⟨_, _, hfind, hwords, rfl, ?_, ?_, ?_, documentsNull_field hdeclarable, ?_⟩
  · cases settings.typeHints <;> simp
  · unfold field
    cases property.isNullable settings <;> simp
  · unfold field
    cases settings.docBlocks <;> simp
  · cases settings.typeHints with
    | false => exact iff_of_true (fun _ hnone => nomatch hnone) (fun h => absurd h Bool.false_ne_true)
    | true =>
      have hshown := @shownType_iff settings property hdeclarable
      simpa [WrittenField.HintsNull] using hshown

/-- A property that is declared with this type. -/
def noteProperty (typeName ns : String) (nullable : Bool) : SchemaProperty :=
  ⟨"note", typeName, ns, { isNullable := nullable }⟩

/-- The class of a type after the step for its only property. -/
def declaring (typeName ns : String) (nullable : Bool) : Except AssemblyError Unit × PhpClass :=
  (Assembler.property {}).assemble
    (.property ⟨"App\\Type", "Order", [noteProperty typeName ns nullable], "Order",
      List.pairwise_singleton _ _⟩ (noteProperty typeName ns nullable))
    (.fresh "Order" "App\\Type")

/-- The field for a property with a type in a namespace. -/
theorem nullability_of_assemble_class :
    ∃ field written, (declaring "order-note" "App\\Type" true).2.fields.find? "note" = some field ∧
      fieldOfWords (codeWords field.declaration) = some written ∧
      written.initial = some "null" ∧ field.DocumentsNull true ∧ written.HintsNull true := by
  have hassembled : declaring "order-note" "App\\Type" true =
      (.ok (), (declaring "order-note" "App\\Type" true).2) := rfl
  obtain ⟨field, written, hfind, hread, -, -, hinitial, -, hdocuments, hhints⟩ :=
    nullability_of_assemble hassembled (.inr ⟨by decide +kernel, by decide +kernel⟩)
  exact ⟨field, written, hfind, hread, hinitial.mpr rfl, hdocuments,
    hhints.mpr (fun _ hmarked => absurd hmarked.builtin (by decide +kernel))⟩

/-- The field for a property with a marked type: there are two question marks if it may be null, and one if
it may not. -/
theorem not_hintsNull_marked :
    ((declaring "?string" "" true).1 = .ok () ∧
      ((declaring "?string" "" true).2.fields.find? "note").bind (fun field =>
        fieldOfWords (codeWords field.declaration)) = some ⟨some "??string", "$note", some "null"⟩ ∧
      ¬ (⟨some "??string", "$note", some "null"⟩ : WrittenField).HintsNull true) ∧
    ((declaring "?string" "" false).1 = .ok () ∧
      ((declaring "?string" "" false).2.fields.find? "note").bind (fun field =>
        fieldOfWords (codeWords field.declaration)) = some ⟨some "?string", "$note", none⟩ ∧
      ¬ (⟨some "?string", "$note", none⟩ : WrittenField).HintsNull false) := by
  constructor
  · decide +kernel
  · decide +kernel

end SchemaProperty

end SoapClasses
