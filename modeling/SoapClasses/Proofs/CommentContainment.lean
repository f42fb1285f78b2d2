import SoapClasses.ClassRendering
import SoapClasses.Proofs.ArgumentAgreement
import SoapClasses.Proofs.DocBlockComments
import SoapClasses.Proofs.GeneratedClients
import SoapClasses.Proofs.GeneratedTypes

/-!
# Comments of generated classes

The texts of a service description get into doc blocks in two ways. Descriptions are cut into lines, so
all that they can do is to end the comment. The types in tags are written as they are, so a line feed in
a type can also leave the comment; but the types of arguments and of results that are not mixed are made
of identifiers. So whether the comments of a class stay comments can be told from the few texts that are
neither.
-/

namespace SoapClasses

/-- All doc blocks of the class stay comments where the class is written. -/
structure PhpClass.CommentsStayInside (php : PhpClass) : Prop where
  own : ∀ doc, php.doc = some doc → doc.StaysInside ""
  fields : ∀ field ∈ php.fields.toList, ∀ doc, field.doc = some doc → doc.StaysInside indentation
  methods : ∀ method ∈ php.methods.toList, ∀ doc, method.doc = some doc →
    doc.StaysInside indentation

theorem space_of_mem_empty : ∀ c ∈ "".toList, c = ' ' := by decide

theorem space_of_mem_indentation : ∀ c ∈ indentation.toList, c = ' ' := by decide

theorem isPlainText_rangeText (range : OccurrenceRange) : IsPlainText range.text := by
  have hupper : IsPlainText range.upperText := by
    unfold OccurrenceRange.upperText
    split
    · exact isPlainText_toString _
    · decide
  unfold OccurrenceRange.text
  simp only [isPlainText_append]
  exact ⟨⟨⟨⟨by decide, isPlainText_toString _⟩, by decide⟩, hupper⟩, by decide⟩

theorem isPlainText_wrapperReference {wrapper : String}
    (h : ∀ segment ∈ nameSegments wrapper, isIdentifier segment = true) :
    IsPlainText (wrapperReference wrapper) := by
  have hsegments : ∀ segment ∈ nameSegments wrapper, IsPlainText segment :=
    fun segment hmem => isPlainText_of_isIdentifier (h segment hmem)
  have hname : IsPlainText wrapper := by
    rw [← joinText_nameSegments wrapper]
    exact isPlainText_joinText hsegments
  unfold wrapperReference
  split
  · exact hsegments _ (shortName_mem_nameSegments wrapper)
  · exact (isPlainText_append _ _).mpr ⟨by decide, hname⟩

section

variable {indent : String} (hindent : ∀ c ∈ indent.toList, c = ' ')
include hindent

theorem fitsComment_genericArguments_iff (range : OccurrenceRange) (item : String) :
    FitsComment indent (range.genericArguments item) ↔ FitsComment indent item := by
  unfold OccurrenceRange.genericArguments
  rw [fitsComment_append_right hindent (by decide) (by decide), fitsComment_append_left]
  simp only [isPlainText_append]
  exact ⟨⟨by decide, isPlainText_rangeText range⟩, by decide⟩

namespace SchemaProperty

variable (property : SchemaProperty)

theorem fitsComment_documentedType_iff :
    FitsComment indent property.documentedType ↔ FitsComment indent (declaredType property) := by
  unfold documentedType
  split
  · rw [fitsComment_append_left (by decide), fitsComment_genericArguments_iff hindent]
  · rfl

theorem staysInside_fieldDoc_iff (settings : FieldSettings) :
    (property.fieldDoc settings).StaysInside indent ↔
      ¬ commentEnd <:+: (property.facts.docs.getD "").toList ∧
        FitsComment indent (declaredType property) := by
  rw [fieldDoc, DocBlock.staysInside_withTag_iff hindent _ (by decide),
    DocBlock.staysInside_withSummary_empty_iff hindent,
    ← property.fitsComment_documentedType_iff hindent]
  split
  · rw [fitsComment_append_left (by decide)]
  · rfl

theorem staysInside_field_iff (settings : FieldSettings) :
    (∀ doc, (property.field settings).doc = some doc → doc.StaysInside indent) ↔
      (settings.docBlocks = true → ¬ commentEnd <:+: (property.facts.docs.getD "").toList ∧
        FitsComment indent (declaredType property)) := by
  rw [← property.staysInside_fieldDoc_iff hindent settings]
  unfold field
  cases settings.docBlocks <;> simp

theorem staysInside_iteratorDoc_iff :
    property.iteratorDoc.StaysInside indent ↔ FitsComment indent (declaredType property) := by
  have htag : FitsComment indent ("\\" ++ RuntimeNames.iteratorAggregate ++ property.generics) ↔
      FitsComment indent (declaredType property) := by
    rw [fitsComment_append_left (by decide), generics, fitsComment_genericArguments_iff hindent]
  rw [iteratorDoc, DocBlock.staysInside_withTag_iff hindent _ (by decide),
    DocBlock.staysInside_withTag_iff hindent _ (by decide), htag,
    and_iff_right (DocBlock.staysInside_empty hindent), and_self]

theorem staysInside_iteratorMethod_iff :
    (∀ doc, property.iteratorMethod.doc = some doc → doc.StaysInside indent) ↔
      FitsComment indent (declaredType property) := by
  have hitems : FitsComment indent
      ("\\" ++ RuntimeNames.arrayIterator ++ "|" ++ declaredType property ++ "[]") ↔
        FitsComment indent (declaredType property) := by
    rw [fitsComment_append_right hindent (by decide) (by decide), fitsComment_append_left (by decide)]
  have htag : FitsComment indent ("\\" ++ RuntimeNames.arrayIterator ++ property.generics) ↔
      FitsComment indent (declaredType property) := by
    rw [fitsComment_append_left (by decide), generics, fitsComment_genericArguments_iff hindent]
  simp only [iteratorMethod, Option.some.injEq, forall_eq']
  rw [DocBlock.staysInside_withTag_iff hindent _ (by decide),
    DocBlock.staysInside_withTag_iff hindent _ (by decide),
    DocBlock.staysInside_withTag_iff hindent _ (by decide), hitems, htag,
    and_iff_right (DocBlock.staysInside_empty hindent), and_self, and_self]

theorem staysInside_resultMethod_iff {wrapper : Option String}
    (h : ∀ name, wrapper = some name → ∀ segment ∈ nameSegments name, isIdentifier segment = true) :
    (∀ doc, (property.resultMethod wrapper).doc = some doc → doc.StaysInside indent) ↔
      (wrapper = none → FitsComment indent (declaredType property)) := by
  cases wrapper with
  | some name =>
    have hreference : IsPlainText (wrapperReference name) := isPlainText_wrapperReference (h name rfl)
    simp only [resultMethod, Option.some.injEq, forall_eq', reduceCtorEq, false_implies, iff_true]
    rw [DocBlock.staysInside_withTag_iff hindent _ (by decide)]
    exact ⟨DocBlock.staysInside_empty hindent, fitsComment_of_isPlainText hreference⟩
  | none =>
    simp only [resultMethod, Option.some.injEq, forall_eq', true_implies]
    rw [DocBlock.staysInside_withTag_iff hindent _ (by decide), String.append_assoc,
      fitsComment_append_right hindent (by decide +kernel) (by decide +kernel),
      and_iff_right (DocBlock.staysInside_empty hindent)]

end SchemaProperty

end

namespace SchemaType

variable {settings : GeneratorSettings} {schema : SchemaType} {php : PhpClass}

/-- The texts that the class for a type shows in comments fit there: the descriptions and types of its
properties where fields have doc blocks, and the type of its first property where a method shows it. -/
structure FitsComments (settings : GeneratorSettings) (schema : SchemaType) : Prop where
  described : settings.field.docBlocks = true → ∀ property ∈ schema.properties,
    ¬ commentEnd <:+: (property.facts.docs.getD "").toList
  typed : settings.field.docBlocks = true → ∀ property ∈ schema.properties,
    FitsComment indentation (declaredType property)
  iterated : settings.typeClass.iterator = true → ∀ first, schema.properties.head? = some first →
    FitsComment "" (declaredType first) ∧ FitsComment indentation (declaredType first)
  provided : settings.typeClass.resultProvider = true →
    bareWrapper settings.typeClass.resultWrapper = none →
      ∀ first, schema.properties.head? = some first → FitsComment indentation (declaredType first)

theorem staysInside_classDoc_iff : (∀ doc, settings.classDoc schema = some doc → doc.StaysInside "") ↔
    (settings.typeClass.iterator = true → ∀ first, schema.properties.head? = some first →
      FitsComment "" (declaredType first)) := by
  rw [GeneratorSettings.classDoc]
  cases settings.typeClass.iterator with
  | false => simp
  | true =>
    cases schema.properties.head? with
    | none => simp
    | some first => simp [first.staysInside_iteratorDoc_iff space_of_mem_empty]

theorem staysInside_capabilityMethods_iff
    (hwrapper : settings.typeClass.resultProvider = true → schema.properties ≠ [] →
      ∀ name, bareWrapper settings.typeClass.resultWrapper = some name →
        ∀ segment ∈ nameSegments name, isIdentifier segment = true) :
    (∀ method ∈ settings.capabilityMethods schema, ∀ doc, method.doc = some doc →
      doc.StaysInside indentation) ↔
      (settings.typeClass.iterator = true → ∀ first, schema.properties.head? = some first →
        FitsComment indentation (declaredType first)) ∧
      (settings.typeClass.resultProvider = true → ∀ first, schema.properties.head? = some first →
        (bareWrapper settings.typeClass.resultWrapper = none →
          FitsComment indentation (declaredType first))) := by
  rw [forall_mem_capabilityMethods_iff (fun doc hdoc => absurd hdoc (Option.some_ne_none doc).symm)]
  refine and_congr ?_ ?_
  · simp only [SchemaProperty.staysInside_iteratorMethod_iff space_of_mem_indentation]
  · refine forall_congr' fun hprovides => forall₂_congr fun first hfirst => ?_
    apply first.staysInside_resultMethod_iff space_of_mem_indentation
    apply hwrapper hprovides
    rintro hnil
    rw [hnil] at hfirst
    cases hfirst

/-- The comments of the class for a type stay comments exactly when the texts that they show fit. -/
theorem commentsStayInside_iff (h : generateType settings schema = .ok php) :
    php.CommentsStayInside ↔ schema.FitsComments settings := by
  have hmade := madeInto_of_generateType h
  have hown := @staysInside_classDoc_iff settings schema
  have hmethods := staysInside_capabilityMethods_iff (exists_generateType_iff.mp ⟨php, h⟩).1
  have hfield := fun property : SchemaProperty =>
    property.staysInside_field_iff space_of_mem_indentation settings.field
  rw [← hmade.doc] at hown
  rw [← hmade.methods] at hmethods
  constructor
  · rintro ⟨hinside, hfields, hinside'⟩
    rw [hmade.fields, List.forall_mem_map] at hfields
    obtain ⟨hiterated, hprovided⟩ := hmethods.mp hinside'
    constructor
    · exact fun hdocs property hmem => ((hfield property).mp (hfields property hmem) hdocs).1
    · exact fun hdocs property hmem => ((hfield property).mp (hfields property hmem) hdocs).2
    · exact fun hiterator first hfirst =>
        ⟨hown.mp hinside hiterator first hfirst, hiterated hiterator first hfirst⟩
    · exact fun hprovides hnone first hfirst => hprovided hprovides first hfirst hnone
  · rintro ⟨hdescribed, htyped, hiterated, hprovided⟩
    refine ⟨hown.mpr ?_, ?_, hmethods.mpr ⟨?_, ?_⟩⟩
    · exact fun hiterator first hfirst => (hiterated hiterator first hfirst).1
    · rw [hmade.fields, List.forall_mem_map]
      intro property hmem
      exact (hfield property).mpr
        (fun hdocs => ⟨hdescribed hdocs property hmem, htyped hdocs property hmem⟩)
    · exact fun hiterator first hfirst => (hiterated hiterator first hfirst).2
    · exact fun hprovides first hfirst hnone => hprovided hprovides hnone first hfirst

end SchemaType

namespace Operation

variable {operation : Operation}

/-- The texts that the method for an operation shows in its comment fit there: the description, the types
in the list of arguments, and a mixed result. -/
structure FitsComments (operation : Operation) : Prop where
  described : ¬ commentEnd <:+: (operation.docs.getD "").toList
  listed : operation.hasManyArguments = true → ∀ argument ∈ operation.arguments,
    ¬ commentEnd <:+: argument.typeName.toList
  mixed : operation.result.isMixed = true → FitsComment indentation operation.result.typeName

theorem isPlainText_documentedName {name : String} (h : IsTypeName name) :
    IsPlainText (documentedName name) := by
  have hspecial : ∀ d ∈ ['\n', '*', '/'], continuesIdentifier d = false ∧ d.toLower = d ∧ d ≠ '?' ∧
      d ≠ '\\' := by decide
  intro c hmem
  rw [disturbsComment_eq_false_iff]
  intro hc
  obtain ⟨hnone, hlower, hmark, hseparator⟩ := hspecial c hc
  exact not_mem_documentedName h hnone hlower hmark hseparator hmem

theorem occurrences_argumentList {arguments : List Argument}
    (h : ∀ argument ∈ arguments, isIdentifier argument.name = true) :
    ¬ commentEnd <:+: (argumentList arguments).toList ↔
      ∀ argument ∈ arguments, ¬ commentEnd <:+: argument.typeName.toList := by
  have hlisting : ∀ argument ∈ arguments, occurrences commentEnd argument.listing.toList =
      occurrences commentEnd argument.typeName.toList := by
    intro argument hmem
    have hbehind : IsPlainText (" $" ++ argument.name) :=
      (isPlainText_append _ _).mpr ⟨by decide, isPlainText_of_isIdentifier (h argument hmem)⟩
    rw [Argument.listing, String.append_assoc, String.toList_append,
      occurrences_append_right commentEnd_ne_nil hbehind.not_mem_commentEnd]
  have hheader : occurrences commentEnd
      "MultiArgumentRequest with following params:\n".toList = 0 := by decide
  have hjoined := @occurrences_joinText commentEnd '\n' commentEnd_ne_nil "\n" rfl
    not_feed_commentEnd ("MultiArgumentRequest with following params:\n" ::
      arguments.map Argument.listing)
  rw [List.map_cons, List.sum_cons, hheader, Nat.zero_add, List.map_map] at hjoined
  rw [← occurrences_eq_zero_iff, argumentList]
  show occurrences commentEnd (joinText "\n" (_ :: arguments.map Argument.listing)).toList = 0 ↔ _
  rw [hjoined, List.sum_eq_zero_iff_forall_eq_nat, List.forall_mem_map]
  refine forall₂_congr fun argument hmem => ?_
  rw [Function.comp_apply, hlisting argument hmem, occurrences_eq_zero_iff]

theorem staysInside_argumentDocumentation_iff (h : operation.fault = none) :
    operation.argumentDocumentation.StaysInside indentation ↔
      ¬ commentEnd <:+: (operation.docs.getD "").toList ∧
        (operation.hasManyArguments = true → ∀ argument ∈ operation.arguments,
          ¬ commentEnd <:+: argument.typeName.toList) := by
  obtain ⟨-, hnames, htypes⟩ := fault_eq_none_iff_checks.mp h
  have hdocumented : operation.documented.StaysInside indentation ↔
      ¬ commentEnd <:+: (operation.docs.getD "").toList :=
    DocBlock.staysInside_withSummary_empty_iff space_of_mem_indentation _
  unfold argumentDocumentation shape hasManyArguments
  rw [← hdocumented]
  cases harguments : operation.arguments with
  | nil => simp [ArgumentShape.ofArguments]
  | cons first rest =>
    rw [harguments] at hnames
    cases rest with
    | nil =>
      have htype : IsTypeName first.typeName := by
        have honly := (fault_eq_none_iff.mp h).onlyArgument first harguments
        exact honly
      have htag : IsPlainText (shortName RuntimeNames.requestInterface ++ " & " ++
          documentedName first.typeName ++ " $" ++ first.name) := by
        simp only [isPlainText_append]
        exact ⟨⟨⟨⟨by decide +kernel, by decide⟩, isPlainText_documentedName htype⟩, by decide⟩,
          isPlainText_of_isIdentifier (hnames first List.mem_cons_self)⟩
      simp only [ArgumentShape.ofArguments]
      rw [DocBlock.staysInside_withTag_iff space_of_mem_indentation _ (by decide),
        and_iff_left (fitsComment_of_isPlainText htag)]
      simp
    | cons second rest =>
      have htag : IsPlainText (shortName RuntimeNames.multiArgumentRequest ++ " $" ++
          RuntimeNames.multiArgumentParameter) := by decide +kernel
      simp only [ArgumentShape.ofArguments]
      rw [DocBlock.staysInside_withTag_iff space_of_mem_indentation _ (by decide),
        and_iff_left (fitsComment_of_isPlainText htag),
        DocBlock.staysInside_withDetails_iff space_of_mem_indentation _ rfl,
        occurrences_argumentList hnames]
      simp

theorem staysInside_documentation_iff (h : operation.fault = none) :
    operation.documentation.StaysInside indentation ↔ operation.FitsComments := by
  have hthrown : IsPlainText (shortName RuntimeNames.soapException) := by decide +kernel
  have hinterface : IsPlainText (shortName RuntimeNames.resultInterface ++ " & ") := by decide +kernel
  have hwrapper : IsPlainText (shortName RuntimeNames.mixedResult ++ "<") := by decide +kernel
  have hresult : FitsComment indentation operation.result.documentation ↔
      (operation.result.isMixed = true → FitsComment indentation operation.result.typeName) := by
    unfold ResultType.documentation
    split
    · rename_i hmixed
      rw [fitsComment_append_right space_of_mem_indentation (by decide) (by decide),
        fitsComment_append_left hwrapper]
      simp [hmixed]
    · rename_i hmixed
      have htype := (fault_eq_none_iff.mp h).result (Bool.eq_false_iff.mpr hmixed)
      exact iff_of_true (fitsComment_of_isPlainText (isPlainText_documentedName htype))
        (fun hyes => absurd hyes hmixed)
  rw [documentation, DocBlock.staysInside_withTag_iff space_of_mem_indentation _ (by decide),
    DocBlock.staysInside_withTag_iff space_of_mem_indentation _ (by decide),
    and_iff_left (fitsComment_of_isPlainText hthrown), fitsComment_append_left hinterface, hresult,
    staysInside_argumentDocumentation_iff h]
  exact ⟨fun hall => ⟨hall.1.1, hall.1.2, hall.2⟩,
    fun hall => ⟨⟨hall.described, hall.listed⟩, hall.mixed⟩⟩

end Operation

namespace ClientDescription

variable {client : ClientDescription} {php : PhpClass}

/-- The comments of the class for a client stay comments exactly when the texts that the kept methods
show fit. -/
theorem commentsStayInside_iff (h : generateClient client = .ok php) :
    php.CommentsStayInside ↔ ∀ operation, client.Keeps operation → operation.FitsComments := by
  have hmade := madeInto_of_generateClient h
  have hfault := exists_generateClient_iff.mp ⟨php, h⟩
  have hmethods : (∀ method ∈ php.methods.toList, ∀ doc, method.doc = some doc →
      doc.StaysInside indentation) ↔
        ∀ operation, client.Keeps operation → operation.FitsComments := by
    rw [hmade.forall_mem_methods_iff (fun doc hdoc => absurd hdoc (Option.some_ne_none doc).symm)]
    refine forall₂_congr fun operation hkept => ?_
    have hnone := List.findSome?_eq_none_iff.mp hfault operation hkept.mem
    rw [← Operation.staysInside_documentation_iff hnone]
    simp only [Operation.clientMethod, Option.some.injEq, forall_eq']
  have hcaller : ∀ field ∈ php.fields.toList, ∀ doc, field.doc = some doc →
      doc.StaysInside indentation := by
    rw [hmade.fields, List.forall_mem_singleton]
    simp only [callerField, Option.some.injEq, forall_eq']
    have hplain : IsPlainText (shortName RuntimeNames.caller) := by decide +kernel
    rw [DocBlock.staysInside_withTag_iff space_of_mem_indentation _ (by decide)]
    exact ⟨DocBlock.staysInside_empty space_of_mem_indentation, fitsComment_of_isPlainText hplain⟩
  have hown : ∀ doc, php.doc = some doc → doc.StaysInside "" := by
    rw [hmade.doc]
    exact fun doc hdoc => absurd hdoc (Option.some_ne_none doc).symm
  exact ⟨fun hinside => hmethods.mp hinside.methods, fun hfits => ⟨hown, hcaller, hmethods.mpr hfits⟩⟩

end ClientDescription

/-- What a class is generated from: a type, under settings, or a client. -/
inductive ClassSource where
  | ofType (settings : GeneratorSettings) (schema : SchemaType)
  | ofClient (client : ClientDescription)

namespace ClassSource

def generate : ClassSource → Except AssemblyError PhpClass
  | .ofType settings schema => generateType settings schema
  | .ofClient client => generateClient client

/-- The texts fit that the comments of the class show. -/
def FitsComments : ClassSource → Prop
  | .ofType settings schema => schema.FitsComments settings
  | .ofClient client => ∀ operation, client.Keeps operation → operation.FitsComments

end ClassSource

/-- The comments of a generated class stay comments exactly when the texts that they show fit: no
description and no listed type ends the comment, and in tags no declared type and no mixed result ends it
or leaves it by a line feed. -/
theorem generated_comments_iff {source : ClassSource} {php : PhpClass}
    (h : source.generate = .ok php) : php.CommentsStayInside ↔ source.FitsComments := by
  cases source with
  | ofType settings schema => exact SchemaType.commentsStayInside_iff h
  | ofClient client => exact ClientDescription.commentsStayInside_iff h

/-- A type with a property of this description. -/
def SchemaType.ofDescription (docs : String) : SchemaType where
  ns := "App\\Type"
  name := "Order"
  properties := [⟨"number", "int", "", { docs := some docs }⟩]
  xsdType := "Order"
  distinct := List.pairwise_singleton _ _

/-- An operation without arguments that has this mixed result. -/
def Operation.ofMixedResult (typeName : String) : Operation :=
  ⟨"getAny", [], ⟨typeName, true⟩, none⟩

/-- A client with an operation of this mixed result. -/
def ClientDescription.ofMixedResult (typeName : String) : ClientDescription where
  name := "Shop"
  ns := "App"
  operations := [.ofMixedResult typeName]

theorem SchemaType.exists_generateType_ofDescription (docs : String) :
    ∃ php, generateType {} (ofDescription docs) = .ok php := by
  apply exists_generateType_iff.mpr
  refine ⟨fun hprovides => absurd hprovides Bool.false_ne_true, ?_⟩
  intro property hmem
  rw [List.mem_singleton.mp hmem]
  show isIdentifier "number" = true
  decide

theorem ClientDescription.keeps_ofMixedResult (typeName : String) :
    (ofMixedResult typeName).Keeps (.ofMixedResult typeName) := by
  simp [Keeps, ofMixedResult]

theorem ClientDescription.exists_generateClient_ofMixedResult (typeName : String) :
    ∃ php, generateClient (ofMixedResult typeName) = .ok php := by
  apply exists_generateClient_iff.mpr
  rw [fault_eq_none_iff]
  intro operation hmem
  rw [List.mem_singleton.mp hmem]
  have hname : isIdentifier (camelCase "getAny") = true := by decide +kernel
  refine ⟨hname, fun _ hmem => absurd hmem List.not_mem_nil, ?_, ?_⟩
  · exact fun argument hone => absurd hone.symm (List.cons_ne_nil _ _)
  · exact fun hplain => absurd hplain.symm Bool.false_ne_true

/-- Plain descriptions and results of more than one line that look like lines of a comment fit. -/
theorem generated_comments_iff_plain :
    (∃ php, generateType {} (.ofDescription "Number of\nthe order") = .ok php ∧
      php.CommentsStayInside) ∧
    ∃ php, generateClient (.ofMixedResult "array\n     * of orders") = .ok php ∧
      php.CommentsStayInside := by
  constructor
  · obtain ⟨php, hphp⟩ := SchemaType.exists_generateType_ofDescription "Number of\nthe order"
    have hiff := @generated_comments_iff (.ofType {} (.ofDescription "Number of\nthe order")) php hphp
    refine ⟨php, hphp, hiff.mpr ⟨?_, ?_, ?_, ?_⟩⟩
    · exact fun _ => by decide
    · exact fun _ => by decide +kernel
    · exact fun hiterator => absurd hiterator Bool.false_ne_true
    · exact fun hprovides => absurd hprovides Bool.false_ne_true
  · obtain ⟨php, hphp⟩ :=
      ClientDescription.exists_generateClient_ofMixedResult "array\n     * of orders"
    have hiff := @generated_comments_iff (.ofClient (.ofMixedResult "array\n     * of orders")) php hphp
    refine ⟨php, hphp, hiff.mpr ?_⟩
    intro operation hkept
    rw [List.mem_singleton.mp hkept.mem]
    exact ⟨by decide, fun _ => by decide, fun _ => by decide⟩

/-- A line feed in a mixed result leaves the comment, and so does the end of a comment in a
description. -/
theorem not_commentsStayInside_feed :
    (∃ php, generateClient (.ofMixedResult "array\nof orders") = .ok php ∧
      ¬ php.CommentsStayInside) ∧
    ∃ php, generateType {} (.ofDescription "Number */ of the order") = .ok php ∧
      ¬ php.CommentsStayInside := by
  constructor
  · obtain ⟨php, hphp⟩ := ClientDescription.exists_generateClient_ofMixedResult "array\nof orders"
    refine ⟨php, hphp, fun hinside => ?_⟩
    have hfits := (ClientDescription.commentsStayInside_iff hphp).mp hinside _
      (ClientDescription.keeps_ofMixedResult _)
    exact absurd (hfits.mixed rfl) (by decide)
  · obtain ⟨php, hphp⟩ := SchemaType.exists_generateType_ofDescription "Number */ of the order"
    refine ⟨php, hphp, fun hinside => ?_⟩
    have hfits := (SchemaType.commentsStayInside_iff hphp).mp hinside
    exact absurd (hfits.described rfl _ List.mem_cons_self) (by decide)

end SoapClasses
