import Mathlib.Data.List.Forall2
import SoapClasses.Proofs.ArgumentAgreement
import SoapClasses.Proofs.DisplayedNames
import SoapClasses.Proofs.RenderedTypes

/-!
# Documented types

The tags of a method of a client mention classes by names that its reader looks up in the class. Names
of the runtime library always mean what they should. A type of the service does if its name has three
segments at least; a shorter one is shown without anything that it could be looked up by, and so is the
type of a mixed result, which is shown as it is spelled.
-/

namespace SoapClasses

/-! ## Reading tags -/

/-- The text before the first occurrence of a character, and the text behind it. -/
def cutAt (c : Char) (text : String) : String × String :=
  (String.ofList (text.toList.takeWhile (· != c)),
    String.ofList ((text.toList.dropWhile (· != c)).drop 1))

/-- The names in a type: a name, or a name and what stands in angle brackets behind it. -/
def namesOfType (text : String) : List String :=
  if '<' ∈ text.toList then
    [(cutAt '<' text).1, String.ofList (cutAt '<' text).2.toList.dropLast]
  else [(cutAt ' ' text).1]

/-- The names that the description of a tag mentions: a name, or a name and a type with an ampersand
between them. A variable may stand behind them. -/
def mentionedNames (description : String) : List String :=
  let (first, behind) := cutAt ' ' description
  let (sign, type) := cutAt ' ' behind
  if sign = "&" then first :: namesOfType type else [first]

theorem cutAt_eq {c : Char} {text front behind : String} (h : c ∉ front.toList)
    (htext : text.toList = front.toList ++ c :: behind.toList) : cutAt c text = (front, behind) := by
  have hfront : ∀ d ∈ front.toList, (d != c) = true := by
    intro d hmem
    simpa using fun hd : d = c => h (hd ▸ hmem)
  rw [cutAt, htext, List.takeWhile_append_of_pos hfront, List.dropWhile_append_of_pos hfront]
  simp

theorem cutAt_of_not_mem {c : Char} {text : String} (h : c ∉ text.toList) :
    cutAt c text = (text, "") := by
  have htext : ∀ d ∈ text.toList, (d != c) = true := by
    intro d hmem
    simpa using fun hd : d = c => h (hd ▸ hmem)
  rw [cutAt, List.takeWhile_eq_self_iff.mpr htext, List.dropWhile_eq_nil_iff.mpr htext,
    String.ofList_toList]
  rfl

theorem mentionedNames_ampersand {first : String} (h : ' ' ∉ first.toList) (type : String) :
    mentionedNames (first ++ " & " ++ type) = first :: namesOfType type := by
  have hfirst : cutAt ' ' (first ++ " & " ++ type) = (first, "& " ++ type) :=
    cutAt_eq h (by simp)
  have hsign : cutAt ' ' ("& " ++ type) = ("&", type) := cutAt_eq (by decide) (by simp)
  simp only [mentionedNames, hfirst, hsign, if_true]

theorem namesOfType_plain {name : String} (hspace : ' ' ∉ name.toList) (hbracket : '<' ∉ name.toList) :
    namesOfType name = [name] := by
  rw [namesOfType, if_neg hbracket, cutAt_of_not_mem hspace]

theorem namesOfType_variable {name : String} (hspace : ' ' ∉ name.toList)
    (hbracket : '<' ∉ name.toList) {variableName : String} (hvariable : '<' ∉ variableName.toList) :
    namesOfType (name ++ " $" ++ variableName) = [name] := by
  have hnone : '<' ∉ (name ++ " $" ++ variableName).toList := by
    simp [hbracket, hvariable]
  have hcut : cutAt ' ' (name ++ " $" ++ variableName) = (name, "$" ++ variableName) :=
    cutAt_eq hspace (by simp)
  rw [namesOfType, if_neg hnone, hcut]

theorem namesOfType_brackets {outer : String} (h : '<' ∉ outer.toList) (inner : String) :
    namesOfType (outer ++ "<" ++ inner ++ ">") = [outer, inner] := by
  have hmem : '<' ∈ (outer ++ "<" ++ inner ++ ">").toList := by simp
  have hcut : cutAt '<' (outer ++ "<" ++ inner ++ ">") = (outer, inner ++ ">") :=
    cutAt_eq h (by simp)
  rw [namesOfType, if_pos hmem, hcut]
  simp

theorem not_mark_documentedName {name : String} (h : IsTypeName name) :
    ' ' ∉ (documentedName name).toList ∧ '<' ∉ (documentedName name).toList :=
  ⟨not_mem_documentedName h (by decide) (by decide) (by decide) (by decide),
    not_mem_documentedName h (by decide) (by decide) (by decide) (by decide)⟩

theorem mentionedNames_argument {argument : Argument} (hname : isIdentifier argument.name = true)
    (htype : IsTypeName argument.typeName) :
    mentionedNames (shortName RuntimeNames.requestInterface ++ " & " ++
      documentedName argument.typeName ++ " $" ++ argument.name) =
        [shortName RuntimeNames.requestInterface, documentedName argument.typeName] := by
  have hbracket : '<' ∉ argument.name.toList := by
    intro hmem
    exact absurd (continuesIdentifier_of_mem hname hmem) (by decide)
  have htag : shortName RuntimeNames.requestInterface ++ " & " ++
      documentedName argument.typeName ++ " $" ++ argument.name =
        shortName RuntimeNames.requestInterface ++ " & " ++
          (documentedName argument.typeName ++ " $" ++ argument.name) := by
    simp only [String.append_assoc]
  obtain ⟨hspace, hnone⟩ := not_mark_documentedName htype
  rw [htag, mentionedNames_ampersand (by decide +kernel), namesOfType_variable hspace hnone hbracket]

/-! ## Names that denote -/

/-- The first segment of a name, behind any backslashes in front of it. -/
def firstSegment (name : String) : String :=
  (nameSegments (dropLeadingSeparators name)).headD ""

namespace PhpClass

/-- A name that is shown for a declared class means this class; built-in types and what is no name of a
class at all are not looked up. -/
def Denotes (php : PhpClass) (shown declared : String) : Prop :=
  isBuiltinType declared = false → IsClassName declared →
    php.resolve shown = dropLeadingSeparators declared

/-- A type that is shown by the last two segments of its name. -/
def ShowsByParent (php : PhpClass) (name : String) : Prop :=
  isBuiltinType name = true ∨ 3 ≤ (nameSegments (dropLeadingSeparators name)).length ∨
    php.ReadsGlobally (firstSegment name)

/-- A type that is shown as it is spelled. -/
def ShowsVerbatim (php : PhpClass) (name : String) : Prop :=
  isBuiltinType name = true ∨ ¬ IsClassName name ∨ name.toList.head? = some '\\' ∨
    php.ReadsGlobally (firstSegment name)

variable {php : PhpClass} {name : String}

theorem denotes_whole_iff (himports : ∀ entry ∈ php.imports.toList, isQualified entry.name = true)
    (hbuiltin : isBuiltinType name = false) (hclass : IsClassName name) :
    php.Denotes (dropLeadingSeparators name) name ↔ php.ReadsGlobally (firstSegment name) := by
  obtain ⟨segments, hne, hall, hname⟩ := id hclass
  obtain ⟨first, rest, rfl⟩ := List.exists_cons_of_ne_nil hne
  obtain ⟨hfirst, hrest⟩ := List.forall_mem_cons.mp hall
  have hsegment : firstSegment name = first := by
    rw [firstSegment, hname, nameSegments_joinText hne hall]
    rfl
  rw [hsegment, ← resolve_eq_self_iff himports hfirst hrest, ← hname]
  exact ⟨fun h => h hbuiltin hclass, fun h _ _ => h⟩

theorem denotes_verbatim_iff (himports : ∀ entry ∈ php.imports.toList, isQualified entry.name = true) :
    php.Denotes name name ↔ php.ShowsVerbatim name := by
  unfold ShowsVerbatim
  cases hbuiltin : isBuiltinType name with
  | true =>
    refine iff_of_true (fun hnot => ?_) (.inl rfl)
    rw [hbuiltin] at hnot
    cases hnot
  | false =>
    by_cases hclass : IsClassName name
    · by_cases habsolute : name.toList.head? = some '\\'
      · refine iff_of_true (fun _ _ => ?_) (.inr (.inr (.inl habsolute)))
        rw [resolve, resolveBy, if_pos habsolute]
      · have hbare := dropLeadingSeparators_of_head? habsolute
        have hwhole := denotes_whole_iff himports hbuiltin hclass
        rw [hbare] at hwhole
        simp [hwhole, hclass, habsolute]
    · exact iff_of_true (fun _ hnot => absurd hnot hclass) (.inr (.inl hclass))

end PhpClass

namespace Operation

/-- The classes that the tag of the parameter is about, if there is one. -/
def declaredParameters (operation : Operation) : List (List String) :=
  match operation.shape with
  | .nothing => []
  | .single argument => [[RuntimeNames.requestInterface, argument.typeName]]
  | .aggregate _ => [[RuntimeNames.multiArgumentRequest]]

/-- The classes that the tag of the result is about. -/
def declaredResult (operation : Operation) : List String :=
  if operation.result.isMixed then
    [RuntimeNames.resultInterface, RuntimeNames.mixedResult, operation.result.typeName]
  else [RuntimeNames.resultInterface, operation.result.typeName]

/-- The tags of a doc block mention the classes that the operation is declared with. -/
structure DocumentsTypes (operation : Operation) (php : PhpClass) (doc : DocBlock) : Prop where
  parameters : List.Forall₂ (List.Forall₂ php.Denotes)
    ((doc.descriptions "param").map mentionedNames) operation.declaredParameters
  result : List.Forall₂ (List.Forall₂ php.Denotes)
    ((doc.descriptions "return").map mentionedNames) [operation.declaredResult]
  thrown : List.Forall₂ (List.Forall₂ php.Denotes)
    ((doc.descriptions "throws").map mentionedNames) [[RuntimeNames.soapException]]

/-- The types that the doc block for an operation shows can be looked up in the class. -/
structure ShownIn (operation : Operation) (php : PhpClass) : Prop where
  argument : ∀ argument, operation.arguments = [argument] → php.ShowsByParent argument.typeName
  result : operation.result.isMixed = false → php.ShowsByParent operation.result.typeName
  mixed : operation.result.isMixed = true → php.ShowsVerbatim operation.result.typeName

variable {operation : Operation}

theorem descriptions_return_documentation : operation.documentation.descriptions "return" =
    [shortName RuntimeNames.resultInterface ++ " & " ++ operation.result.documentation] := by
  have hempty : DocBlock.empty.descriptions "return" = [] := rfl
  unfold documentation argumentDocumentation
  cases operation.shape <;> simp [documented, hempty]

theorem descriptions_throws_documentation : operation.documentation.descriptions "throws" =
    [shortName RuntimeNames.soapException] := by
  have hempty : DocBlock.empty.descriptions "throws" = [] := rfl
  unfold documentation argumentDocumentation
  cases operation.shape <;> simp [documented, hempty]

end Operation

namespace ClientDescription

variable {client : ClientDescription} {php : PhpClass} {name : String} (hmade : client.MadeInto php)
  (hclient : isIdentifier client.name = true) (hlocal : php.LocalNamesApart)
include hmade hclient hlocal

theorem denotes_runtimeName (hruntime : name ∈ referencedRuntimeNames)
    (hmem : name ∈ client.referencedNames) : php.Denotes (shortName name) name := by
  intro _ _
  obtain ⟨hqualified, hsegments⟩ := segments_referencedRuntimeNames name hruntime
  have hresolved := resolve_shortName hmade hclient hlocal hsegments hqualified hmem
    (fun segment hnone => absurd hnone List.not_mem_nil)
  rw [dropLeadingSeparators_runtimeName hruntime]
  exact hresolved

theorem denotes_documentedName_iff (hname : IsTypeName name)
    (hmem : namespaceOf name ∈ client.referencedNames) :
    php.Denotes (documentedName name) name ↔ php.ShowsByParent name := by
  unfold PhpClass.ShowsByParent
  cases hbuiltin : isBuiltinType name with
  | true =>
    refine iff_of_true (fun hnot => ?_) (.inl rfl)
    rw [hbuiltin] at hnot
    cases hnot
  | false =>
    have hclass : IsClassName name := by simpa [IsTypeName, hbuiltin] using hname
    by_cases hlong : 3 ≤ (nameSegments (dropLeadingSeparators name)).length
    · obtain ⟨short, hshort, hqualified, hsegments, hshown, hbare⟩ :=
        hclass.exists_documentedName_eq hbuiltin hlong
      refine iff_of_true (fun _ _ => ?_) (.inr (.inl hlong))
      rw [hshown, hbare]
      exact resolve_shortName hmade hclient hlocal hsegments hqualified hmem
        (List.forall_mem_singleton.mpr hshort)
    · rw [documentedName_eq_whole hbuiltin hlong,
        PhpClass.denotes_whole_iff (isQualified_of_mem_imports hmade) hbuiltin hclass]
      simp [hlong]

section

variable {operation : Operation} (hfault : operation.fault = none)
  (hmem : operation ∈ client.operations)
include hfault hmem

omit hmade hclient hlocal hfault in
theorem mem_referencedNames_of_operation (h : name ∈ operation.referencedNames) :
    name ∈ client.referencedNames :=
  List.mem_cons_of_mem _ (List.mem_flatMap.mpr ⟨operation, hmem, h⟩)

theorem documentsTypes_parameters_iff :
    List.Forall₂ (List.Forall₂ php.Denotes)
        ((operation.documentation.descriptions "param").map mentionedNames)
        operation.declaredParameters ↔
      ∀ argument, operation.arguments = [argument] → php.ShowsByParent argument.typeName := by
  have hreferenced : ∀ name ∈ operation.shape.documentedNames, name ∈ client.referencedNames :=
    fun name hname => mem_referencedNames_of_operation hmem (List.mem_append_left _ hname)
  rw [Operation.descriptions_documentation]
  unfold Operation.declaredParameters Operation.shape at *
  cases harguments : operation.arguments with
  | nil => simp [ArgumentShape.ofArguments]
  | cons first rest =>
    rw [harguments] at hreferenced
    cases rest with
    | nil =>
      have hname := (Operation.fault_eq_none_iff_checks.mp hfault).2.1 first
        (harguments ▸ List.mem_cons_self)
      have htype := (Operation.fault_eq_none_iff.mp hfault).onlyArgument first harguments
      have hrequest : php.Denotes (shortName RuntimeNames.requestInterface)
          RuntimeNames.requestInterface :=
        denotes_runtimeName hmade hclient hlocal (by simp [referencedRuntimeNames])
          (hreferenced _ List.mem_cons_self)
      have hshown := denotes_documentedName_iff hmade hclient hlocal htype
        (hreferenced _ (List.mem_cons_of_mem _ List.mem_cons_self))
      have hnames := mentionedNames_argument hname htype
      simp only [ArgumentShape.ofArguments, List.map_cons, List.map_nil, hnames]
      simp [hrequest, hshown]
    | cons second rest =>
      have hrequest : php.Denotes (shortName RuntimeNames.multiArgumentRequest)
          RuntimeNames.multiArgumentRequest :=
        denotes_runtimeName hmade hclient hlocal (by simp [referencedRuntimeNames])
          (hreferenced _ List.mem_cons_self)
      have hnames : mentionedNames (shortName RuntimeNames.multiArgumentRequest ++ " $" ++
          RuntimeNames.multiArgumentParameter) = [shortName RuntimeNames.multiArgumentRequest] := by
        decide +kernel
      simp only [ArgumentShape.ofArguments, List.map_cons, List.map_nil, hnames]
      simp [hrequest]

theorem documentsTypes_result_iff :
    List.Forall₂ (List.Forall₂ php.Denotes)
        ((operation.documentation.descriptions "return").map mentionedNames)
        [operation.declaredResult] ↔
      (operation.result.isMixed = false → php.ShowsByParent operation.result.typeName) ∧
        (operation.result.isMixed = true → php.ShowsVerbatim operation.result.typeName) := by
  have hreferenced : ∀ name ∈ RuntimeNames.resultInterface :: operation.result.documentedNames,
      name ∈ client.referencedNames := by
    intro name hname
    apply mem_referencedNames_of_operation hmem
    simp only [Operation.referencedNames, List.mem_append, List.mem_cons] at hname ⊢
    rcases hname with hname | hname
    · exact .inr (.inl hname)
    · exact .inr (.inr (.inl hname))
  have hinterface : php.Denotes (shortName RuntimeNames.resultInterface)
      RuntimeNames.resultInterface :=
    denotes_runtimeName hmade hclient hlocal (by simp [referencedRuntimeNames])
      (hreferenced _ List.mem_cons_self)
  rw [Operation.descriptions_return_documentation, List.map_cons, List.map_nil,
    mentionedNames_ampersand (by decide +kernel)]
  unfold Operation.declaredResult ResultType.documentation
  unfold ResultType.documentedNames at hreferenced
  cases hmixed : operation.result.isMixed with
  | true =>
    rw [hmixed, if_pos rfl] at hreferenced
    have hwrapper : php.Denotes (shortName RuntimeNames.mixedResult) RuntimeNames.mixedResult :=
      denotes_runtimeName hmade hclient hlocal (by simp [referencedRuntimeNames])
        (hreferenced _ (List.mem_cons_of_mem _ List.mem_cons_self))
    have hinner := @PhpClass.denotes_verbatim_iff php operation.result.typeName
      (isQualified_of_mem_imports hmade)
    rw [if_pos rfl, namesOfType_brackets (by decide +kernel)]
    simp [hinterface, hwrapper, hinner]
  | false =>
    rw [hmixed, if_neg Bool.false_ne_true] at hreferenced
    have htype := (Operation.fault_eq_none_iff.mp hfault).result hmixed
    have hshown := denotes_documentedName_iff hmade hclient hlocal htype
      (hreferenced _ (List.mem_cons_of_mem _ List.mem_cons_self))
    obtain ⟨hspace, hbracket⟩ := not_mark_documentedName htype
    rw [if_neg Bool.false_ne_true, namesOfType_plain hspace hbracket]
    simp [hinterface, hshown]

/-- The tags of a method that the class keeps mention the declared classes exactly when the types that
they show can be looked up. -/
theorem documentsTypes_iff_shownIn :
    operation.DocumentsTypes php operation.documentation ↔ operation.ShownIn php := by
  have hthrown : php.Denotes (shortName RuntimeNames.soapException) RuntimeNames.soapException := by
    apply denotes_runtimeName hmade hclient hlocal (by simp [referencedRuntimeNames])
    apply mem_referencedNames_of_operation hmem
    simp [Operation.referencedNames]
  have hnames : mentionedNames (shortName RuntimeNames.soapException) =
      [shortName RuntimeNames.soapException] := by decide +kernel
  have hthrows : List.Forall₂ (List.Forall₂ php.Denotes)
      ((operation.documentation.descriptions "throws").map mentionedNames)
      [[RuntimeNames.soapException]] := by
    rw [Operation.descriptions_throws_documentation, List.map_cons, List.map_nil, hnames]
    exact .cons (.cons hthrown .nil) .nil
  have hparameters := documentsTypes_parameters_iff hmade hclient hlocal hfault hmem
  have hresult := documentsTypes_result_iff hmade hclient hlocal hfault hmem
  constructor
  · rintro ⟨hshown, hreturned, -⟩
    obtain ⟨hplain, hmixed⟩ := hresult.mp hreturned
    exact ⟨hparameters.mp hshown, hplain, hmixed⟩
  · rintro ⟨hshown, hplain, hmixed⟩
    exact ⟨hparameters.mpr hshown, hresult.mpr ⟨hplain, hmixed⟩, hthrows⟩

end

end ClientDescription

/-- In a class whose imports are told apart, the tags of the method for an operation mention the classes
that it is declared with exactly when the types that they show can be looked up: a single argument or a
result by the last two of at least three segments, a mixed result by a backslash in front. A shorter name
can be looked up in the global namespace only. -/
theorem documentsTypes_iff {client : ClientDescription} {php : PhpClass}
    (hclient : isIdentifier client.name = true) (hphp : generateClient client = .ok php)
    (hlocal : php.LocalNamesApart) {operation : Operation} (hkept : client.Keeps operation) :
    ∃ method doc, php.methods.find? (camelCase operation.name) = some method ∧
      method.doc = some doc ∧ (operation.DocumentsTypes php doc ↔ operation.ShownIn php) := by
  have hmade := ClientDescription.madeInto_of_generateClient hphp
  have hfault := ClientDescription.exists_generateClient_iff.mp ⟨php, hphp⟩
  have hnone := List.findSome?_eq_none_iff.mp hfault operation hkept.mem
  exact ⟨operation.clientMethod, operation.documentation, hmade.find?_methods_of_keeps hkept, rfl,
    ClientDescription.documentsTypes_iff_shownIn hmade hclient hlocal hnone hkept.mem⟩

/-- An operation on types that can be looked up. -/
def Operation.ofFullNames : Operation :=
  ⟨"findUser", [⟨"id", "App\\Type\\UserId"⟩], ⟨"\\App\\Type\\User", true⟩, none⟩

def ClientDescription.ofFullNames : ClientDescription :=
  ⟨"Shop", "App", [.ofFullNames]⟩

theorem documentsTypes_iff_fullNames : ∃ php method doc,
    generateClient .ofFullNames = .ok php ∧ php.LocalNamesApart ∧
      php.methods.find? "findUser" = some method ∧ method.doc = some doc ∧
      Operation.ofFullNames.DocumentsTypes php doc := by
  obtain ⟨php, hphp⟩ := (@ClientDescription.exists_generateClient_iff .ofFullNames).mpr
    (Option.isNone_iff_eq_none.mp (by decide +kernel))
  have hmade := ClientDescription.madeInto_of_generateClient hphp
  have hlocal : php.LocalNamesApart :=
    ClientDescription.localNamesApart_of_referencedNames hmade (by decide +kernel) (by decide +kernel)
  have hkept : ClientDescription.ofFullNames.Keeps .ofFullNames := by decide +kernel
  obtain ⟨method, doc, hfound, hdoc, hiff⟩ := documentsTypes_iff (by decide) hphp hlocal hkept
  refine ⟨php, method, doc, hphp, hlocal, hfound, hdoc, hiff.mpr ⟨?_, ?_, ?_⟩⟩
  · intro argument hargument
    cases hargument
    exact .inr (.inl (by decide +kernel))
  · exact fun hplain => absurd hplain.symm Bool.false_ne_true
  · exact fun _ => .inr (.inr (.inl (by decide)))

/-- Operations on types that cannot be looked up: of one segment, of two, and of a mixed result. -/
def Operation.ofShortNames : List Operation := [
  ⟨"findUser", [⟨"id", "UserId"⟩], ⟨"int", false⟩, none⟩,
  ⟨"findOrder", [], ⟨"Vendor\\Order", false⟩, none⟩,
  ⟨"findAny", [], ⟨"App\\Type\\Anything", true⟩, none⟩]

def ClientDescription.ofShortNames : ClientDescription :=
  ⟨"Shop", "App", Operation.ofShortNames⟩

theorem not_documentsTypes_shortNames : ∃ php, generateClient .ofShortNames = .ok php ∧
    php.LocalNamesApart ∧ ∀ operation ∈ Operation.ofShortNames,
      php.methods.find? (camelCase operation.name) = some operation.clientMethod ∧
        ¬ operation.DocumentsTypes php operation.documentation := by
  have hfault : ClientDescription.ofShortNames.fault = none :=
    Option.isNone_iff_eq_none.mp (by decide +kernel)
  obtain ⟨php, hphp⟩ := ClientDescription.exists_generateClient_iff.mpr hfault
  have hmade := ClientDescription.madeInto_of_generateClient hphp
  have hlocal : php.LocalNamesApart :=
    ClientDescription.localNamesApart_of_referencedNames hmade (by decide +kernel) (by decide +kernel)
  have hkept : ∀ operation ∈ Operation.ofShortNames,
      ClientDescription.ofShortNames.Keeps operation := by decide +kernel
  refine ⟨php, hphp, hlocal, fun operation hmem =>
    ⟨hmade.find?_methods_of_keeps (hkept operation hmem), ?_⟩⟩
  have hnone := List.findSome?_eq_none_iff.mp hfault operation hmem
  rw [ClientDescription.documentsTypes_iff_shownIn hmade (by decide) hlocal hnone hmem]
  intro hshown
  have hglobal : ∀ first, ¬ php.ReadsGlobally first := by
    rintro first ⟨hempty, -⟩
    have hns : php.ns = ClientDescription.ofShortNames.identity.ns :=
      congrArg ClassIdentity.ns hmade.identity
    rw [hns] at hempty
    exact absurd hempty (by decide)
  simp only [Operation.ofShortNames, List.mem_cons, List.not_mem_nil, or_false] at hmem
  rcases hmem with rfl | rfl | rfl
  · rcases hshown.argument _ rfl with hbuiltin | hlong | hreads
    · exact absurd hbuiltin (by decide +kernel)
    · exact absurd hlong (by decide +kernel)
    · exact hglobal _ hreads
  · rcases hshown.result rfl with hbuiltin | hlong | hreads
    · exact absurd hbuiltin (by decide +kernel)
    · exact absurd hlong (by decide +kernel)
    · exact hglobal _ hreads
  · rcases hshown.mixed rfl with hbuiltin | hclass | habsolute | hreads
    · exact absurd hbuiltin (by decide +kernel)
    · exact hclass (isClassName_of_nameSegments (by decide +kernel)).2
    · exact absurd habsolute (by decide)
    · exact hglobal _ hreads

end SoapClasses
