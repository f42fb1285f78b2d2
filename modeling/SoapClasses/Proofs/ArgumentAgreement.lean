import SoapClasses.Proofs.JoinedTexts
import SoapClasses.Proofs.OperationMethods

/-!
# Agreement on arguments

Signature, call and documentation of a method are written by different functions, but all of them look
at the shape of the arguments. So a method that takes no argument sends an empty request, a method that
takes one passes it on and documents it, and a method for several takes one aggregate request and lists
them all.
-/

namespace SoapClasses

/-- How an argument is listed: by its type and its name. -/
def Argument.listing (argument : Argument) : String :=
  argument.typeName ++ " $" ++ argument.name

/-- The descriptions of all tags of a name. -/
def DocBlock.descriptions (doc : DocBlock) (name : String) : List String :=
  (doc.tags.filter (fun tag => tag.name == name)).map DocTag.description

/-- The first line of the method calls the service under the name of the operation and hands it this
expression. -/
def Method.Hands (method : Method) (operation : Operation) (argument : String) : Prop :=
  (textLines method.body).head? =
    some ("$response = ($this->caller)('" ++ operation.name ++ "', " ++ argument ++ ");")

/-- The method takes nothing, and sends and documents nothing. -/
structure Operation.TakesNothing (operation : Operation) (method : Method) (doc : DocBlock) :
    Prop where
  parameters : method.parameters = []
  call : method.Hands operation "new MultiArgumentRequest([])"
  tags : doc.descriptions "param" = []

/-- The method takes this argument, passes it on, and documents it by one tag. -/
structure Operation.TakesOne (operation : Operation) (argument : Argument) (method : Method)
    (doc : DocBlock) : Prop where
  parameters : method.parameters = [⟨argument.name, some argument.typeName⟩]
  call : method.Hands operation ("$" ++ argument.name)
  tags : ∃ type, doc.descriptions "param" = [type ++ " $" ++ argument.name]
  details : doc.details = none

/-- The method takes an aggregate request, passes it on, documents it by one tag, and lists what it is
made of. -/
structure Operation.TakesMany (operation : Operation) (method : Method) (doc : DocBlock) : Prop where
  parameters : method.parameters =
    [⟨"multiArgumentRequest", some RuntimeNames.multiArgumentRequest⟩]
  call : method.Hands operation "$multiArgumentRequest"
  tags : ∃ type, doc.descriptions "param" = [type ++ " $multiArgumentRequest"]
  details : doc.details.map textLines = some ("MultiArgumentRequest with following params:" :: "" ::
    operation.arguments.map Argument.listing)

namespace DocBlock

variable (doc : DocBlock)

@[simp] theorem descriptions_withSummary (text name : String) :
    (doc.withSummary text).descriptions name = doc.descriptions name := rfl

@[simp] theorem descriptions_withDetails (text name : String) :
    (doc.withDetails text).descriptions name = doc.descriptions name := rfl

@[simp] theorem descriptions_withTag (tag description name : String) :
    (doc.withTag tag description).descriptions name =
      doc.descriptions name ++ if tag = name then [description] else [] := by
  by_cases h : tag = name
  · simp [descriptions, withTag, h]
  · simp [descriptions, withTag, h]

@[simp] theorem details_withTag (tag description : String) :
    (doc.withTag tag description).details = doc.details := rfl

end DocBlock

namespace Operation

variable {operation : Operation}

theorem argumentList_eq (arguments : List Argument) :
    argumentList arguments = "MultiArgumentRequest with following params:\n" ++
      joinText "\n" ("" :: arguments.map Argument.listing) := by
  rw [← joinText_append_head, String.append_empty]
  rfl

theorem isBlank_argumentList (arguments : List Argument) :
    isBlank (argumentList arguments) = false := by
  have hheader : "MultiArgumentRequest with following params:\n".toList.all isWhiteSpace = false := by
    decide
  rw [argumentList_eq, isBlank, String.toList_append, List.all_append, hheader, Bool.false_and]

theorem isLine_listing {argument : Argument} (hname : isIdentifier argument.name = true)
    (hfeed : '\n' ∉ argument.typeName.toList) :
    '\n' ∉ argument.listing.toList ∧ argument.listing.toList.getLast? ≠ some '\r' ∧
      argument.listing ≠ "" := by
  unfold Argument.listing
  refine ⟨?_, ?_, ?_⟩
  · have hnameFeed : '\n' ∉ argument.name.toList := not_mem_of_isIdentifier hname (by decide)
    simp [hfeed, hnameFeed]
  · intro hlast
    have hne : argument.name.toList ≠ [] := by simpa using ne_empty_of_isIdentifier hname
    rw [String.toList_append, List.getLast?_append_of_ne_nil _ hne] at hlast
    have hcontinues := continuesIdentifier_of_mem hname (List.mem_of_getLast? hlast)
    have hreturn : continuesIdentifier '\r' = false := by decide
    rw [hreturn] at hcontinues
    cases hcontinues
  · intro hempty
    have hchars := congrArg String.toList hempty
    simp at hchars

/-- The list of the arguments has a line for each of them, behind the header and an empty line. -/
theorem textLines_argumentList {arguments : List Argument} (hne : arguments ≠ [])
    (hnames : ∀ argument ∈ arguments, isIdentifier argument.name = true)
    (hfeed : ∀ argument ∈ arguments, '\n' ∉ argument.typeName.toList) :
    textLines (argumentList arguments) = "MultiArgumentRequest with following params:" :: "" ::
      arguments.map Argument.listing := by
  have hline : ∀ line ∈ arguments.map Argument.listing,
      '\n' ∉ line.toList ∧ line.toList.getLast? ≠ some '\r' ∧ line ≠ "" := by
    intro line hmem
    obtain ⟨argument, hargument, rfl⟩ := List.mem_map.mp hmem
    exact isLine_listing (hnames argument hargument) (hfeed argument hargument)
  have hlines : argumentList arguments = joinText "\n"
      ("MultiArgumentRequest with following params:" :: "" ::
        arguments.map Argument.listing) := by
    rw [argumentList_eq, joinText_cons_cons]
    rfl
  rw [hlines]
  apply textLines_joinText (List.cons_ne_nil _ _)
  · simp only [List.forall_mem_cons]
    exact ⟨by decide, by decide, fun line hmem => (hline line hmem).1⟩
  · simp only [List.forall_mem_cons]
    exact ⟨by decide, by decide, fun line hmem => (hline line hmem).2.1⟩
  · have hsome : arguments.map Argument.listing ≠ [] := by simpa using hne
    intro hlast
    rw [List.getLast?_cons_cons, List.getLast?_cons_of_ne_nil hsome] at hlast
    exact (hline "" (List.mem_of_getLast? hlast)).2.2 rfl

theorem assemble_eq_ok_iff_log {php after : PhpClass} :
    Assembler.clientMethod.assemble (.operation operation) php = (.ok (), after) ↔
      operation.fault = none ∧ after = php.extended
        (importEdits php.toClassIdentity.refersOutside operation.referencedNames ++
          [.putMethod operation.clientMethod]) := by
  rw [← leads_singleton, leads_iff_extended, firstFailure, List.findSome?_singleton,
    ClientDescription.failure_operation, Option.map_eq_none_iff]
  apply and_congr_right
  intro hfault
  have hedits : (GenerationStep.draft php.toClassIdentity
      ⟨.clientMethod, .operation operation⟩).edits =
        importEdits php.toClassIdentity.refersOutside operation.referencedNames ++
          [.putMethod operation.clientMethod] :=
    congrArg Draft.edits (operation.draftOperation_eq _ hfault)
  rw [editLog, List.flatMap_singleton, hedits]

theorem methods_of_assemble {php after : PhpClass}
    (h : Assembler.clientMethod.assemble (.operation operation) php = (.ok (), after)) :
    after.methods = php.methods.put operation.clientMethod := by
  rw [(assemble_eq_ok_iff_log.mp h).2, PhpClass.methods_extended, List.filterMap_append,
    filterMap_importEdits (fun _ => rfl)]
  rfl

theorem find?_of_assemble {php after : PhpClass}
    (h : Assembler.clientMethod.assemble (.operation operation) php = (.ok (), after)) :
    after.methods.find? (camelCase operation.name) = some operation.clientMethod := by
  rw [methods_of_assemble h, MemberTable.find?_put]
  exact if_pos rfl

theorem hands_clientMethod (h : operation.fault = none) :
    operation.clientMethod.Hands operation operation.shape.argumentText := by
  obtain ⟨hname, harguments, _⟩ := fault_eq_none_iff_checks.mp h
  exact head?_textLines_bodyLines (not_feed_of_methodName (methodName_of_isIdentifier hname))
    (ArgumentShape.not_feed_of_argumentText harguments)

theorem descriptions_documentation : operation.documentation.descriptions "param" =
    match operation.shape with
    | .nothing => []
    | .single argument => [shortName RuntimeNames.requestInterface ++ " & " ++
        documentedName argument.typeName ++ " $" ++ argument.name]
    | .aggregate _ => [shortName RuntimeNames.multiArgumentRequest ++ " $" ++
        RuntimeNames.multiArgumentParameter] := by
  have hempty : DocBlock.empty.descriptions "param" = [] := rfl
  unfold documentation argumentDocumentation
  cases operation.shape <;> simp [documented, hempty]

theorem details_documentation : operation.documentation.details =
    match operation.shape with
    | .nothing => none
    | .single _ => none
    | .aggregate arguments => some (argumentList arguments) := by
  unfold documentation argumentDocumentation
  cases operation.shape with
  | nothing => rfl
  | single argument => rfl
  | aggregate arguments => simp [DocBlock.withDetails, DocBlock.visibleText, isBlank_argumentList]

theorem details_of_few (h : ¬ 2 ≤ operation.arguments.length) :
    operation.documentation.details = none := by
  rw [details_documentation, shape]
  cases harguments : operation.arguments with
  | nil => rfl
  | cons first rest =>
    cases rest with
    | nil => rfl
    | cons second rest => exact absurd (by simp [harguments]) h

theorem takesNothing_clientMethod (h : operation.fault = none) (hnone : operation.arguments = []) :
    operation.TakesNothing operation.clientMethod operation.documentation := by
  have hshape : operation.shape = .nothing := by rw [shape, hnone]; rfl
  have hcall := hands_clientMethod h
  have hshort : shortName RuntimeNames.multiArgumentRequest = "MultiArgumentRequest" := by
    decide +kernel
  constructor
  · show operation.shape.parameters = _
    rw [hshape]
    rfl
  · rw [hshape, ArgumentShape.argumentText, hshort] at hcall
    exact hcall
  · rw [descriptions_documentation, hshape]

theorem takesOne_clientMethod (h : operation.fault = none) {argument : Argument}
    (hone : operation.arguments = [argument]) :
    operation.TakesOne argument operation.clientMethod operation.documentation := by
  have hshape : operation.shape = .single argument := by rw [shape, hone]; rfl
  have hcall := hands_clientMethod h
  constructor
  · show operation.shape.parameters = _
    rw [hshape]
    rfl
  · rw [hshape] at hcall
    exact hcall
  · rw [descriptions_documentation, hshape]
    exact ⟨_, rfl⟩
  · rw [details_documentation, hshape]

theorem takesMany_clientMethod (h : operation.fault = none)
    (hfeed : ∀ argument ∈ operation.arguments, '\n' ∉ argument.typeName.toList)
    (hmany : 2 ≤ operation.arguments.length) :
    operation.TakesMany operation.clientMethod operation.documentation := by
  have hshape : operation.shape = .aggregate operation.arguments := by
    unfold shape ArgumentShape.ofArguments
    split
    · rename_i hnone
      rw [hnone] at hmany
      cases hmany
    · rename_i argument hone
      rw [hone] at hmany
      exact absurd hmany (Nat.lt_irrefl 1)
    · rfl
  have hcall := hands_clientMethod h
  obtain ⟨_, hnames, _⟩ := fault_eq_none_iff_checks.mp h
  have hne : operation.arguments ≠ [] :=
    List.ne_nil_of_length_pos (Nat.lt_of_lt_of_le Nat.zero_lt_two hmany)
  constructor
  · show operation.shape.parameters = _
    rw [hshape]
    rfl
  · rw [hshape] at hcall
    exact hcall
  · refine ⟨shortName RuntimeNames.multiArgumentRequest, ?_⟩
    rw [descriptions_documentation, hshape]
    show [_ ++ " $" ++ RuntimeNames.multiArgumentParameter] = _
    rw [String.append_assoc]
    rfl
  · rw [details_documentation, hshape]
    exact congrArg some (textLines_argumentList hne hnames hfeed)

/-- The method that a successful step leaves for an operation agrees with the number of its arguments in
all its parts. -/
theorem assemble_agrees {php after : PhpClass}
    (hfeed : ∀ argument ∈ operation.arguments, '\n' ∉ argument.typeName.toList)
    (h : Assembler.clientMethod.assemble (.operation operation) php = (.ok (), after)) :
    ∃ method doc, after.methods.find? (camelCase operation.name) = some method ∧
      method.doc = some doc ∧
      (operation.arguments = [] → operation.TakesNothing method doc) ∧
      (∀ argument, operation.arguments = [argument] → operation.TakesOne argument method doc) ∧
      (2 ≤ operation.arguments.length → operation.TakesMany method doc) ∧
      (operation.TakesMany method doc ↔ operation.hasManyArguments = true) := by
  have hfault := (assemble_eq_ok_iff_log.mp h).1
  have hmany : operation.hasManyArguments = true ↔ 2 ≤ operation.arguments.length := by
    rw [hasManyArguments, decide_eq_true_eq]
    exact Iff.rfl
  refine ⟨operation.clientMethod, operation.documentation, find?_of_assemble h, rfl,
    takesNothing_clientMethod hfault, fun argument => takesOne_clientMethod hfault,
    takesMany_clientMethod hfault hfeed, ?_⟩
  rw [hmany]
  refine ⟨?_, takesMany_clientMethod hfault hfeed⟩
  intro htakes
  by_contra hfew
  have hlisted := htakes.details
  rw [details_of_few hfew] at hlisted
  cases hlisted

/-- An operation with two arguments. -/
def ofTwoArguments : Operation :=
  ⟨"find-order", [⟨"customer", "App\\Type\\Customer"⟩, ⟨"number", "int"⟩], ⟨"string", false⟩, none⟩

theorem assemble_agrees_two_arguments : ∃ after method doc,
    Assembler.clientMethod.assemble (.operation ofTwoArguments) (PhpClass.fresh "Shop" "App") =
      (.ok (), after) ∧
    after.methods.find? (camelCase "find-order") = some method ∧ method.doc = some doc ∧
    ofTwoArguments.TakesMany method doc := by
  have hfault : ofTwoArguments.fault = none := Option.isNone_iff_eq_none.mp (by decide +kernel)
  have hsuccess := (@assemble_eq_ok_iff_log ofTwoArguments (PhpClass.fresh "Shop" "App") _).mpr
    ⟨hfault, rfl⟩
  obtain ⟨method, doc, hfound, hdoc, -, -, hmany, -⟩ := assemble_agrees (by decide) hsuccess
  exact ⟨_, method, doc, hsuccess, hfound, hdoc, hmany (by decide)⟩

end Operation

end SoapClasses
