import SoapClasses.Proofs.ReferencedNames
import SoapClasses.Proofs.StepEndings

/-!
# Drafts for operations

What the step on an operation drafts can be told from the operation alone: either the first thing that
is wrong with its names, or one method, behind the imports that the method needs. The shape of the
arguments decides which types are looked up and which names are imported.
-/

namespace SoapClasses

open Draft

namespace ArgumentShape

/-- The types of arguments that a doc block shows by their own names. -/
def documentedTypes : ArgumentShape → List String
  | .single argument => [argument.typeName]
  | _ => []

/-- The names that the documentation of the arguments refers to. -/
def documentedNames : ArgumentShape → List String
  | .nothing => []
  | .single argument => [RuntimeNames.requestInterface, namespaceOf argument.typeName]
  | .aggregate _ => [RuntimeNames.multiArgumentRequest]

/-- The names that the call refers to. -/
def calledNames : ArgumentShape → List String
  | .nothing => [RuntimeNames.multiArgumentRequest]
  | _ => []

/-- The expression that a method for these arguments hands to the caller. -/
def argumentText : ArgumentShape → String
  | .nothing => "new " ++ shortName RuntimeNames.multiArgumentRequest ++ "([])"
  | .single argument => "$" ++ argument.name
  | .aggregate _ => "$" ++ RuntimeNames.multiArgumentParameter

end ArgumentShape

namespace ResultType

/-- The types of a result that a doc block shows by their own names. -/
def documentedTypes (result : ResultType) : List String :=
  if result.isMixed = true then [] else [result.typeName]

/-- The names that the documentation of a result refers to. -/
def documentedNames (result : ResultType) : List String :=
  if result.isMixed = true then [RuntimeNames.mixedResult] else [namespaceOf result.typeName]

/-- How a result is shown in a doc block. -/
def documentation (result : ResultType) : String :=
  if result.isMixed = true then shortName RuntimeNames.mixedResult ++ "<" ++ result.typeName ++ ">"
  else documentedName result.typeName

end ResultType

namespace Operation

def shape (operation : Operation) : ArgumentShape :=
  .ofArguments operation.arguments

/-- The types that are looked up for the method, in their order. -/
def documentedTypes (operation : Operation) : List String :=
  operation.shape.documentedTypes ++ operation.result.documentedTypes

/-- The names that the method refers to, in the order in which they come up. -/
def referencedNames (operation : Operation) : List String :=
  operation.shape.documentedNames ++ RuntimeNames.resultInterface ::
    (operation.result.documentedNames ++ RuntimeNames.soapException :: operation.shape.calledNames)

/-- The documentation of the operation and of its arguments. -/
def argumentDocumentation (operation : Operation) : DocBlock :=
  match operation.shape with
  | .nothing => operation.documented
  | .single argument => operation.documented.withTag "param"
      (shortName RuntimeNames.requestInterface ++ " & " ++ documentedName argument.typeName
        ++ " $" ++ argument.name)
  | .aggregate arguments => (operation.documented.withDetails (argumentList arguments)).withTag "param"
      (shortName RuntimeNames.multiArgumentRequest ++ " $" ++ RuntimeNames.multiArgumentParameter)

def documentation (operation : Operation) : DocBlock :=
  (operation.argumentDocumentation.withTag "return"
    (shortName RuntimeNames.resultInterface ++ " & " ++ operation.result.documentation)).withTag
    "throws" (shortName RuntimeNames.soapException)

/-- The method of a client class for an operation. -/
def clientMethod (operation : Operation) : Method where
  name := camelCase operation.name
  parameters := operation.shape.parameters
  returnType := some operation.result.signatureType
  body := joinText "\n" (operation.bodyLines operation.shape.argumentText)
  doc := some operation.documentation

/-- The first thing that is wrong with an operation, if anything is, and the member that is blamed for
it: the name of the operation, then those of its arguments, then the types that are looked up. -/
def fault (operation : Operation) : Option (String × NamingError) :=
  if isIdentifier (camelCase operation.name) = true then
    (((operation.arguments.find? (fun argument => !isIdentifier argument.name)).map
        (fun argument => .invalidIdentifier .parameter argument.name)).or
      (operation.documentedTypes.findSome? typeNameFault)).map (fun cause =>
        (camelCase operation.name, cause))
  else some (operation.name, .invalidIdentifier .method operation.name)

end Operation

section

variable (owner : ClassIdentity)

theorem ArgumentShape.callArgument_eq (shape : ArgumentShape) :
    shape.callArgument owner =
      ⟨importEdits owner.refersOutside shape.calledNames, .ok shape.argumentText⟩ := by
  cases shape with
  | nothing =>
    have hrequest := referTo_runtimeName owner RuntimeNames.multiArgumentRequest
      (by simp [referencedRuntimeNames])
    simp [callArgument, hrequest, mk_ok_bind, calledNames, argumentText]
  | single argument => rfl
  | aggregate arguments => rfl

namespace ResultType

variable {result : ResultType}

theorem documentedType_eq (h : result.documentedTypes.findSome? typeNameFault = none) :
    result.documentedType owner =
      ⟨importEdits owner.refersOutside result.documentedNames, .ok result.documentation⟩ := by
  cases hmixed : result.isMixed with
  | true =>
    have hwrapper := referTo_runtimeName owner RuntimeNames.mixedResult
      (by simp [referencedRuntimeNames])
    simp [documentedType, documentedNames, documentation, hmixed, hwrapper, mk_ok_bind]
  | false =>
    have hname : IsTypeName result.typeName :=
      typeNameFault_eq_none_iff.mp (by simpa [documentedTypes, hmixed] using h)
    simp [documentedType, documentedNames, documentation, hmixed, referTo_withParent owner hname]

theorem outcome_documentedType_of_fault {cause : NamingError}
    (h : result.documentedTypes.findSome? typeNameFault = some cause) :
    (result.documentedType owner).outcome = .error cause := by
  cases hmixed : result.isMixed with
  | true => simp [documentedTypes, hmixed] at h
  | false =>
    have hfault : typeNameFault result.typeName = some cause := by
      simpa [documentedTypes, hmixed] using h
    simp [documentedType, hmixed, referTo_of_fault owner .withParent hfault, Draft.fail]

end ResultType

namespace Operation

variable {operation : Operation}

theorem parameterDoc_eq (h : operation.shape.documentedTypes.findSome? typeNameFault = none) :
    operation.parameterDoc owner operation.shape =
      ⟨importEdits owner.refersOutside operation.shape.documentedNames,
        .ok operation.argumentDocumentation⟩ := by
  unfold argumentDocumentation
  cases hshape : operation.shape with
  | nothing => rfl
  | single argument =>
    rw [hshape] at h
    have hname : IsTypeName argument.typeName :=
      typeNameFault_eq_none_iff.mp (by simpa [ArgumentShape.documentedTypes] using h)
    have hrequest := referTo_runtimeName owner RuntimeNames.requestInterface
      (by simp [referencedRuntimeNames])
    simp [parameterDoc, hrequest, referTo_withParent owner hname, mk_ok_bind,
      ArgumentShape.documentedNames, ← importEdits_append]
  | aggregate arguments =>
    have hrequest := referTo_runtimeName owner RuntimeNames.multiArgumentRequest
      (by simp [referencedRuntimeNames])
    simp [parameterDoc, hrequest, mk_ok_bind, ArgumentShape.documentedNames]

theorem outcome_parameterDoc_of_fault {cause : NamingError}
    (h : operation.shape.documentedTypes.findSome? typeNameFault = some cause) :
    (operation.parameterDoc owner operation.shape).outcome = .error cause := by
  cases hshape : operation.shape with
  | nothing => simp [hshape, ArgumentShape.documentedTypes] at h
  | single argument =>
    have hfault : typeNameFault argument.typeName = some cause := by
      simpa [hshape, ArgumentShape.documentedTypes] using h
    have hrequest := referTo_runtimeName owner RuntimeNames.requestInterface
      (by simp [referencedRuntimeNames])
    simp [parameterDoc, hrequest, referTo_of_fault owner .withParent hfault, mk_ok_bind, bind_of_error,
      Draft.fail]
  | aggregate arguments => simp [hshape, ArgumentShape.documentedTypes] at h

theorem methodDoc_eq (h : operation.documentedTypes.findSome? typeNameFault = none) :
    operation.methodDoc owner operation.shape =
      ⟨importEdits owner.refersOutside (operation.shape.documentedNames ++
          RuntimeNames.resultInterface :: (operation.result.documentedNames ++
            [RuntimeNames.soapException])), .ok operation.documentation⟩ := by
  rw [documentedTypes, List.findSome?_append, Option.or_eq_none_iff] at h
  have hresult := referTo_runtimeName owner RuntimeNames.resultInterface
      (by simp [referencedRuntimeNames])
  have hthrown := referTo_runtimeName owner RuntimeNames.soapException
      (by simp [referencedRuntimeNames])
  simp [methodDoc, parameterDoc_eq owner h.1, hresult, ResultType.documentedType_eq owner h.2, hthrown,
    mk_ok_bind, ← importEdits_append, documentation]

theorem outcome_methodDoc_of_fault {cause : NamingError}
    (h : operation.documentedTypes.findSome? typeNameFault = some cause) :
    (operation.methodDoc owner operation.shape).outcome = .error cause := by
  rw [documentedTypes, List.findSome?_append] at h
  unfold methodDoc
  cases harguments : operation.shape.documentedTypes.findSome? typeNameFault with
  | some fault =>
    rw [harguments, Option.some_or, Option.some.injEq] at h
    rw [bind_of_error (outcome_parameterDoc_of_fault owner harguments), h]
  | none =>
    rw [harguments, Option.none_or] at h
    have hresult := referTo_runtimeName owner RuntimeNames.resultInterface
      (by simp [referencedRuntimeNames])
    rw [parameterDoc_eq owner harguments, mk_ok_bind, hresult, mk_ok_bind,
      bind_of_error (ResultType.outcome_documentedType_of_fault owner h)]

theorem fault_eq_none_iff_checks : operation.fault = none ↔
    isIdentifier (camelCase operation.name) = true ∧
      (∀ argument ∈ operation.arguments, isIdentifier argument.name = true) ∧
      operation.documentedTypes.findSome? typeNameFault = none := by
  unfold fault
  split
  · rename_i hname
    simp [hname]
  · rename_i hname
    simp [hname]

theorem draftMethod_of_arguments (name : String)
    (h : ∀ argument ∈ operation.arguments, isIdentifier argument.name = true) :
    operation.draftMethod owner name = (do
      let doc ← operation.methodDoc owner operation.shape
      let argument ← operation.shape.callArgument owner
      Draft.edit (.putMethod {
        name := name
        parameters := operation.shape.parameters
        returnType := some operation.result.signatureType
        body := joinText "\n" (operation.bodyLines argument)
        doc := some doc })) := by
  unfold draftMethod
  rw [(forM_requireIdentifier_eq_ok_iff .parameter Argument.name operation.arguments).mpr h]
  rfl

/-- Nothing is wrong: the imports are drafted, and behind them the method. -/
theorem draftOperation_eq (h : operation.fault = none) :
    draftOperation owner operation =
      ⟨importEdits owner.refersOutside operation.referencedNames ++ [.putMethod operation.clientMethod],
        .ok ()⟩ := by
  obtain ⟨hname, harguments, htypes⟩ := fault_eq_none_iff_checks.mp h
  have hcheck : (ClassEdit.putMethod operation.clientMethod).check = .ok () :=
    (Method.check_eq_ok_iff _).mpr
      ⟨hname, ArgumentShape.isIdentifier_of_mem_parameters harguments⟩
  have hedit := edit_of_check hcheck
  have hdraft : operation.draftMethod owner (camelCase operation.name) =
      ⟨importEdits owner.refersOutside operation.referencedNames ++
        [.putMethod operation.clientMethod], .ok ()⟩ := by
    unfold clientMethod at hedit ⊢
    rw [draftMethod_of_arguments owner _ harguments, methodDoc_eq owner htypes, mk_ok_bind,
      ArgumentShape.callArgument_eq, mk_ok_bind, hedit]
    simp only [Draft.tell, ← List.append_assoc, ← importEdits_append]
    simp [referencedNames]
  rw [draftOperation_of_methodName owner (methodName_of_isIdentifier hname), hdraft]
  rfl

/-- Something is wrong: the first such thing is the error, and the member that it concerns is blamed. -/
theorem outcome_draftOperation_of_fault {member : String} {cause : NamingError}
    (h : operation.fault = some (member, cause)) :
    (draftOperation owner operation).outcome =
      .error (.generation "ClientMethodAssembler" owner.qualifiedName member cause) := by
  unfold fault at h
  split at h
  · rename_i hname
    obtain ⟨fault, hcause, heq⟩ := Option.map_eq_some_iff.mp h
    obtain ⟨hmember, hfault⟩ := Prod.mk.inj heq
    rw [hfault] at hcause
    rw [← hmember, draftOperation_of_methodName owner (methodName_of_isIdentifier hname)]
    have hdraft : (operation.draftMethod owner (camelCase operation.name)).outcome =
        .error cause := by
      cases hargument : operation.arguments.find? (fun argument => !isIdentifier argument.name) with
      | some argument =>
        rw [hargument, Option.map_some, Option.some_or, Option.some.injEq] at hcause
        unfold draftMethod
        rw [forM_requireIdentifier_of_find? hargument, hcause]
        rfl
      | none =>
        rw [hargument, Option.map_none, Option.none_or] at hcause
        have harguments : ∀ argument ∈ operation.arguments, isIdentifier argument.name = true := by
          intro argument hmem
          simpa using List.find?_eq_none.mp hargument argument hmem
        rw [draftMethod_of_arguments owner _ harguments,
          bind_of_error (outcome_methodDoc_of_fault owner hcause)]
    simp only [Draft.mapError, hdraft]
    rfl
  · rename_i hname
    cases h
    have hrefused : methodName operation.name =
        .error (.invalidIdentifier .method operation.name) := by
      simp [methodName, hname]
    unfold draftOperation
    rw [hrefused]
    rfl

end Operation

end

end SoapClasses
