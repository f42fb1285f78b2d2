import Mathlib.Data.List.DropRight
import SoapClasses.Proofs.ArgumentAgreement
import SoapClasses.Proofs.FieldReads
import SoapClasses.Proofs.GeneratedClients
import SoapClasses.Proofs.RenderedTypes

/-!
# Checked results

A method is declared to return a type, and it asserts that the response is of a class before it returns
it. Both are written from one name, but by different functions: the declaration tells built-in types from
classes, the assertion takes every name for that of a class. So they agree on classes and on mixed
results; for a built-in type the assertion asks for a class of that name.
-/

namespace SoapClasses

/-- What stands behind the last space of a text. -/
def lastWord (text : String) : String :=
  String.ofList (text.toList.rtakeWhile (· != ' '))

/-- The type that a line asserts the response to have, where the line is such an assertion. -/
def assertedType (line : String) : Option String := do
  let named ← afterText "\\Psl\\Type\\instance_of(" line.toList
  if named.dropWhile (· != ':') = "::class)->assert($response);".toList then
    some (String.ofList (named.takeWhile (· != ':')))
  else none

namespace Method

/-- The types that the body asserts the response to have, in order. -/
def assertedTypes (method : Method) : List String :=
  (textLines method.body).filterMap assertedType

/-- The type that the signature ends in. -/
def printedReturnType (method : Method) : String :=
  lastWord method.signature

/-- What the body asserts first is the type that the signature ends in. -/
def AssertsReturnType (method : Method) : Prop :=
  method.assertedTypes.head? = some method.printedReturnType

end Method

theorem lastWord_append {word : String} (h : ' ' ∉ word.toList) (front : String) :
    lastWord (front ++ " " ++ word) = word := by
  have hword : ∀ c ∈ word.toList.reverse, (c != ' ') = true := by
    intro c hmem
    simpa using fun hc : c = ' ' => h (hc ▸ List.mem_reverse.mp hmem)
  have hchars : (front ++ " " ++ word).toList.reverse =
      word.toList.reverse ++ ' ' :: front.toList.reverse := by simp
  rw [lastWord, List.rtakeWhile, hchars, List.takeWhile_append_of_pos hword]
  simp

theorem responseCheck_eq (typeName : String) : Operation.responseCheck typeName =
    "\\Psl\\Type\\instance_of(" ++ absoluteName typeName ++ "::class)->assert($response);" := rfl

theorem isLine_responseCheck {typeName : String} (h : '\n' ∉ typeName.toList) :
    IsLine (Operation.responseCheck typeName) := by
  have hend : IsLine "::class)->assert($response);" := by decide +kernel
  rw [responseCheck_eq]
  refine hend.append_of_ne_empty (by decide) ?_
  rw [String.toList_append, List.mem_append, not_or]
  exact ⟨by decide +kernel, not_mem_absoluteName (by decide) h⟩

theorem assertedType_responseCheck {typeName : String} (h : ':' ∉ typeName.toList) :
    assertedType (Operation.responseCheck typeName) = some (absoluteName typeName) := by
  have hname : ∀ c ∈ (absoluteName typeName).toList, (c != ':') = true := by
    intro c hmem
    rw [bne_iff_ne]
    rintro rfl
    exact not_mem_absoluteName (by decide) h hmem
  have hend : "::class)->assert($response);".toList = ':' :: ":class)->assert($response);".toList := by
    decide +kernel
  have hline : (Operation.responseCheck typeName).toList = "\\Psl\\Type\\instance_of(".toList ++
      ((absoluteName typeName).toList ++ ':' :: ":class)->assert($response);".toList) := by
    rw [← hend, ← String.toList_append, ← String.toList_append, ← String.append_assoc,
      ← responseCheck_eq]
  unfold assertedType
  simp only [hline, afterText_append, Option.bind_eq_bind, Option.bind_some]
  rw [dropWhile_append_cons hname (by decide), if_pos hend.symm, takeWhile_append_cons (by decide),
    List.takeWhile_eq_self_iff.mpr hname, String.ofList_toList]

theorem assertedType_of_head? {line : String} (h : line.toList.head? ≠ some '\\') :
    assertedType line = none := by
  have hmark : "\\Psl\\Type\\instance_of(".toList =
      '\\' :: "Psl\\Type\\instance_of(".toList := by decide +kernel
  have hnone : ¬ "\\Psl\\Type\\instance_of(".toList.isPrefixOf line.toList = true := by
    rw [List.isPrefixOf_iff_prefix, hmark]
    rintro ⟨behind, hline⟩
    rw [← hline, List.cons_append, List.head?_cons] at h
    exact h rfl
  rw [assertedType, afterText, if_neg hnone]
  rfl

namespace Operation

variable {operation : Operation}

theorem isTypeName_signatureType (h : operation.fault = none) :
    IsTypeName operation.result.signatureType := by
  unfold ResultType.signatureType
  split
  · have hsegments := segments_referencedRuntimeNames RuntimeNames.mixedResult
      (by simp [referencedRuntimeNames])
    exact .inr (isClassName_of_nameSegments hsegments.2).2
  · rename_i hmixed
    exact (fault_eq_none_iff.mp h).result (Bool.eq_false_iff.mpr hmixed)

theorem textLines_clientMethod (h : operation.fault = none) :
    textLines operation.clientMethod.body = operation.bodyLines operation.shape.argumentText := by
  obtain ⟨hname, harguments, -⟩ := fault_eq_none_iff_checks.mp h
  have hnamed := not_feed_of_methodName (methodName_of_isIdentifier hname)
  have hargument := ArgumentShape.not_feed_of_argumentText harguments
  have hcall : IsLine ("$response = ($this->caller)('" ++ operation.name ++ "', " ++
      operation.shape.argumentText ++ ");") := by
    have hend : IsLine ");" := by decide
    refine hend.append_of_ne_empty (by decide) ?_
    simp only [String.toList_append, List.mem_append, not_or]
    exact ⟨⟨⟨by decide +kernel, hnamed⟩, by decide⟩, hargument⟩
  have hcheck := isLine_responseCheck ((isTypeName_signatureType h).not_mem (c := '\n') (by decide)
    (by decide) (by decide) (by decide))
  have hlines : ∀ line ∈ operation.bodyLines operation.shape.argumentText, IsLine line := by
    simp only [bodyLines, List.forall_mem_cons]
    exact ⟨hcall, by decide, hcheck, isLine_responseCheck (by decide), by decide, by decide,
      fun line hmem => absurd hmem List.not_mem_nil⟩
  exact textLines_joinText (List.cons_ne_nil _ _) (fun line hmem => (hlines line hmem).noFeed)
    (fun line hmem => (hlines line hmem).noReturn) (by simp [bodyLines])

/-- The body asserts two things: that the response is what is declared, and that it is a result. -/
theorem assertedTypes_clientMethod (h : operation.fault = none) :
    operation.clientMethod.assertedTypes =
      [absoluteName operation.result.signatureType, absoluteName RuntimeNames.resultInterface] := by
  have hcall (behind : String) : assertedType ("$response = ($this->caller)('" ++ behind) = none := by
    apply assertedType_of_head?
    rw [String.toList_append, List.head?_append_of_ne_nil _ (by decide +kernel)]
    decide +kernel
  have hresult := assertedType_responseCheck ((isTypeName_signatureType h).not_mem (c := ':')
    (by decide) (by decide) (by decide) (by decide))
  have hinterface : assertedType (responseCheck RuntimeNames.resultInterface) =
      some (absoluteName RuntimeNames.resultInterface) := assertedType_responseCheck (by decide)
  have hempty : assertedType "" = none := by decide
  have hreturn : assertedType "return $response;" = none := assertedType_of_head? (by decide)
  rw [Method.assertedTypes, textLines_clientMethod h, bodyLines]
  simp only [String.append_assoc, List.filterMap_cons, hcall, hempty, hresult, hinterface, hreturn,
    List.filterMap_nil]

theorem printedReturnType_clientMethod (h : operation.fault = none) :
    operation.clientMethod.printedReturnType = renderType operation.result.signatureType := by
  have hname := (isTypeName_signatureType h).not_mem (c := ' ') (by decide) (by decide) (by decide)
    (by decide)
  have hword : ' ' ∉ (renderType operation.result.signatureType).toList := by
    cases hbuiltin : isBuiltinType operation.result.signatureType with
    | true => rwa [(renderType_of_isBuiltinType hbuiltin).1]
    | false =>
      have hclass := (isTypeName_signatureType h).resolve_left (Bool.eq_false_iff.mp hbuiltin)
      rw [renderType_of_isClassName hbuiltin hclass]
      exact not_mem_absoluteName (by decide) hname
  have hsignature : ∃ front, operation.clientMethod.signature =
      front ++ " " ++ renderType operation.result.signatureType := by
    refine ⟨"public function " ++ camelCase operation.name ++ "(" ++
      joinText ", " (operation.shape.parameters.map Parameter.declaration) ++ "):", ?_⟩
    simp only [Method.signature, clientMethod, String.append_assoc]
    rfl
  obtain ⟨front, hfront⟩ := hsignature
  rw [Method.printedReturnType, hfront, lastWord_append hword]

/-- The method agrees with itself on a name unless it is that of a built-in type; then it asserts that the
response is of the class that has this name in the global namespace. -/
theorem assertsReturnType_clientMethod (h : operation.fault = none) :
    (operation.clientMethod.AssertsReturnType ↔
      isBuiltinType operation.result.signatureType = false) ∧
    (isBuiltinType operation.result.signatureType = true →
      operation.clientMethod.assertedTypes.head? =
        some ("\\" ++ operation.clientMethod.printedReturnType)) := by
  have hasserted : operation.clientMethod.assertedTypes.head? =
      some (absoluteName operation.result.signatureType) := by
    rw [assertedTypes_clientMethod h, List.head?_cons]
  have hprinted := printedReturnType_clientMethod h
  constructor
  · rw [Method.AssertsReturnType, hasserted, hprinted, Option.some.injEq, eq_comm]
    exact renderType_eq_absoluteName_iff (isTypeName_signatureType h)
  · intro hbuiltin
    rw [hasserted, hprinted, (renderType_of_isBuiltinType hbuiltin).1,
      absoluteName_of_isBuiltinType hbuiltin]

end Operation

theorem ResultType.isBuiltinType_signatureType (result : ResultType) :
    isBuiltinType result.signatureType = false ↔
      result.isMixed = true ∨ isBuiltinType result.typeName = false := by
  have hmixed : isBuiltinType RuntimeNames.mixedResult = false := by decide +kernel
  unfold signatureType
  cases result.isMixed <;> simp [hmixed]

namespace Operation

variable {operation : Operation}

/-- The method that a successful step leaves for an operation asserts first what it is declared to return
exactly when this is a class, that of mixed results included. Otherwise it asserts that the response is of
the class that has the name of the built-in type in the global namespace. -/
theorem assertsReturnType_iff {php after : PhpClass}
    (h : Assembler.clientMethod.assemble (.operation operation) php = (.ok (), after)) :
    ∃ method, after.methods.find? (camelCase operation.name) = some method ∧
      (method.AssertsReturnType ↔
        operation.result.isMixed = true ∨ isBuiltinType operation.result.typeName = false) ∧
      (¬ method.AssertsReturnType →
        method.assertedTypes.head? = some ("\\" ++ method.printedReturnType)) := by
  have hfault := (assemble_eq_ok_iff_log.mp h).1
  obtain ⟨hiff, hbuiltin⟩ := assertsReturnType_clientMethod hfault
  refine ⟨operation.clientMethod, find?_of_assemble h, ?_, ?_⟩
  · rw [hiff, ResultType.isBuiltinType_signatureType]
  · rw [hiff, Bool.not_eq_false]
    exact hbuiltin

/-- An operation without arguments that returns this type. -/
def returning (typeName : String) : Operation :=
  ⟨"find-order", [], ⟨typeName, false⟩, none⟩

theorem assertsReturnType_iff_class : ∃ after method,
    Assembler.clientMethod.assemble (.operation (returning "App\\Type\\Order"))
      (PhpClass.fresh "Shop" "App") = (.ok (), after) ∧
    after.methods.find? (camelCase "find-order") = some method ∧ method.AssertsReturnType := by
  have hfault : (returning "App\\Type\\Order").fault = none :=
    Option.isNone_iff_eq_none.mp (by decide +kernel)
  have hsuccess := (@assemble_eq_ok_iff_log (returning "App\\Type\\Order")
    (PhpClass.fresh "Shop" "App") _).mpr ⟨hfault, rfl⟩
  obtain ⟨method, hfound, hiff, -⟩ := assertsReturnType_iff hsuccess
  exact ⟨_, method, hsuccess, hfound, hiff.mpr (.inr (by decide +kernel))⟩

/-- A method that is declared to return this type asserts first that the response is of the class with its
name in the global namespace. -/
def AssertsClassInstead (typeName : String) : Prop :=
  ∃ after method,
    Assembler.clientMethod.assemble (.operation (returning typeName)) (PhpClass.fresh "Shop" "App") =
      (.ok (), after) ∧
    after.methods.find? (camelCase "find-order") = some method ∧ method.printedReturnType = typeName ∧
    method.assertedTypes.head? = some ("\\" ++ typeName) ∧ ¬ method.AssertsReturnType

theorem assertsClassInstead_of_isBuiltinType {typeName : String} (h : isBuiltinType typeName = true)
    (hfault : (returning typeName).fault = none) : AssertsClassInstead typeName := by
  have hsuccess := (@assemble_eq_ok_iff_log (returning typeName) (PhpClass.fresh "Shop" "App") _).mpr
    ⟨hfault, rfl⟩
  obtain ⟨hiff, hasserted⟩ := assertsReturnType_clientMethod hfault
  have hprinted : (returning typeName).clientMethod.printedReturnType = typeName :=
    (printedReturnType_clientMethod hfault).trans (renderType_of_isBuiltinType h).1
  have hfound := find?_of_assemble hsuccess
  refine ⟨_, (returning typeName).clientMethod, hsuccess, hfound, hprinted, ?_, ?_⟩
  · rw [hasserted h, hprinted]
  · rw [hiff]
    exact fun hclass => Bool.false_ne_true (hclass.symm.trans h)

/-- Built-in types are declared, nullable or not, but classes of their names are asked for. -/
theorem not_assertsReturnType_builtin :
    AssertsClassInstead "string" ∧ AssertsClassInstead "?string" := by
  constructor
  · exact assertsClassInstead_of_isBuiltinType (by decide +kernel)
      (Option.isNone_iff_eq_none.mp (by decide +kernel))
  · exact assertsClassInstead_of_isBuiltinType (by decide +kernel)
      (Option.isNone_iff_eq_none.mp (by decide +kernel))

end Operation

end SoapClasses
