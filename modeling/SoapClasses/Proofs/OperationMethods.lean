import SoapClasses.Proofs.ClientLogs

/-!
# Methods of operations

The method for an operation calls the service under the name of the operation, but it is itself named
in camel case, and a class keeps one method of a name. So a client exposes all its operations, and
keeps its constructor, exactly when no two of these names fall together.
-/

namespace SoapClasses

/-- The method was made for the operation. -/
structure Method.Implements (method : Method) (operation : Operation) : Prop where
  named : methodName operation.name = .ok method.name
  body : ∃ argument : String, '\n' ∉ argument.toList ∧
    method.body = joinText "\n" (operation.bodyLines argument)

/-- The first line of the method calls the service under the name of the operation. -/
def Method.Calls (method : Method) (operation : Operation) : Prop :=
  ∃ argument : String, (textLines method.body).head? =
    some ("$response = ($this->caller)('" ++ operation.name ++ "', " ++ argument ++ ");")

theorem not_feed_of_methodName {operation name : String} (h : methodName operation = .ok name) :
    '\n' ∉ operation.toList :=
  not_mem_of_methodName h (by decide) (by decide) (by decide) (by decide)

/-- The first line of the body is the call, as neither the name nor the expression has a line end. -/
theorem Operation.head?_textLines_bodyLines {operation : Operation} {argument : String}
    (hname : '\n' ∉ operation.name.toList) (hargument : '\n' ∉ argument.toList) :
    (textLines (joinText "\n" (operation.bodyLines argument))).head? =
      some ("$response = ($this->caller)('" ++ operation.name ++ "', " ++ argument ++ ");") := by
  apply head?_textLines
  · simp [hname, hargument]
  · rw [String.toList_append, List.getLast?_append]
    simp

theorem ArgumentShape.not_feed_of_argumentText {arguments : List Argument}
    (h : ∀ argument ∈ arguments, isIdentifier argument.name = true) :
    '\n' ∉ (ArgumentShape.ofArguments arguments).argumentText.toList := by
  unfold ArgumentShape.ofArguments
  split
  · decide
  · rename_i argument
    have hfeed : '\n' ∉ argument.name.toList :=
      not_mem_of_isIdentifier (h argument List.mem_cons_self) (by decide)
    simpa [argumentText] using hfeed
  · show '\n' ∉ ("$" ++ RuntimeNames.multiArgumentParameter).toList
    decide

theorem Operation.implements_clientMethod {operation : Operation} (h : operation.fault = none) :
    operation.clientMethod.Implements operation := by
  obtain ⟨hname, harguments, _⟩ := fault_eq_none_iff_checks.mp h
  exact ⟨methodName_of_isIdentifier hname, operation.shape.argumentText,
    ArgumentShape.not_feed_of_argumentText harguments, rfl⟩

/-- The methods that are put into the class for a client: the constructor, then one method for each
operation. -/
theorem methods_of_generateClient {client : ClientDescription} {php : PhpClass}
    (h : generateClient client = .ok php) :
    ∃ methodOf : Operation → Method,
      (∀ operation ∈ client.operations, (methodOf operation).Implements operation) ∧
      php.methods = MemberTable.empty.putAll
        (constructorMethod :: client.operations.map methodOf) := by
  obtain ⟨hfault, hphp⟩ := ClientDescription.generateClient_eq_ok_iff_log.mp h
  refine ⟨Operation.clientMethod, ?_, ?_⟩
  · intro operation hmem
    exact Operation.implements_clientMethod (List.findSome?_eq_none_iff.mp hfault operation hmem)
  · rw [hphp]
    exact ClientDescription.methods_extended_log _

namespace Method

variable {method : Method} {operation other : Operation}

theorem Implements.name_eq (h : method.Implements operation) :
    method.name = camelCase operation.name :=
  eq_camelCase_of_methodName h.named

theorem Implements.calls (h : method.Implements operation) : method.Calls operation := by
  obtain ⟨argument, hargument, hbody⟩ := h.body
  refine ⟨argument, ?_⟩
  rw [hbody]
  exact Operation.head?_textLines_bodyLines (not_feed_of_methodName h.named) hargument

theorem name_eq_of_calls (h : method.Calls operation) (hother : method.Calls other)
    (hquote : '\'' ∉ operation.name.toList) (hquote' : '\'' ∉ other.name.toList) :
    operation.name = other.name := by
  obtain ⟨argument, hline⟩ := h
  obtain ⟨argument', hline'⟩ := hother
  rw [hline, Option.some.injEq] at hline'
  have hchars := congrArg String.toList hline'
  simp only [String.toList_append, List.append_assoc] at hchars
  have hrest := List.append_cancel_left hchars
  exact String.toList_injective (eq_of_append_cons hquote hquote' hrest)

theorem not_calls_constructorMethod (operation : Operation) :
    ¬ constructorMethod.Calls operation := by
  rintro ⟨argument, hline⟩
  have hfirst : (textLines constructorMethod.body).head? = some "$this->caller = $caller;" := by
    decide
  rw [hfirst, Option.some.injEq] at hline
  have hchars := congrArg String.toList hline
  simp at hchars

end Method

end SoapClasses
