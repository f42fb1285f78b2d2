import SoapClasses.Proofs.ArgumentAgreement
import SoapClasses.Proofs.FieldReads

/-!
# Calls by a quoted name

A method calls the service by the name of its operation, which stands in single quotes as the service
spells it. Nothing is escaped: only the name of the method, in camel case, is checked. Camel case takes
separators away and changes the case of letters, so what would end the quotes, be read as an escape or
break the line is in the name of the method if it is in that of the operation. Hence the quotes always
hold the name of the operation and nothing else.
-/

namespace SoapClasses

/-- The characters at which a line ends, by the rules of any reader. -/
def lineBreaks : List Char :=
  ['\n', '\x0b', '\x0c', '\r', '\u0085', '\u2028', '\u2029']

/-- What a text in single quotes stands for, and what follows it. The opening quote has been read. A
backslash is one of the text unless a backslash or a quote follows it, which it stands in front of. -/
def quotedValue : List Char → Option (List Char × List Char)
  | [] => none
  | '\'' :: rest => some ([], rest)
  | '\\' :: '\\' :: rest => (quotedValue rest).map (fun read => ('\\' :: read.1, read.2))
  | '\\' :: '\'' :: rest => (quotedValue rest).map (fun read => ('\'' :: read.1, read.2))
  | c :: rest => (quotedValue rest).map (fun read => (c :: read.1, read.2))

/-- The name that a line calls and what stands behind the quotes, where the line is the call of a
method. -/
def readCall (line : String) : Option (String × String) := do
  let quoted ← afterText "$response = ($this->caller)('" line.toList
  let (name, behind) ← quotedValue quoted
  return (String.ofList name, String.ofList behind)

theorem quotedValue_cons {c : Char} (hquote : c ≠ '\'') (hescape : c ≠ '\\') (rest : List Char) :
    quotedValue (c :: rest) = (quotedValue rest).map (fun read => (c :: read.1, read.2)) := by
  conv_lhs => unfold quotedValue
  split <;> simp_all

theorem quotedValue_append {text : List Char} (hquote : '\'' ∉ text) (hescape : '\\' ∉ text)
    (behind : List Char) : quotedValue (text ++ '\'' :: behind) = some (text, behind) := by
  induction text with
  | nil => rfl
  | cons c rest ih =>
    rw [List.mem_cons, not_or] at hquote hescape
    rw [List.cons_append, quotedValue_cons (Ne.symm hquote.1) (Ne.symm hescape.1),
      ih hquote.2 hescape.2]
    rfl

example : quotedValue "it\\'s \\n', 1".toList = some ("it's \\n".toList, ", 1".toList) := by
  decide +kernel

/-- The line that calls the service by the name of the operation and hands it an expression. -/
def Operation.callLine (operation : Operation) (argument : String) : String :=
  "$response = ($this->caller)('" ++ operation.name ++ "', " ++ argument ++ ");"

/-- The method calls the service by the name of the operation in quotes, which hold nothing else, and
hands it the expression. The call is the first line of its body, and it stands in the written method as
it is, directly behind the brace that opens the body. -/
structure Method.QuotesName (method : Method) (operation : Operation) (argument : String) : Prop where
  first : (textLines method.body).head? = some (operation.callLine argument)
  literal : readCall (operation.callLine argument) = some (operation.name, ", " ++ argument ++ ");")
  written : ["    \x7b", "        " ++ operation.callLine argument] <:+: textLines (unlines method.lines)

/-- None of the characters that could end the quotes, be read as an escape or break the line belongs to
identifiers, separates words or has a case. -/
theorem not_mem_breaks_of_methodName {operation name : String} (h : methodName operation = .ok name) :
    ∀ c ∈ '\'' :: '\\' :: lineBreaks, c ∉ operation.toList := by
  have hcaseless : ∀ c ∈ '\'' :: '\\' :: lineBreaks, isWordSeparator c = false ∧
      upperSpelling c = [c] ∧ lowerSpelling c = [c] ∧ continuesIdentifier c = false := by
    decide +kernel
  intro c hmem
  obtain ⟨hword, hupper, hlower, hname⟩ := hcaseless c hmem
  exact not_mem_of_methodName h hword hupper hlower hname

namespace Operation

variable {operation : Operation}

theorem readCall_callLine (hquote : '\'' ∉ operation.name.toList)
    (hescape : '\\' ∉ operation.name.toList) (argument : String) :
    readCall (operation.callLine argument) = some (operation.name, ", " ++ argument ++ ");") := by
  have hquoted (front : String) : (front ++ operation.name ++ "', " ++ argument ++ ");").toList =
      front.toList ++ (operation.name.toList ++ '\'' :: (", " ++ argument ++ ");").toList) := by
    simp
  have hchars := hquoted "$response = ($this->caller)('"
  unfold readCall callLine
  simp only [hchars, afterText_append, Option.bind_eq_bind, Option.bind_some,
    quotedValue_append hquote hescape, String.ofList_toList]
  rfl

theorem infix_lines_of_hands {method : Method} {argument : String}
    (h : method.Hands operation argument) :
    ["    \x7b", "        " ++ operation.callLine argument] <:+: method.lines := by
  obtain ⟨rest, hrest⟩ := List.head?_eq_some_iff.mp h
  have hbody : (textLines method.body).map Method.bodyLine =
      ("        " ++ operation.callLine argument) :: rest.map Method.bodyLine := by
    have hne : operation.callLine argument ≠ "" :=
      fun hempty => absurd (String.append_eq_empty_iff.mp hempty).2 (by decide)
    have hline : Method.bodyLine (operation.callLine argument) =
        "        " ++ operation.callLine argument := by
      rw [Method.bodyLine, if_neg (mt beq_iff_eq.mp hne)]
      rfl
    rw [hrest, List.map_cons, ← hline]
    rfl
  refine ⟨memberDocLines method.doc ++ ["    " ++ method.signature],
    rest.map Method.bodyLine ++ ["    \x7d"], ?_⟩
  rw [Method.lines, hbody]
  simp only [List.append_assoc]
  rfl

theorem isLine_of_hands {method : Method} {argument : String} (h : method.Hands operation argument) :
    ∀ line ∈ ["    \x7b", "        " ++ operation.callLine argument], IsLine line := by
  have hcall : IsLine (operation.callLine argument) := by
    constructor
    · exact not_feed_of_mem_textLines (List.mem_of_head? h)
    · have hlast (front : String) : (front ++ ");").toList.getLast? ≠ some '\r' := by simp
      exact hlast _
  have hbrace : IsLine "    \x7b" := by decide
  exact List.forall_mem_cons.mpr ⟨hbrace,
    List.forall_mem_singleton.mpr (hcall.append_left (by decide))⟩

/-- The method that a successful step leaves for an operation calls the service by the name of the
operation, in whose quotes there is nothing that ends them, is an escape or breaks the line. The call
also stands in the text of the class as it is. -/
theorem quotesName_of_assemble {php after : PhpClass}
    (h : Assembler.clientMethod.assemble (.operation operation) php = (.ok (), after)) :
    (∀ c ∈ '\'' :: '\\' :: lineBreaks, c ∉ operation.name.toList) ∧
    ∃ method, after.methods.find? (camelCase operation.name) = some method ∧
      method.QuotesName operation operation.shape.argumentText ∧
      ["    \x7b", "        " ++ operation.callLine operation.shape.argumentText] <:+:
        textLines after.render := by
  have hfault := (assemble_eq_ok_iff_log.mp h).1
  have hmethod := methodName_of_isIdentifier (fault_eq_none_iff_checks.mp hfault).1
  have hplain := not_mem_breaks_of_methodName hmethod
  have hhands := hands_clientMethod hfault
  have hcall := infix_lines_of_hands hhands
  have hlines := isLine_of_hands hhands
  have hfound := find?_of_assemble h
  have hmem := ((MemberTable.find?_eq_some_iff _ _ _).mp hfound).1
  refine ⟨hplain, operation.clientMethod, hfound, ⟨hhands, ?_, ?_⟩, ?_⟩
  · exact readCall_callLine (hplain _ (by decide)) (hplain _ (by decide)) _
  · exact infix_textLines_unlines hcall hlines
  · exact infix_textLines_unlines (hcall.trans (PhpClass.infix_lines hmem)) hlines

/-- An operation whose name has a separator and letters beyond ASCII. -/
def ofWideName : Operation :=
  ⟨"über-ßteuerung.дать", [⟨"number", "int"⟩], ⟨"string", false⟩, none⟩

theorem quotesName_of_assemble_wide_name : ∃ after method,
    Assembler.clientMethod.assemble (.operation ofWideName) (PhpClass.fresh "Shop" "App") =
      (.ok (), after) ∧
    after.methods.find? (camelCase ofWideName.name) = some method ∧
    method.QuotesName ofWideName "$number" := by
  have hfault : ofWideName.fault = none := Option.isNone_iff_eq_none.mp (by decide +kernel)
  have hsuccess := (@assemble_eq_ok_iff_log ofWideName (PhpClass.fresh "Shop" "App") _).mpr
    ⟨hfault, rfl⟩
  obtain ⟨-, method, hfound, hquotes, -⟩ := quotesName_of_assemble hsuccess
  exact ⟨_, method, hsuccess, hfound, hquotes⟩

end Operation

end SoapClasses
