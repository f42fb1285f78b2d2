import SoapClasses.ClassRendering
import SoapClasses.Proofs.JoinedTexts

/-!
# The lines of imports

A class is written as lines, and those that start like an import are the lines of its imports, which
stand together: a member is indented, and every other line starts with a word or a sign of its own.
-/

namespace SoapClasses

/-- Whether a line starts as an import does. -/
def startsImport (line : String) : Bool :=
  "use ".toList.isPrefixOf line.toList

theorem startsImport_eq_false_of_head {line : String} (h : line.toList.head? ≠ some 'u') :
    startsImport line = false := by
  unfold startsImport
  cases hchars : line.toList with
  | nil => rfl
  | cons c rest =>
    have hc : c ≠ 'u' := by simpa [hchars] using h
    simp [List.isPrefixOf, Ne.symm hc]

theorem startsImport_indented (line : String) : startsImport (indentation ++ line) = false := by
  apply startsImport_eq_false_of_head
  simp [indentation]

theorem startsImport_of_mem_memberDocLines {doc : Option DocBlock} {line : String}
    (h : line ∈ memberDocLines doc) : startsImport line = false := by
  cases doc with
  | none => cases h
  | some doc =>
    obtain ⟨inner, _, rfl⟩ := List.mem_map.mp h
    exact startsImport_indented inner

theorem Field.startsImport_of_mem_lines {field : Field} {line : String} (h : line ∈ field.lines) :
    startsImport line = false := by
  rcases List.mem_append.mp h with h | h
  · exact startsImport_of_mem_memberDocLines h
  · rw [List.mem_singleton.mp h]
    exact startsImport_indented _

theorem Method.startsImport_of_mem_lines {method : Method} {line : String} (h : line ∈ method.lines) :
    startsImport line = false := by
  simp only [Method.lines, List.mem_append, List.mem_cons, List.not_mem_nil, or_false] at h
  rcases h with ((h | rfl | rfl) | h) | rfl
  · exact startsImport_of_mem_memberDocLines h
  · exact startsImport_indented _
  · exact startsImport_indented _
  · obtain ⟨text, _, rfl⟩ := List.mem_map.mp h
    unfold Method.bodyLine
    split
    · rfl
    · rw [String.append_assoc]
      exact startsImport_indented _
  · exact startsImport_indented _

theorem DocBlock.startsImport_of_mem_lines {doc : DocBlock} {line : String} (h : line ∈ doc.lines) :
    startsImport line = false := by
  simp only [DocBlock.lines, List.mem_append, List.mem_cons, List.mem_map, List.not_mem_nil,
    or_false] at h
  rcases h with rfl | ⟨text, _, rfl⟩ | rfl
  · rfl
  · unfold DocBlock.starLine
    apply startsImport_eq_false_of_head
    split <;> simp
  · rfl

namespace PhpClass

variable (php : PhpClass)

theorem startsImport_of_mem_namespaceLines {line : String} (h : line ∈ php.namespaceLines) :
    startsImport line = false := by
  unfold namespaceLines at h
  split at h
  · cases h
  · rcases List.mem_cons.mp h with rfl | h
    · apply startsImport_eq_false_of_head
      simp
    · rw [List.mem_singleton.mp h]
      rfl

theorem startsImport_of_mem_memberLines {line : String} (h : line ∈ php.memberLines) :
    startsImport line = false := by
  revert line
  rw [memberLines, forall_mem_spacedBlocks (by rfl)]
  intro block hblock line hline
  rcases List.mem_append.mp hblock with hmem | hmem
  · obtain ⟨field, _, rfl⟩ := List.mem_map.mp hmem
    exact field.startsImport_of_mem_lines hline
  · obtain ⟨method, _, rfl⟩ := List.mem_map.mp hmem
    exact method.startsImport_of_mem_lines hline

theorem startsImport_declaration : startsImport php.declaration = false := by
  unfold declaration
  apply startsImport_eq_false_of_head
  split <;> simp

theorem importLines_eq : ∃ behind : List String, php.importLines =
    php.imports.toList.map Import.line ++ behind ∧ ∀ line ∈ behind, startsImport line = false := by
  unfold importLines
  split
  · rename_i hnone
    exact ⟨[], by rw [hnone]; rfl, fun _ hmem => absurd hmem List.not_mem_nil⟩
  · refine ⟨[""], rfl, ?_⟩
    intro line hmem
    rw [List.mem_singleton.mp hmem]
    rfl

theorem lines_eq : php.lines = php.namespaceLines ++ php.importLines ++
    (php.doc.map DocBlock.lines).getD [] ++ [php.declaration, "\x7b"] ++ php.memberLines ++ ["\x7d"] := by
  unfold lines
  cases php.doc <;> rfl

/-- The imports stand together, and no other line starts as an import does. -/
theorem exists_lines_eq : ∃ before behind : List String,
    php.lines = before ++ php.imports.toList.map Import.line ++ behind ∧
      ∀ line ∈ before ++ behind, startsImport line = false := by
  obtain ⟨blank, himports, hblank⟩ := php.importLines_eq
  have hdoc : ∀ line ∈ (php.doc.map DocBlock.lines).getD [], startsImport line = false := by
    cases php.doc with
    | none => exact fun _ hmem => absurd hmem List.not_mem_nil
    | some doc => exact fun _ => DocBlock.startsImport_of_mem_lines
  refine ⟨php.namespaceLines,
    blank ++ (php.doc.map DocBlock.lines).getD [] ++ [php.declaration, "\x7b"] ++ php.memberLines ++
      ["\x7d"], ?_, ?_⟩
  · rw [lines_eq, himports]
    simp only [List.append_assoc]
  · intro line hmem
    simp only [List.mem_append, List.mem_cons, List.not_mem_nil, or_false] at hmem
    rcases hmem with hmem | (((hmem | hmem) | rfl | rfl) | hmem) | rfl
    · exact php.startsImport_of_mem_namespaceLines hmem
    · exact hblank line hmem
    · exact hdoc line hmem
    · exact php.startsImport_declaration
    · rfl
    · exact php.startsImport_of_mem_memberLines hmem
    · rfl

end PhpClass

end SoapClasses
