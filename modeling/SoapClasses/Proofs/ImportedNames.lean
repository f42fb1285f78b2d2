import SoapClasses.Proofs.StepEdits

/-!
# Imported names

What stands among the imports of a class that steps have worked on, failed ones included. Every import
has been drafted by a step, so it is made of identifiers, at least two of them, and a class imports
itself under an alias only. The steps of a type class do not even import from the namespace of the
class; those of a client do.
-/

namespace SoapClasses

/-- An import that a class may have: of a name with a namespace, which is not its own unless there is an
alias. -/
structure ClassIdentity.Admits (owner : ClassIdentity) (entry : Import) : Prop where
  importable : IsImportable entry.name
  notBuiltin : isBuiltinType entry.name = false
  notItself : entry.aliasName = none → entry.name ≠ owner.qualifiedName

theorem IsImportable.isQualified_eq {name : String} (h : IsImportable name) :
    isQualified name = true :=
  (isQualified_iff name).mpr h.1

theorem IsImportable.isBuiltinType_eq {name : String} (h : IsImportable name) :
    isBuiltinType name = false := by
  apply Bool.eq_false_iff.mpr
  intro hbuiltin
  have hplain := isQualified_of_isBuiltinType hbuiltin
  rw [h.isQualified_eq] at hplain
  cases hplain

theorem namespaceOf_qualifiedName {owner : ClassIdentity} (hname : isQualified owner.name = false)
    (h : IsImportable owner.qualifiedName) : namespaceOf owner.qualifiedName = owner.ns := by
  rw [namespaceOf, h.dropLeadingSeparators_eq]
  by_cases hglobal : owner.ns = ""
  · have hplain : owner.qualifiedName = owner.name := by
      simp [ClassIdentity.qualifiedName, qualify, hglobal]
    have hqualified := h.isQualified_eq
    rw [hplain, hname] at hqualified
    cases hqualified
  · have hchars : owner.qualifiedName.toList = owner.ns.toList ++ '\\' :: owner.name.toList := by
      simp [ClassIdentity.qualifiedName, qualify, hglobal]
    have hone : piecesOf isNameSeparator owner.name.toList = [owner.name.toList] := by
      apply piecesOf_of_none
      rw [isQualified, List.any_eq_false] at hname
      simpa using hname
    have hcut : nameSegments owner.qualifiedName = nameSegments owner.ns ++ [owner.name] := by
      rw [nameSegments, splitText, hchars, piecesOf_append_cons (by rfl), hone, List.map_append]
      simp [nameSegments, splitText]
    rw [hcut, List.dropLast_concat, joinText_nameSegments]

namespace GenerationStep

variable {owner : ClassIdentity} {step : GenerationStep} {name : String} {aliasName : Option String}

theorem isImportable_of_mem_edits (h : .addImport name aliasName ∈ (step.draft owner).edits) :
    IsImportable name := by
  have hsort := step.editsOnly_draft owner _ h
  unfold ClassEdit.OfStep at hsort
  split at hsort
  · cases hsort with
    | reference himportable _ _ => exact himportable
  · cases hsort with
    | reference himportable _ => exact himportable

/-- A step about a type imports from the namespace of the class under an alias only. -/
theorem namespaceOf_ne_of_mem_edits {schema : SchemaType} (hschema : step.context.schema? = some schema)
    (h : .addImport name aliasName ∈ (step.draft owner).edits) (halias : aliasName = none) :
    namespaceOf name ≠ owner.ns := by
  have hsort := step.editsOnly_draft owner _ h
  simp only [ClassEdit.OfStep, hschema] at hsort
  cases hsort with
  | reference _ _ houtside => exact houtside halias

theorem admits_of_mem_edits (hname : isQualified owner.name = false)
    (h : .addImport name aliasName ∈ (step.draft owner).edits) : owner.Admits ⟨name, aliasName⟩ := by
  have himportable := isImportable_of_mem_edits h
  refine ⟨himportable, himportable.isBuiltinType_eq, ?_⟩
  intro halias
  cases hschema : step.context.schema? with
  | none =>
    have hsort := step.editsOnly_draft owner _ h
    simp only [ClassEdit.OfStep, hschema] at hsort
    cases hsort with
    | reference _ hother => exact hother
  | some schema =>
    have hother := namespaceOf_ne_of_mem_edits hschema h halias
    rintro rfl
    exact hother (namespaceOf_qualifiedName hname himportable)

end GenerationStep

section

variable {P : Import → Prop}

/-- Edits keep what is true of all imports, if it is true of those that they bring. -/
theorem PhpClass.forall_mem_imports_amendAll {php : PhpClass} {changes : List ClassEdit}
    (hbrought : ∀ name aliasName, .addImport name aliasName ∈ changes →
      P ⟨dropLeadingSeparators name, aliasName⟩)
    (h : ∀ entry ∈ php.imports.toList, P entry) :
    ∀ entry ∈ (php.amendAll changes).imports.toList, P entry := by
  induction changes generalizing php with
  | nil => exact h
  | cons change rest ih =>
    have hrest : ∀ name aliasName, .addImport name aliasName ∈ rest →
        P ⟨dropLeadingSeparators name, aliasName⟩ :=
      fun name aliasName hmem => hbrought name aliasName (List.mem_cons_of_mem _ hmem)
    have hchange : ∀ entry ∈ (php.amend change).imports.toList, P entry := by
      cases change with
      | addImport name aliasName =>
        intro entry hmem
        rcases name_of_mem_insertImport hmem with rfl | hmem
        · exact hbrought name aliasName List.mem_cons_self
        · exact h entry hmem
      | _ => exact h
    exact ih hrest hchange

theorem GenerationStep.forall_mem_imports_assemble {step : GenerationStep} {php : PhpClass}
    (hdrafted : ∀ name aliasName, .addImport name aliasName ∈ (step.draft php.toClassIdentity).edits →
      P ⟨name, aliasName⟩)
    (h : ∀ entry ∈ php.imports.toList, P entry) :
    ∀ entry ∈ (step.assembler.assemble step.context php).2.imports.toList, P entry := by
  apply PhpClass.forall_mem_imports_amendAll _ h
  intro name aliasName hmem
  have hedit : .addImport name aliasName ∈ (step.draft php.toClassIdentity).edits := hmem
  rw [(GenerationStep.isImportable_of_mem_edits hedit).dropLeadingSeparators_eq]
  exact hdrafted name aliasName hedit

theorem forall_mem_imports_runSteps {owner : ClassIdentity} {steps : List GenerationStep}
    (hdrafted : ∀ step ∈ steps, ∀ name aliasName,
      .addImport name aliasName ∈ (step.draft owner).edits → P ⟨name, aliasName⟩)
    {php : PhpClass} (howner : php.toClassIdentity = owner)
    (h : ∀ entry ∈ php.imports.toList, P entry) :
    ∀ entry ∈ (runSteps steps php).2.imports.toList, P entry := by
  induction steps generalizing php with
  | nil => exact h
  | cons step rest ih =>
    have hstep := hdrafted step List.mem_cons_self
    rw [← howner] at hstep
    have hnext := GenerationStep.forall_mem_imports_assemble hstep h
    have hidentity : (step.assembler.assemble step.context php).2.toClassIdentity = owner :=
      (php.toClassIdentity_amendAll _).trans howner
    exact ih (fun other hmem => hdrafted other (List.mem_cons_of_mem _ hmem)) hidentity hnext

end

/-- The class that steps leave of a fresh one imports only names that are made of two identifiers or
more, and itself under an alias only. If the steps were about types and properties, that goes for all
names from its own namespace. -/
theorem imports_runSteps_fresh (name ns : String) (hname : isQualified name = false)
    (steps : List GenerationStep) :
    ∀ entry ∈ (runSteps steps (PhpClass.fresh name ns)).2.imports.toList,
      (runSteps steps (PhpClass.fresh name ns)).2.Admits entry ∧
      ((∀ step ∈ steps, step.context.kind = .schemaType ∨ step.context.kind = .property) →
        entry.aliasName = none →
          namespaceOf entry.name ≠ (runSteps steps (PhpClass.fresh name ns)).2.ns) := by
  have hidentity : (runSteps steps (PhpClass.fresh name ns)).2.toClassIdentity =
      (PhpClass.fresh name ns).toClassIdentity := by
    rw [runSteps_eq]
    exact PhpClass.toClassIdentity_amendAll _ _
  have hempty : ∀ P : Import → Prop, ∀ entry ∈ (PhpClass.fresh name ns).imports.toList, P entry :=
    fun _ _ hmem => absurd hmem List.not_mem_nil
  rw [hidentity]
  intro entry hmem
  constructor
  · refine forall_mem_imports_runSteps ?_ rfl (hempty _) entry hmem
    exact fun step _ imported aliasName h => GenerationStep.admits_of_mem_edits hname h
  · intro hkinds
    refine forall_mem_imports_runSteps (P := fun entry => entry.aliasName = none →
      namespaceOf entry.name ≠ (PhpClass.fresh name ns).ns) ?_ rfl (hempty _) entry hmem
    intro step hstep imported aliasName h
    have hschema : ∃ schema, step.context.schema? = some schema := by
      have hkind := hkinds step hstep
      cases hcontext : step.context with
      | schemaType schema => exact ⟨schema, rfl⟩
      | property schema property => exact ⟨schema, rfl⟩
      | _ => simp [hcontext, GenerationContext.kind] at hkind
    obtain ⟨schema, hschema⟩ := hschema
    exact GenerationStep.namespaceOf_ne_of_mem_edits hschema h

/-- Steps about a type that import a name from elsewhere, the class itself, its neighbour under an alias,
and a wrapper that is no name of a class. -/
def importingSteps : List GenerationStep :=
  [.use "\\Lib\\Item" none, .use "App\\Order" none, .use "App\\Line" (some "Row"),
    .resultProvider (some "App\\9lives")].map (fun assembler =>
      ⟨assembler, .schemaType ⟨"App", "Order", [⟨"id", "int", "", {}⟩], "Order", by decide⟩⟩)

theorem imports_runSteps_fresh_items :
    ⟨"Lib\\Item", none⟩ ∈
      (runSteps importingSteps (PhpClass.fresh "Order" "App")).2.imports.toList ∧
    (runSteps importingSteps (PhpClass.fresh "Order" "App")).2.Admits ⟨"Lib\\Item", none⟩ ∧
    namespaceOf "Lib\\Item" ≠ (runSteps importingSteps (PhpClass.fresh "Order" "App")).2.ns := by
  have hmem : (⟨"Lib\\Item", none⟩ : Import) ∈
      (runSteps importingSteps (PhpClass.fresh "Order" "App")).2.imports.toList := by
    decide +kernel
  have hkinds : ∀ step ∈ importingSteps,
      step.context.kind = .schemaType ∨ step.context.kind = .property := by
    decide
  obtain ⟨hadmits, houtside⟩ :=
    imports_runSteps_fresh "Order" "App" (by decide) importingSteps _ hmem
  exact ⟨hmem, hadmits, houtside hkinds rfl⟩

end SoapClasses
