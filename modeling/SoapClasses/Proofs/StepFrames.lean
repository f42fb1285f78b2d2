import SoapClasses.Proofs.ClientLogs
import SoapClasses.Proofs.CapabilityDrafts

/-!
# Frames of steps

A step owns at most one field and one method of a class. When it has succeeded these are in their
places, and every other member is what it was and where it was. Imports and interfaces only ever come,
and the doc block of the class belongs to the iteration. So the steps can share one class.
-/

namespace SoapClasses

open Named

section

variable {α : Type} [Named α] {member : α}

/-- The members after one has been written: it stands in the place of the one of its name, or at the end
if there was none. -/
inductive Rewrites (member : α) : List α → List α → Prop
  | replaced {front back : List α} {old : α} (hold : nameOf old = nameOf member) :
    Rewrites member (front ++ old :: back) (front ++ member :: back)
  | appended {members : List α} (habsent : nameOf member ∉ members.map nameOf) :
    Rewrites member members (members ++ [member])

theorem Rewrites.cons {before after : List α} (h : Rewrites member before after) {head : α}
    (hhead : nameOf head ≠ nameOf member) : Rewrites member (head :: before) (head :: after) := by
  cases h with
  | @replaced front back old hold =>
    show Rewrites member ((head :: front) ++ old :: back) ((head :: front) ++ member :: back)
    exact .replaced hold
  | appended habsent =>
    have hfree : nameOf member ∉ (head :: before).map nameOf := by
      rw [List.map_cons, List.mem_cons, not_or]
      exact ⟨hhead.symm, habsent⟩
    exact .appended hfree

theorem rewrites_putMember (member : α) (members : List α) :
    Rewrites member members (putMember member members) := by
  induction members with
  | nil => exact .appended List.not_mem_nil
  | cons head rest ih =>
    by_cases h : nameOf head = nameOf member
    · rw [putMember, if_pos h]
      show Rewrites _ ([] ++ head :: rest) ([] ++ member :: rest)
      exact .replaced h
    · rw [putMember, if_neg h]
      exact ih.cons h

/-- Nothing has changed but that a member has been written, if there is one to write. -/
def WritesOnly (own : Option α) (before after : List α) : Prop :=
  match own with
  | none => after = before
  | some member => Rewrites member before after

theorem writesOnly_putAll (table : MemberTable α) (own : Option α) :
    WritesOnly own table.toList (table.putAll own.toList).toList := by
  cases own with
  | none => rfl
  | some member => exact rewrites_putMember member table.toList

end

namespace Assembler

/-- The field that an assembler writes, if it writes one. -/
def ownField : Assembler → GenerationContext → Option Field
  | .clientConstructor, _ => some callerField
  | .property settings, .property _ subject => some (subject.field settings)
  | _, _ => none

/-- The method that an assembler writes, if it writes one. -/
def ownMethod : Assembler → GenerationContext → Option Method
  | .clientConstructor, _ => some constructorMethod
  | .clientMethod, .operation operation => some operation.clientMethod
  | .iterator, .schemaType schema => schema.properties.head?.map SchemaProperty.iteratorMethod
  | .jsonSerializable, .schemaType schema => some schema.serializeMethod
  | .resultProvider wrapper, .schemaType schema =>
    schema.properties.head?.map (fun first => first.resultMethod (bareWrapper wrapper))
  | _, _ => none

def ownFieldName : Assembler → GenerationContext → Option String
  | .clientConstructor, _ => some "caller"
  | .property _, .property _ subject => some subject.name
  | _, _ => none

def ownMethodName : Assembler → GenerationContext → Option String
  | .clientConstructor, _ => some "__construct"
  | .clientMethod, .operation operation => (methodName operation.name).toOption
  | .iterator, .schemaType schema => schema.properties.head?.map (fun _ => "getIterator")
  | .jsonSerializable, .schemaType _ => some "jsonSerialize"
  | .resultProvider _, .schemaType schema => schema.properties.head?.map (fun _ => "getResult")
  | _, _ => none

/-- Whether an assembler writes the doc block of the class. -/
def ownsDoc : Assembler → GenerationContext → Bool
  | .iterator, .schemaType schema => !schema.properties.isEmpty
  | _, _ => false

/-- What an assembler leaves of a class that it has worked on. -/
structure Frames (assembler : Assembler) (context : GenerationContext) (before after : PhpClass) :
    Prop where
  identity : after.toClassIdentity = before.toClassIdentity
  imports : ∀ entry ∈ before.imports.toList, entry ∈ after.imports.toList
  interfaces : before.interfaces.toList <+: after.interfaces.toList
  fields : WritesOnly (assembler.ownField context) before.fields.toList after.fields.toList
  field_name : (assembler.ownField context).map Field.name = assembler.ownFieldName context
  methods : WritesOnly (assembler.ownMethod context) before.methods.toList after.methods.toList
  method_name : (assembler.ownMethod context).map Method.name = assembler.ownMethodName context
  doc : assembler.ownsDoc context = false → after.doc = before.doc

end Assembler

/-- The members that edits write are these, and the doc block is left alone if it is not to be written. -/
structure WritesMembers (changes : List ClassEdit) (field : Option Field) (method : Option Method)
    (doc : Bool) : Prop where
  fields : changes.filterMap ClassEdit.field? = field.toList
  methods : changes.filterMap ClassEdit.method? = method.toList
  doc : doc = false → changes.filterMap ClassEdit.doc? = []

theorem ClassEdit.IsReference.brings_no_member {change : ClassEdit} (h : change.IsReference) :
    change.field? = none ∧ change.method? = none ∧ change.doc? = none := by
  cases change with
  | addImport name aliasName => exact ⟨rfl, rfl, rfl⟩
  | addInterface name => exact ⟨rfl, rfl, rfl⟩
  | _ => exact h.elim

theorem writesMembers_of_references {changes : List ClassEdit}
    (h : ∀ change ∈ changes, change.IsReference) : WritesMembers changes none none false where
  fields := List.filterMap_eq_nil_iff.mpr (fun change hmem => (h change hmem).brings_no_member.1)
  methods := List.filterMap_eq_nil_iff.mpr (fun change hmem => (h change hmem).brings_no_member.2.1)
  doc _ := List.filterMap_eq_nil_iff.mpr (fun change hmem => (h change hmem).brings_no_member.2.2)

theorem WritesMembers.behind {references changes : List ClassEdit} {field : Option Field}
    {method : Option Method} {doc : Bool} (hreferences : ∀ change ∈ references, change.IsReference)
    (h : WritesMembers changes field method doc) :
    WritesMembers (references ++ changes) field method doc := by
  have hnone := writesMembers_of_references hreferences
  constructor
  · rw [List.filterMap_append, hnone.fields, h.fields]
    rfl
  · rw [List.filterMap_append, hnone.methods, h.methods]
    rfl
  · intro hdoc
    rw [List.filterMap_append, hnone.doc rfl, h.doc hdoc]
    rfl

theorem isReference_of_mem_importEdits {isNeeded : String → Bool} {names : List String}
    {change : ClassEdit} (h : change ∈ importEdits isNeeded names) : change.IsReference := by
  obtain ⟨name, _, rfl⟩ := List.mem_map.mp h
  trivial

section

variable (owner : ClassIdentity)

theorem writesMembers_draftConstructor :
    WritesMembers (draftConstructor owner).edits (some callerField) (some constructorMethod) false := by
  have hmembers : WritesMembers [.putField callerField, .putMethod constructorMethod] (some callerField)
      (some constructorMethod) false := ⟨rfl, rfl, fun _ => rfl⟩
  rw [draftConstructor_eq]
  exact hmembers.behind (fun _ hmem => isReference_of_mem_importEdits hmem)

theorem fault_of_draftOperation {operation : Operation}
    (h : (draftOperation owner operation).outcome = .ok ()) : operation.fault = none := by
  cases hfault : operation.fault with
  | none => rfl
  | some fault =>
    rw [operation.outcome_draftOperation_of_fault owner hfault] at h
    cases h

theorem writesMembers_draftOperation {operation : Operation}
    (h : (draftOperation owner operation).outcome = .ok ()) :
    WritesMembers (draftOperation owner operation).edits none (some operation.clientMethod) false := by
  have hmember : WritesMembers [.putMethod operation.clientMethod] none (some operation.clientMethod)
      false := ⟨rfl, rfl, fun _ => rfl⟩
  rw [operation.draftOperation_eq owner (fault_of_draftOperation owner h)]
  exact hmember.behind (fun _ hmem => isReference_of_mem_importEdits hmem)

theorem writesMembers_draftField {settings : FieldSettings} {property : SchemaProperty}
    (h : (draftField owner settings property).outcome = .ok ()) :
    WritesMembers (draftField owner settings property).edits (some (property.field settings)) none
      false := by
  cases hname : isIdentifier property.name with
  | true =>
    rw [draftField_of_isIdentifier owner hname]
    exact ⟨rfl, rfl, fun _ => rfl⟩
  | false =>
    rw [draftField_of_not_isIdentifier owner hname] at h
    cases h

variable (schema : SchemaType)

theorem writesMembers_draftIterator :
    WritesMembers (draftIterator owner schema).edits none
      (schema.properties.head?.map SchemaProperty.iteratorMethod) (!schema.properties.isEmpty) := by
  rw [draftIterator_eq]
  unfold SchemaType.iteratorEdits
  cases schema.properties with
  | nil => exact ⟨rfl, rfl, fun _ => rfl⟩
  | cons first rest => exact ⟨rfl, rfl, fun h => absurd h (by simp)⟩

theorem writesMembers_draftSerialization :
    WritesMembers (draftSerialization owner schema).edits none (some schema.serializeMethod) false := by
  rw [draftSerialization_eq]
  exact ⟨rfl, rfl, fun _ => rfl⟩

theorem writesMembers_draftResultProvider {wrapper : Option String}
    (h : (draftResultProvider owner wrapper schema).outcome = .ok ()) :
    WritesMembers (draftResultProvider owner wrapper schema).edits none
      (schema.properties.head?.map (fun first => first.resultMethod (bareWrapper wrapper))) false := by
  rw [draftResultProvider_eq owner (wrapperFault_of_succeeds owner h)]
  constructor
  · rw [schema.filterMap_providerEdits owner wrapper ClassEdit.field? (fun _ => rfl)]
    cases schema.properties <;> rfl
  · rw [schema.filterMap_providerEdits owner wrapper ClassEdit.method? (fun _ => rfl)]
    cases schema.properties <;> rfl
  · intro _
    rw [schema.filterMap_providerEdits owner wrapper ClassEdit.doc? (fun _ => rfl)]
    cases schema.properties <;> rfl

namespace Assembler

variable {owner} {assembler : Assembler} {context : GenerationContext}

theorem worksOn_of_succeeds (h : (assembler.draft owner context).outcome = .ok ()) :
    assembler.WorksOn context := by
  cases haccepts : assembler.accepts context.kind with
  | true => exact worksOn_of_accepts haccepts
  | false =>
    rw [assembler.draft_of_not_accepts owner context haccepts] at h
    cases h

/-- What an assembler that succeeds has drafted for the members is its own. -/
theorem writesMembers_draft (h : (assembler.draft owner context).outcome = .ok ()) :
    WritesMembers (assembler.draft owner context).edits (assembler.ownField context)
      (assembler.ownMethod context) (assembler.ownsDoc context) := by
  cases worksOn_of_succeeds h with
  | clientConstructor => exact writesMembers_draftConstructor owner
  | clientMethod operation => exact writesMembers_draftOperation owner h
  | property settings schema property => exact writesMembers_draftField owner h
  | interface name schema =>
    exact writesMembers_of_references (refersOnly_draftInterface owner name).edits
  | useOnType name aliasName schema =>
    exact writesMembers_of_references (refersOnly_draftImport owner name aliasName).edits
  | useOnProperty name aliasName schema property =>
    exact writesMembers_of_references (refersOnly_draftImport owner name aliasName).edits
  | iterator schema => exact writesMembers_draftIterator owner schema
  | jsonSerializable schema => exact writesMembers_draftSerialization owner schema
  | resultProvider wrapper schema => exact writesMembers_draftResultProvider owner schema h

theorem name_ownField (h : (assembler.draft owner context).outcome = .ok ()) :
    (assembler.ownField context).map Field.name = assembler.ownFieldName context := by
  cases worksOn_of_succeeds h <;> rfl

theorem name_ownMethod (h : (assembler.draft owner context).outcome = .ok ()) :
    (assembler.ownMethod context).map Method.name = assembler.ownMethodName context := by
  cases worksOn_of_succeeds h with
  | clientMethod operation =>
    have hfault := fault_of_draftOperation owner h
    have hname := methodName_of_isIdentifier (Operation.fault_eq_none_iff_checks.mp hfault).1
    rw [ownMethod, ownMethodName, hname]
    rfl
  | iterator schema =>
    rw [ownMethod, ownMethodName]
    cases schema.properties <;> rfl
  | resultProvider wrapper schema =>
    rw [ownMethod, ownMethodName]
    cases schema.properties with
    | nil => rfl
    | cons first rest => exact congrArg some (first.name_resultMethod _)
  | _ => rfl

end Assembler

end

namespace Assembler

/-- An assembler that succeeds writes the members that are its own and changes no others. Its member takes
the place of the one of its name, or comes last if there was none; no import is lost or renamed, and the
interfaces of before stay in front. -/
theorem frames_of_assemble (assembler : Assembler) (context : GenerationContext)
    (before after : PhpClass) (h : assembler.assemble context before = (.ok (), after)) :
    assembler.Frames context before after := by
  obtain ⟨houtcome, hafter⟩ := Prod.mk.inj h
  have hadditions : ∀ change ∈ (GenerationStep.draft before.toClassIdentity
      ⟨assembler, context⟩).edits, change.IsAddition :=
    fun change hmem => GenerationStep.isAddition_of_mem_edits hmem
  have hwrites := writesMembers_draft houtcome
  have hextended : after = before.extended (assembler.draft before.toClassIdentity context).edits :=
    hafter.symm.trans (before.amendAll_eq_extended _ hadditions)
  rw [hextended]
  constructor
  case identity => rfl
  case imports => exact fun entry hmem => ImportTable.mem_insertAll_of_mem hmem _
  case interfaces => exact before.interfaces.prefix_putAll _
  case fields =>
    rw [PhpClass.fields_extended, hwrites.fields]
    exact writesOnly_putAll before.fields _
  case field_name => exact name_ownField houtcome
  case methods =>
    rw [PhpClass.methods_extended, hwrites.methods]
    exact writesOnly_putAll before.methods _
  case method_name => exact name_ownMethod houtcome
  case doc =>
    intro hdoc
    rw [PhpClass.doc_extended, hwrites.doc hdoc]
    rfl

/-- A class with an iterator of its own between two other methods. -/
def crowdedClass : PhpClass :=
  (PhpClass.fresh "Order" "App").amendAll [.addImport "App\\Items" (some "Goods"),
    .addInterface "Countable", .putField { name := "id" }, .putMethod { name := "count" },
    .putMethod { name := "getIterator" }, .putMethod { name := "jsonSerialize" }]

/-- The new iterator takes the place of the old one. -/
theorem frames_of_assemble_crowded :
    ∃ after : PhpClass,
      Assembler.iterator.assemble
        (.schemaType ⟨"App", "Order", [⟨"id", "int", "", {}⟩], "Order", by decide⟩) crowdedClass =
          (.ok (), after) ∧
      Assembler.iterator.Frames
        (.schemaType ⟨"App", "Order", [⟨"id", "int", "", {}⟩], "Order", by decide⟩) crowdedClass
        after ∧
      after.methods.toList = [{ name := "count" }, SchemaProperty.iteratorMethod ⟨"id", "int", "", {}⟩,
        { name := "jsonSerialize" }] ∧
      after.interfaces.toList = ["Countable", "IteratorAggregate"] := by
  refine ⟨_, rfl, frames_of_assemble _ _ _ _ rfl, by decide +kernel, by decide +kernel⟩

end Assembler

end SoapClasses
