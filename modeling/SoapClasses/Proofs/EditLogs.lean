import SoapClasses.PhpClasses
import SoapClasses.Proofs.ImportTableUpdates
import SoapClasses.Proofs.MemberTableUpdates

/-!
# Logs of edits

What a log of edits does to a class can be read off part by part, as long as nothing is removed: each
part of the class takes the edits of its own kind. Such a log leaves the class alone when it is applied
a second time. A log of references, imports and interfaces only, spares the members.
-/

namespace SoapClasses

namespace ClassEdit

/-- Edits that bring something into a class. -/
def IsAddition : ClassEdit → Prop
  | .removeField _ => False
  | .removeMethod _ => False
  | _ => True

/-- Edits that let a class refer to other classes. -/
def IsReference : ClassEdit → Prop
  | .addImport _ _ => True
  | .addInterface _ => True
  | _ => False

theorem IsReference.isAddition {change : ClassEdit} (h : change.IsReference) :
    change.IsAddition := by
  cases change <;> trivial

/-- The import that an edit brings. -/
def import? : ClassEdit → Option Import
  | .addImport name aliasName => some ⟨name, aliasName⟩
  | _ => none

/-- The interface that an edit brings. -/
def interface? : ClassEdit → Option String
  | .addInterface name => some (dropLeadingSeparators name)
  | _ => none

/-- The field that an edit brings. -/
def field? : ClassEdit → Option Field
  | .putField field => some field
  | _ => none

/-- The method that an edit brings. -/
def method? : ClassEdit → Option Method
  | .putMethod method => some method
  | _ => none

/-- The doc block that an edit brings. -/
def doc? : ClassEdit → Option DocBlock
  | .setDoc doc => some doc
  | _ => none

theorem filterMap_singleton {α : Type} (part : ClassEdit → Option α) (change : ClassEdit) :
    [change].filterMap part = (part change).toList := by
  cases hpart : part change <;> simp [hpart]

section

variable {changes : List ClassEdit}

theorem mem_filterMap_iff {α : Type} {part : ClassEdit → Option α} {edit : α → ClassEdit}
    (h : ∀ change value, part change = some value ↔ change = edit value) {value : α} :
    value ∈ changes.filterMap part ↔ edit value ∈ changes := by
  rw [List.mem_filterMap]
  constructor
  · rintro ⟨change, hmem, hpart⟩
    rwa [← (h change value).mp hpart]
  · exact fun hmem => ⟨edit value, hmem, (h (edit value) value).mpr rfl⟩

theorem mem_filterMap_import? {entry : Import} :
    entry ∈ changes.filterMap import? ↔ .addImport entry.name entry.aliasName ∈ changes := by
  have hpart : ∀ (change : ClassEdit) (other : Import), change.import? = some other ↔
      change = (fun brought : Import => .addImport brought.name brought.aliasName) other := by
    intro change other
    cases change <;> cases other <;> simp [import?]
  exact mem_filterMap_iff hpart

theorem mem_filterMap_field? {field : Field} :
    field ∈ changes.filterMap field? ↔ .putField field ∈ changes := by
  apply mem_filterMap_iff
  intro change other
  cases change <;> simp [field?]

theorem mem_filterMap_method? {method : Method} :
    method ∈ changes.filterMap method? ↔ .putMethod method ∈ changes := by
  apply mem_filterMap_iff
  intro change other
  cases change <;> simp [method?]

theorem mem_filterMap_doc? {doc : DocBlock} :
    doc ∈ changes.filterMap doc? ↔ .setDoc doc ∈ changes := by
  apply mem_filterMap_iff
  intro change other
  cases change <;> simp [doc?]

end

end ClassEdit

namespace PhpClass

theorem amendAll_append (php : PhpClass) (first next : List ClassEdit) :
    php.amendAll (first ++ next) = (php.amendAll first).amendAll next :=
  List.foldl_append

@[simp] theorem toClassIdentity_amendAll (php : PhpClass) (changes : List ClassEdit) :
    (php.amendAll changes).toClassIdentity = php.toClassIdentity := by
  induction changes generalizing php with
  | nil => rfl
  | cons change rest ih => exact (ih (php.amend change)).trans (toClassIdentity_amend php change)

/-- It makes no difference whether an import is added only if its name is not imported. -/
theorem amend_addImport_unless_contains (php : PhpClass) (name : String) (aliasName : Option String) :
    (if php.imports.contains name = true then php else php.amend (.addImport name aliasName)) =
      php.amend (.addImport name aliasName) := by
  split
  · rename_i hcontains
    obtain ⟨entry, hfound⟩ := Option.isSome_iff_exists.mp hcontains
    obtain ⟨hentry, hname⟩ := (php.imports.find?_eq_some_iff _ entry).mp hfound
    have hmem : dropLeadingSeparators name ∈ php.imports.names := hname ▸ List.mem_map_of_mem hentry
    rw [amend, ImportTable.insert_of_name_mem hmem]
  · rfl

/-- It makes no difference whether an interface is declared only if it is not there. -/
theorem amend_addInterface_unless_contains (php : PhpClass) (name : String) :
    (if php.interfaces.contains (dropLeadingSeparators name) = true then php
      else php.amend (.addInterface name)) = php.amend (.addInterface name) := by
  split
  · rename_i hcontains
    obtain ⟨interface, hfound⟩ := Option.isSome_iff_exists.mp hcontains
    obtain ⟨hinterface, rfl⟩ := (php.interfaces.find?_eq_some_iff _ interface).mp hfound
    exact congrArg (fun interfaces => { php with interfaces }) (MemberTable.put_of_mem hinterface).symm
  · rfl

/-- The class with the additions of a log made to each of its parts. -/
def extended (php : PhpClass) (changes : List ClassEdit) : PhpClass where
  toClassIdentity := php.toClassIdentity
  imports := php.imports.insertAll (changes.filterMap ClassEdit.import?)
  interfaces := php.interfaces.putAll (changes.filterMap ClassEdit.interface?)
  fields := php.fields.putAll (changes.filterMap ClassEdit.field?)
  methods := php.methods.putAll (changes.filterMap ClassEdit.method?)
  doc := (changes.filterMap ClassEdit.doc?).getLast?.or php.doc

section

variable (php : PhpClass) (changes : List ClassEdit)

@[simp] theorem toClassIdentity_extended : (php.extended changes).toClassIdentity =
    php.toClassIdentity := rfl

@[simp] theorem imports_extended : (php.extended changes).imports =
    php.imports.insertAll (changes.filterMap ClassEdit.import?) := rfl

@[simp] theorem interfaces_extended : (php.extended changes).interfaces =
    php.interfaces.putAll (changes.filterMap ClassEdit.interface?) := rfl

@[simp] theorem fields_extended : (php.extended changes).fields =
    php.fields.putAll (changes.filterMap ClassEdit.field?) := rfl

@[simp] theorem methods_extended : (php.extended changes).methods =
    php.methods.putAll (changes.filterMap ClassEdit.method?) := rfl

@[simp] theorem doc_extended : (php.extended changes).doc =
    (changes.filterMap ClassEdit.doc?).getLast?.or php.doc := rfl

end

section

variable (name ns : String)

@[simp] theorem imports_fresh : (fresh name ns).imports = .empty := rfl

@[simp] theorem interfaces_fresh : (fresh name ns).interfaces = .empty := rfl

@[simp] theorem fields_fresh : (fresh name ns).fields = .empty := rfl

@[simp] theorem methods_fresh : (fresh name ns).methods = .empty := rfl

@[simp] theorem doc_fresh : (fresh name ns).doc = none := rfl

end

theorem extended_cons (php : PhpClass) (change : ClassEdit) (rest : List ClassEdit)
    (h : change.IsAddition) : php.extended (change :: rest) = (php.amend change).extended rest := by
  cases change with
  | removeField name => exact h.elim
  | removeMethod name => exact h.elim
  | setDoc doc =>
    simp only [extended, amend, List.filterMap_cons, ClassEdit.import?, ClassEdit.interface?,
      ClassEdit.field?, ClassEdit.method?, ClassEdit.doc?, List.getLast?_cons]
    cases (rest.filterMap ClassEdit.doc?).getLast? <;> rfl
  | addImport name aliasName => rfl
  | addInterface name => rfl
  | putField field => rfl
  | putMethod method => rfl

/-- A log of additions acts on each part of a class by itself. -/
theorem amendAll_eq_extended (php : PhpClass) (changes : List ClassEdit)
    (h : ∀ change ∈ changes, change.IsAddition) : php.amendAll changes = php.extended changes := by
  induction changes generalizing php with
  | nil => rfl
  | cons change rest ih =>
    have hrest := ih (php.amend change) (fun other hmem => h other (List.mem_cons_of_mem _ hmem))
    rw [extended_cons php change rest (h change List.mem_cons_self), ← hrest]
    rfl

theorem amendAll_amendAll (php : PhpClass) (changes : List ClassEdit)
    (h : ∀ change ∈ changes, change.IsAddition) :
    (php.amendAll changes).amendAll changes = php.amendAll changes := by
  rw [amendAll_eq_extended _ changes h, amendAll_eq_extended php changes h]
  simp only [extended, ImportTable.insertAll_insertAll, MemberTable.putAll_putAll,
    ← Option.or_assoc, Option.or_self]

/-- The members and the doc block are as before, no import is lost or changed, and new interfaces stand
behind the old ones. -/
structure SparesMembers (before after : PhpClass) : Prop where
  identity : after.toClassIdentity = before.toClassIdentity
  fields : after.fields = before.fields
  methods : after.methods = before.methods
  doc : after.doc = before.doc
  imports : ∀ entry ∈ before.imports.toList, entry ∈ after.imports.toList
  interfaces : before.interfaces.toList <+: after.interfaces.toList

theorem SparesMembers.refl (php : PhpClass) : SparesMembers php php :=
  ⟨rfl, rfl, rfl, rfl, fun _ hmem => hmem, List.prefix_rfl⟩

theorem SparesMembers.trans {first second third : PhpClass} (h : SparesMembers first second)
    (h' : SparesMembers second third) : SparesMembers first third where
  identity := h'.identity.trans h.identity
  fields := h'.fields.trans h.fields
  methods := h'.methods.trans h.methods
  doc := h'.doc.trans h.doc
  imports entry hmem := h'.imports entry (h.imports entry hmem)
  interfaces := h.interfaces.trans h'.interfaces

theorem sparesMembers_amend (php : PhpClass) (change : ClassEdit) (h : change.IsReference) :
    SparesMembers php (php.amend change) := by
  cases change with
  | addImport name aliasName =>
    refine ⟨rfl, rfl, rfl, rfl, ?_, List.prefix_rfl⟩
    intro entry hmem
    exact ImportTable.mem_insert_of_mem hmem name aliasName
  | addInterface name =>
    exact ⟨rfl, rfl, rfl, rfl, fun _ hmem => hmem, prefix_putMember _ _⟩
  | putField field => exact h.elim
  | removeField name => exact h.elim
  | putMethod method => exact h.elim
  | removeMethod name => exact h.elim
  | setDoc doc => exact h.elim

theorem sparesMembers_amendAll (php : PhpClass) (changes : List ClassEdit)
    (h : ∀ change ∈ changes, change.IsReference) : SparesMembers php (php.amendAll changes) := by
  induction changes generalizing php with
  | nil => exact .refl php
  | cons change rest ih =>
    have hstep := sparesMembers_amend php change (h change List.mem_cons_self)
    exact hstep.trans
      (ih (php.amend change) (fun other hmem => h other (List.mem_cons_of_mem _ hmem)))

end PhpClass

end SoapClasses
