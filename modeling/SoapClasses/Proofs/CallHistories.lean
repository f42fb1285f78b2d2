import SoapClasses.Proofs.DraftLaws
import SoapClasses.Proofs.EditLogs
import SoapClasses.Proofs.ImportLines
import SoapClasses.Proofs.MemberHistories
import SoapClasses.Proofs.PrintedImports
import SoapClasses.Proofs.StepEndings
import SoapClasses.Proofs.TypeNames

/-!
# Histories of classes

A class that starts empty is described by the calls that were made on it, refused ones included. A
refused call leaves no trace. Of the others, each part of the class takes those of its own kind: members
replace and are removed, the first alias of an import stays, and interfaces only ever come.
-/

namespace SoapClasses

namespace ClassEdit

/-- Whether all names that a call brings are identifiers. -/
def isAccepted : ClassEdit → Bool
  | .putField field => isIdentifier field.name
  | .putMethod method =>
    isIdentifier method.name && method.parameters.all (fun parameter => isIdentifier parameter.name)
  | _ => true

/-- What a call does to the fields. -/
def fieldCall (change : ClassEdit) : MemberCall Field :=
  match change with
  | .putField field => if change.isAccepted then .bring field else .none
  | .removeField name => .remove name
  | _ => .none

/-- What a call does to the methods. -/
def methodCall (change : ClassEdit) : MemberCall Method :=
  match change with
  | .putMethod method => if change.isAccepted then .bring method else .none
  | .removeMethod name => .remove name
  | _ => .none

theorem check_eq_ok_iff (change : ClassEdit) : change.check = .ok () ↔ change.isAccepted = true := by
  cases change with
  | putField field => exact requireIdentifier_eq_ok_iff .property field.name
  | putMethod method =>
    simp only [check, Method.check_eq_ok_iff, isAccepted, Bool.and_eq_true, List.all_eq_true]
  | _ => exact iff_of_true rfl rfl

theorem exists_check_eq_error {change : ClassEdit} (h : change.isAccepted = false) :
    ∃ error, change.check = .error error := by
  cases hcheck : change.check with
  | ok value => simp [(check_eq_ok_iff change).mp hcheck] at h
  | error error => exact ⟨error, rfl⟩

theorem isIdentifier_of_fieldCall {change : ClassEdit} {field : Field}
    (h : change.fieldCall = .bring field) : isIdentifier field.name = true := by
  cases change with
  | putField other =>
    rw [fieldCall] at h
    split at h
    · rename_i haccepted
      exact MemberCall.bring.inj h ▸ haccepted
    · cases h
  | _ => cases h

theorem isIdentifier_of_methodCall {change : ClassEdit} {method : Method}
    (h : change.methodCall = .bring method) : isIdentifier method.name = true ∧
      ∀ parameter ∈ method.parameters, isIdentifier parameter.name = true := by
  cases change with
  | putMethod other =>
    rw [methodCall] at h
    split at h
    · rename_i haccepted
      rw [isAccepted, Bool.and_eq_true, List.all_eq_true] at haccepted
      exact MemberCall.bring.inj h ▸ haccepted
    · cases h
  | _ => cases h

end ClassEdit

/-- The alias that came with the first import of a name, if any came with it. -/
def firstAlias (changes : List ClassEdit) (name : String) : Option String :=
  ((changes.filterMap ClassEdit.import?).find?
    (fun entry => dropLeadingSeparators entry.name == name)).bind Import.aliasName

/-- The line that imports a name, with its first alias. -/
def useLine (changes : List ClassEdit) (name : String) : String :=
  match firstAlias changes name with
  | some aliasName => "use " ++ name ++ " as " ++ aliasName ++ ";"
  | none => "use " ++ name ++ ";"

namespace PhpClass

/-- Makes a call on a class: how it ends, and the class that it leaves. -/
def call (php : PhpClass) (change : ClassEdit) : Except NamingError Unit × PhpClass :=
  ((Draft.edit change).outcome, (Draft.edit change).applyTo php)

/-- The class that calls leave, made in order, whether they are refused or not. -/
def callAll (php : PhpClass) (changes : List ClassEdit) : PhpClass :=
  changes.foldl (fun php change => (php.call change).2) php

section

variable (php : PhpClass) {change : ClassEdit}

theorem call_of_accepted (h : change.isAccepted = true) :
    php.call change = (.ok (), php.amend change) := by
  rw [call, Draft.edit_of_check ((ClassEdit.check_eq_ok_iff change).mpr h)]
  rfl

theorem call_of_refused (h : change.isAccepted = false) :
    ∃ error, php.call change = (.error error, php) := by
  obtain ⟨error, hcheck⟩ := ClassEdit.exists_check_eq_error h
  refine ⟨error, ?_⟩
  simp only [call, Draft.edit, hcheck]
  rfl

theorem call_snd : (php.call change).2 = if change.isAccepted = true then php.amend change else php := by
  cases haccepted : change.isAccepted with
  | true => rw [call_of_accepted php haccepted, if_pos rfl]
  | false =>
    obtain ⟨error, hcall⟩ := call_of_refused php haccepted
    rw [hcall, if_neg Bool.false_ne_true]

theorem fields_call : (php.call change).2.fields = php.fields.call change.fieldCall := by
  rw [call_snd]
  cases change with
  | putField field =>
    simp only [ClassEdit.fieldCall]
    split <;> rfl
  | putMethod method => split <;> rfl
  | _ => rfl

theorem methods_call : (php.call change).2.methods = php.methods.call change.methodCall := by
  rw [call_snd]
  cases change with
  | putField field => split <;> rfl
  | putMethod method =>
    simp only [ClassEdit.methodCall]
    split <;> rfl
  | _ => rfl

theorem imports_call : (php.call change).2.imports = php.imports.insertAll change.import?.toList := by
  rw [call_snd]
  cases change with
  | putField field => split <;> rfl
  | putMethod method => split <;> rfl
  | _ => rfl

theorem interfaces_call :
    (php.call change).2.interfaces = php.interfaces.putAll change.interface?.toList := by
  rw [call_snd]
  cases change with
  | putField field => split <;> rfl
  | putMethod method => split <;> rfl
  | _ => rfl

theorem doc_call : (php.call change).2.doc = change.doc?.or php.doc := by
  rw [call_snd]
  cases change with
  | putField field => split <;> rfl
  | putMethod method => split <;> rfl
  | _ => rfl

theorem edit_eq_call : php.edit change = (php.call change).1.map (fun _ => (php.call change).2) := by
  cases haccepted : change.isAccepted with
  | true =>
    rw [edit, (ClassEdit.check_eq_ok_iff change).mpr haccepted, call_of_accepted php haccepted]
  | false =>
    obtain ⟨error, hcheck⟩ := ClassEdit.exists_check_eq_error haccepted
    simp only [edit, call, Draft.edit, hcheck, Draft.fail, Except.map]

theorem call_of_error {error : NamingError} (h : (php.call change).1 = .error error) :
    (php.call change).2 = php := by
  rw [call_snd]
  split
  · rename_i haccepted
    rw [call_of_accepted php haccepted] at h
    cases h
  · rfl

end

section

variable (php : PhpClass) (changes : List ClassEdit)

theorem fields_callAll :
    (php.callAll changes).fields = php.fields.callAll (changes.map ClassEdit.fieldCall) := by
  induction changes generalizing php with
  | nil => rfl
  | cons change rest ih =>
    have hrest := ih (php.call change).2
    rw [fields_call] at hrest
    exact hrest

theorem methods_callAll :
    (php.callAll changes).methods = php.methods.callAll (changes.map ClassEdit.methodCall) := by
  induction changes generalizing php with
  | nil => rfl
  | cons change rest ih =>
    have hrest := ih (php.call change).2
    rw [methods_call] at hrest
    exact hrest

theorem imports_callAll :
    (php.callAll changes).imports = php.imports.insertAll (changes.filterMap ClassEdit.import?) := by
  induction changes generalizing php with
  | nil => rfl
  | cons change rest ih =>
    have hrest := ih (php.call change).2
    rw [imports_call] at hrest
    rw [callAll, List.foldl_cons, ← callAll, hrest, List.filterMap_cons]
    cases change.import? <;> rfl

theorem interfaces_callAll : (php.callAll changes).interfaces =
    php.interfaces.putAll (changes.filterMap ClassEdit.interface?) := by
  induction changes generalizing php with
  | nil => rfl
  | cons change rest ih =>
    have hrest := ih (php.call change).2
    rw [interfaces_call] at hrest
    rw [callAll, List.foldl_cons, ← callAll, hrest, List.filterMap_cons]
    cases change.interface? <;> rfl

theorem doc_callAll :
    (php.callAll changes).doc = (changes.filterMap ClassEdit.doc?).getLast?.or php.doc := by
  induction changes generalizing php with
  | nil => rfl
  | cons change rest ih =>
    have hrest := ih (php.call change).2
    rw [doc_call] at hrest
    rw [callAll, List.foldl_cons, ← callAll, hrest, List.filterMap_cons]
    cases change.doc? with
    | none => rfl
    | some doc =>
      rw [List.getLast?_cons]
      cases (rest.filterMap ClassEdit.doc?).getLast? <;> rfl

end

/-- The class is what a history of calls on an empty class has left, the refused ones left out. -/
structure Records (php : PhpClass) (changes : List ClassEdit) : Prop where
  fields : php.fields.Records (changes.map ClassEdit.fieldCall)
  methods : php.methods.Records (changes.map ClassEdit.methodCall)
  field_names : ∀ name field, php.fields.find? name = some field →
    field.name = name ∧ isIdentifier name = true
  method_names : ∀ name method, php.methods.find? name = some method →
    method.name = name ∧ isIdentifier name = true ∧
      ∀ parameter ∈ method.parameters, isIdentifier parameter.name = true
  /-- Imports stand in the order of their names, each name once. -/
  imports_sorted : php.imports.names.Pairwise (· < ·)
  mem_imports_iff : ∀ name, name ∈ php.imports.names ↔
    ∃ asked aliasName, .addImport asked aliasName ∈ changes ∧
      String.ofList (asked.toList.dropWhile (· == '\\')) = name
  import_lines : ∃ before behind : List String,
    php.render = unlines (before ++ php.imports.names.map (useLine changes) ++ behind) ∧
    ∀ line ∈ before ++ behind, startsImport line = false
  /-- The lines of the written text that start as an import does are those of the imports. -/
  printed_imports : php.KeepsImportLines → (splitText (· == '\n') php.render).filter startsImport =
    php.imports.names.map (useLine changes)
  interfaces : php.interfaces.toList = (changes.filterMap ClassEdit.interface?).eraseDups
  interfaces_once : php.interfaces.toList.Nodup
  interfaces_bare : ∀ name ∈ php.interfaces.toList, name.toList.head? ≠ some '\\'
  doc : php.doc = (changes.filterMap ClassEdit.doc?).getLast?

section

variable (name ns : String) (changes : List ClassEdit)

theorem imports_callAll_fresh : ((fresh name ns).callAll changes).imports.toList =
    ((fresh name ns).callAll changes).imports.names.map
      (fun imported => ⟨imported, firstAlias changes imported⟩) := by
  have hentry : ∀ entry ∈ ((fresh name ns).callAll changes).imports.toList,
      (⟨entry.name, firstAlias changes entry.name⟩ : Import) = entry := by
    intro entry hmem
    have hfound := (ImportTable.find?_eq_some_iff _ entry.name entry).mpr ⟨hmem, rfl⟩
    rw [imports_callAll, imports_fresh, ImportTable.find?_insertAll] at hfound
    obtain ⟨first, hfirst, heq⟩ := Option.map_eq_some_iff.mp hfound
    rw [firstAlias, hfirst, Option.bind_some]
    exact heq
  rw [ImportTable.names, List.map_map]
  exact ((List.map_congr_left hentry).trans (List.map_id _)).symm

theorem import_lines_callAll_fresh : ((fresh name ns).callAll changes).imports.toList.map Import.line =
    ((fresh name ns).callAll changes).imports.names.map (useLine changes) := by
  rw [imports_callAll_fresh, List.map_map]
  rfl

theorem mem_imports_callAll_fresh_iff (imported : String) :
    imported ∈ ((fresh name ns).callAll changes).imports.names ↔
      ∃ asked aliasName, .addImport asked aliasName ∈ changes ∧
        dropLeadingSeparators asked = imported := by
  rw [imports_callAll, imports_fresh]
  constructor
  · intro hmem
    obtain ⟨entry, hentry, rfl⟩ := List.mem_map.mp hmem
    rcases ImportTable.mem_insertAll hentry with hnone | ⟨asked, hasked, rfl⟩
    · cases hnone
    · obtain ⟨change, hchange, himport⟩ := List.mem_filterMap.mp hasked
      cases change with
      | addImport askedName aliasName =>
        exact ⟨askedName, aliasName, hchange, by rw [← Option.some.inj himport]⟩
      | _ => cases himport
  · rintro ⟨asked, aliasName, hchange, rfl⟩
    have hasked : (⟨asked, aliasName⟩ : Import) ∈ changes.filterMap ClassEdit.import? :=
      List.mem_filterMap.mpr ⟨_, hchange, rfl⟩
    exact ImportTable.name_mem_insertAll .empty hasked

theorem fieldsRecord_callAll_fresh :
    ((fresh name ns).callAll changes).fields.Records (changes.map ClassEdit.fieldCall) := by
  rw [fields_callAll]
  exact MemberTable.records_calls _

theorem methodsRecord_callAll_fresh :
    ((fresh name ns).callAll changes).methods.Records (changes.map ClassEdit.methodCall) := by
  rw [methods_callAll]
  exact MemberTable.records_calls _

theorem membersNamed_callAll_fresh : ((fresh name ns).callAll changes).MembersNamed := by
  constructor
  case fields =>
    intro field hmem
    have hfound := (MemberTable.find?_eq_some_iff _ _ _).mpr ⟨hmem, rfl⟩
    obtain ⟨-, change, -, hbring⟩ :=
      (fieldsRecord_callAll_fresh name ns changes).exists_bring_of_find? hfound
    exact ClassEdit.isIdentifier_of_fieldCall hbring
  case methods =>
    intro method hmem
    have hfound := (MemberTable.find?_eq_some_iff _ _ _).mpr ⟨hmem, rfl⟩
    obtain ⟨-, change, -, hbring⟩ :=
      (methodsRecord_callAll_fresh name ns changes).exists_bring_of_find? hfound
    exact ClassEdit.isIdentifier_of_methodCall hbring

theorem interfaces_callAll_fresh : ((fresh name ns).callAll changes).interfaces.toList =
    (changes.filterMap ClassEdit.interface?).eraseDups := by
  have hnames := MemberTable.names_putAll .empty (changes.filterMap ClassEdit.interface?)
  rw [← interfaces_fresh name ns, ← interfaces_callAll] at hnames
  simpa [MemberTable.names, MemberTable.empty, Named.nameOf] using hnames

end

/-- An empty class on which calls are made records them all. A refused call leaves a class as it was, and
an edit gives the class that a call leaves unless it is refused. -/
theorem records_callAll (name ns : String) (changes : List ClassEdit) :
    ((fresh name ns).callAll changes).Records changes ∧
      (∀ (php : PhpClass) (change : ClassEdit) (error : NamingError),
        (php.call change).1 = .error error → (php.call change).2 = php) ∧
      ∀ (php : PhpClass) (change : ClassEdit),
        php.edit change = (php.call change).1.map (fun _ => (php.call change).2) := by
  have hnames := membersNamed_callAll_fresh name ns changes
  refine ⟨?_, fun php change error => php.call_of_error, fun php change => php.edit_eq_call⟩
  constructor
  case fields => exact fieldsRecord_callAll_fresh name ns changes
  case methods => exact methodsRecord_callAll_fresh name ns changes
  case field_names =>
    intro key field hfound
    obtain ⟨hmem, rfl⟩ := (MemberTable.find?_eq_some_iff _ _ _).mp hfound
    exact ⟨rfl, hnames.fields field hmem⟩
  case method_names =>
    intro key method hfound
    obtain ⟨hmem, rfl⟩ := (MemberTable.find?_eq_some_iff _ _ _).mp hfound
    exact ⟨rfl, hnames.methods method hmem⟩
  case imports_sorted =>
    exact List.pairwise_map.mpr ((fresh name ns).callAll changes).imports.sorted
  case mem_imports_iff => exact mem_imports_callAll_fresh_iff name ns changes
  case import_lines =>
    obtain ⟨before, behind, hlines, hothers⟩ := exists_lines_eq ((fresh name ns).callAll changes)
    refine ⟨before, behind, ?_, hothers⟩
    rw [render, hlines, import_lines_callAll_fresh]
  case printed_imports =>
    intro hkeeps
    rw [filter_startsImport_render hnames hkeeps, import_lines_callAll_fresh]
  case interfaces => exact interfaces_callAll_fresh name ns changes
  case interfaces_once =>
    have hdistinct := ((fresh name ns).callAll changes).interfaces.distinct
    simpa [Named.nameOf] using hdistinct
  case interfaces_bare =>
    rw [interfaces_callAll_fresh]
    intro interface hmem
    obtain ⟨change, -, hinterface⟩ := List.mem_filterMap.mp (List.mem_eraseDups.mp hmem)
    cases change with
    | addInterface asked =>
      rw [← Option.some.inj hinterface]
      exact head?_dropLeadingSeparators_ne asked
    | _ => cases hinterface
  case doc =>
    rw [doc_callAll]
    exact Option.or_none

/-- A field that goes and comes back, and a name that is imported twice. -/
def restoredField : List ClassEdit := [
  .putField { name := "number" },
  .putField { name := "label" },
  .removeField "number",
  .putField { name := "number", typeHint := some "int" },
  .addImport "\\App\\Order" (some "Sale"),
  .addImport "App\\Order" none]

/-- The field that came back stands last, the import has its first alias, and a method with a wrong
parameter does not come at all. -/
theorem records_callAll_restoredField :
    let php := (fresh "Shop" "App").callAll restoredField
    let refused := ClassEdit.putMethod { name := "number", parameters := [⟨"1st", none⟩] }
    php.Records restoredField ∧ php.fields.names = ["label", "number"] ∧ php.KeepsImportLines ∧
      (splitText (· == '\n') php.render).filter startsImport = ["use App\\Order as Sale;"] ∧
      (php.call refused).2 = php := by
  obtain ⟨hrecords, hrefused, -⟩ := records_callAll "Shop" "App" restoredField
  have hkeeps : ((fresh "Shop" "App").callAll restoredField).KeepsImportLines := by decide +kernel
  refine ⟨hrecords, by decide +kernel, hkeeps, (hrecords.printed_imports hkeeps).trans ?_, ?_⟩
  · decide +kernel
  · exact hrefused _ _ (.invalidIdentifier .parameter "1st") (by decide +kernel)

/-- A name with a line feed is one import, and it is printed as two lines that start as imports do. -/
theorem printed_imports_of_feed :
    let php := (fresh "Shop" "App").callAll [.addImport "App\\Order;\nuse App\\Item" none]
    php.imports.names = ["App\\Order;\nuse App\\Item"] ∧
      (splitText (· == '\n') php.render).filter startsImport = ["use App\\Order;", "use App\\Item;"] := by
  decide +kernel

end PhpClass

end SoapClasses
