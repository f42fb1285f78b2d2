import SoapClasses.Proofs.Outcomes
import SoapClasses.Proofs.RepeatedNames
import SoapClasses.TextDocuments

/-!
# Distinct properties

A type is made only of properties with different names, and it keeps all of them in their order. Types that
are read from a text are no exception: whatever way the types of a document are written down, each of them
is made from what one place of the text declares, so the names that are declared there are different as
well, and no property is lost. A document with a declaration that repeats a name is not accepted.
-/

namespace SoapClasses

open JsonTree

namespace RecordForm

variable {π α : Type} (form : RecordForm π α)

/-- The fields that a tree gives, in their order: the members of an object that are called like a field, or
the items of an array under the names of their places. -/
def fieldsOf : JsonTree → List (String × JsonTree)
  | .object members => members.filterMap fun member =>
    match member.1 with
    | .text key => if form.keys.contains key then some (key, member.2) else none
    | _ => none
  | .array items => form.keys.zip items
  | _ => []

/-- Adds the values of fields to a collection, one by one. -/
def putAll (parts : π) (fields : List (String × JsonTree)) : Decoded π :=
  fields.foldlM (fun parts field => form.put parts field.1 field.2) parts

variable {form} {parts last : π}

theorem putAll_of_foldlM_takeMember {members : List (JsonTree × JsonTree)}
    (h : members.foldlM form.takeMember parts = .ok last) :
    form.putAll parts (form.fieldsOf (.object members)) = .ok last := by
  induction members generalizing parts with
  | nil => exact h
  | cons member rest ih =>
    obtain ⟨key, value⟩ := member
    rw [List.foldlM_cons, bind_eq_ok_iff] at h
    obtain ⟨next, htake, hrest⟩ := h
    have hnext := ih hrest
    cases key with
    | text key =>
      rw [takeMember] at htake
      split at htake
      case isTrue hknown =>
        have hfields : form.fieldsOf (.object ((.text key, value) :: rest)) =
            (key, value) :: form.fieldsOf (.object rest) := by
          simp only [fieldsOf, List.filterMap_cons, if_pos hknown]
        rw [hfields, putAll, List.foldlM_cons, bind_eq_ok_iff]
        exact ⟨next, htake, hnext⟩
      case isFalse hunknown =>
        have hfields : form.fieldsOf (.object ((.text key, value) :: rest)) =
            form.fieldsOf (.object rest) := by
          simp only [fieldsOf, List.filterMap_cons, if_neg hunknown]
        split at htake
        · rw [hfields, Except.ok.inj htake]
          exact hnext
        · cases htake
    | _ => cases htake

theorem exists_putAll_of_decode {tree : JsonTree} {record : α} (h : form.decode tree = .ok record) :
    ∃ parts missing, form.putAll form.start (form.fieldsOf tree) = .ok parts ∧
      form.finish parts missing = .ok record := by
  cases tree with
  | object members =>
    obtain ⟨parts, hparts, hfinish⟩ := bind_eq_ok_iff.mp h
    exact ⟨parts, _, putAll_of_foldlM_takeMember hparts, hfinish⟩
  | array items =>
    obtain ⟨parts, hparts, hrest⟩ := bind_eq_ok_iff.mp h
    obtain ⟨finished, hfinish, hlength⟩ := bind_eq_ok_iff.mp hrest
    split at hlength
    · cases hlength
    · rw [← Except.ok.inj hlength]
      exact ⟨parts, _, hparts, hfinish⟩
  | _ => cases h

end RecordForm

namespace SchemaType

/-- The type has the properties that the tree declares, and these have different names. -/
def DeclaredBy (schema : SchemaType) (tree : JsonTree) : Prop :=
  ∃ declared, form.decode tree = .ok declared ∧
    (declared.properties.map SchemaProperty.name).Nodup ∧ schema.properties = declared.properties

theorem declaredBy_of_decode {schema : SchemaType} {tree : JsonTree} (h : decode tree = .ok schema) :
    schema.DeclaredBy tree := by
  obtain ⟨declared, hdeclared, hmade⟩ := bind_eq_ok_iff.mp h
  have hschema := mapError_eq_ok_iff.mp hmade
  exact ⟨declared, hdeclared, exists_ofProperties_iff.mp ⟨schema, hschema⟩,
    (ofProperties_eq_ok_iff.mp hschema).2.2.1⟩

end SchemaType

namespace ServiceDocument

/-- The items that a field of a document declares as types. -/
def typeItems : String × JsonTree → List JsonTree
  | ("types", .array items) => items
  | _ => []

/-- The places of a document where its types are declared, in their order. -/
def typeTrees (tree : JsonTree) : List JsonTree :=
  (form.fieldsOf tree).flatMap typeItems

variable {parts next last : Parts} {key : String} {value : JsonTree}

theorem types_of_put_types (h : form.put parts "types" value = .ok next) :
    parts.types = none ∧ ∃ types, decodeList SchemaType.decode value = .ok types ∧
      next.types = some types := by
  obtain ⟨types, hfill, hnext⟩ := bind_eq_ok_iff.mp h
  have hset : next.types = some types := by rw [← Except.ok.inj hnext]
  unfold RecordForm.fill at hfill
  split at hfill
  · cases hfill
  · rename_i hnone
    exact ⟨hnone, types, hfill, hset⟩

theorem types_of_put (hkey : key ≠ "types") (h : form.put parts key value = .ok next) :
    next.types = parts.types := by
  simp only [form] at h
  split at h
  · exact absurd rfl hkey
  · obtain ⟨client, -, hnext⟩ := bind_eq_ok_iff.mp h
    rw [← Except.ok.inj hnext]
  · rw [← Except.ok.inj h]

theorem typeItems_of_ne (hkey : key ≠ "types") : typeItems (key, value) = [] := by
  unfold typeItems
  split
  · rename_i heq
    exact absurd (Prod.mk.inj heq).1 hkey
  · rfl

theorem forall₂_typeItems {types : List SchemaType}
    (h : decodeList SchemaType.decode value = .ok types) :
    List.Forall₂ (fun tree schema => SchemaType.decode tree = .ok schema)
      (typeItems ("types", value)) types := by
  cases value with
  | array items => exact mapM_eq_ok_iff.mp h
  | _ => cases h

/-- Each field adds the types that it declares, in the order of their declarations. -/
theorem exists_types_of_putAll {fields : List (String × JsonTree)}
    (h : form.putAll parts fields = .ok last) :
    ∃ types, last.types.getD [] = parts.types.getD [] ++ types ∧
      List.Forall₂ (fun tree schema => SchemaType.decode tree = .ok schema)
        (fields.flatMap typeItems) types := by
  induction fields generalizing parts with
  | nil =>
    rw [← Except.ok.inj h]
    exact ⟨[], (List.append_nil _).symm, .nil⟩
  | cons field rest ih =>
    obtain ⟨key, value⟩ := field
    rw [RecordForm.putAll, List.foldlM_cons, bind_eq_ok_iff] at h
    obtain ⟨next, hput, hrest⟩ := h
    obtain ⟨types, hlast, htypes⟩ := ih hrest
    by_cases hkey : key = "types"
    · subst hkey
      obtain ⟨hnone, added, hadded, hnext⟩ := types_of_put_types hput
      refine ⟨added ++ types, ?_, ?_⟩
      · rw [hlast, hnext, hnone]
        rfl
      · rw [List.flatMap_cons]
        exact List.rel_append (forall₂_typeItems hadded) htypes
    · refine ⟨types, ?_, ?_⟩
      · rw [hlast, types_of_put hkey hput]
      · rw [List.flatMap_cons, typeItems_of_ne hkey]
        exact htypes

theorem forall₂_declaredBy_of_decode {tree : JsonTree} {document : ServiceDocument}
    (h : decode tree = .ok document) :
    List.Forall₂ (fun tree schema => schema.DeclaredBy tree) (typeTrees tree) document.types := by
  obtain ⟨parts, missing, hparts, hfinish⟩ := RecordForm.exists_putAll_of_decode h
  obtain ⟨types, htypes, hall⟩ := exists_types_of_putAll hparts
  have hdocument : document.types = types := by
    rw [← Except.ok.inj hfinish]
    exact htypes
  rw [hdocument]
  exact hall.imp fun _ _ hdecoded => SchemaType.declaredBy_of_decode hdecoded

theorem nodup_of_forall₂_declaredBy {trees : List JsonTree} {types : List SchemaType}
    (h : List.Forall₂ (fun tree schema => schema.DeclaredBy tree) trees types) :
    ∀ schema ∈ types, (schema.properties.map SchemaProperty.name).Nodup := by
  induction h with
  | nil => nofun
  | cons hdeclared _ ih =>
    obtain ⟨declared, -, hdistinct, hproperties⟩ := hdeclared
    exact List.forall_mem_cons.mpr ⟨hproperties ▸ hdistinct, ih⟩

theorem forall₂_declaredBy_of_parse {bytes : JsonText.Bytes} {document : ServiceDocument}
    (h : parse bytes = .ok document) :
    List.Forall₂ (fun tree schema => schema.DeclaredBy tree)
      (typeTrees (JsonText.read bytes).value) document.types := by
  unfold parse decodeJson at h
  split at h
  case isTrue hempty =>
    rw [List.isEmpty_iff.mp hempty, ← Except.ok.inj h]
    exact .nil
  case isFalse =>
    obtain ⟨decoded, hdecoded, hend⟩ := bind_eq_ok_iff.mp h
    split at hend
    · rw [← Except.ok.inj hend]
      exact forall₂_declaredBy_of_decode hdecoded
    · cases hend

end ServiceDocument

/-- A type is made exactly of properties with different names, and it holds these; otherwise the error names
the first property that is called like an earlier one. So in a document that is read from a text, the
properties of each type have different names, as they are declared at one place of the text. -/
theorem properties_distinct :
    (∀ ns name properties xsdType,
      ((∃ schema, SchemaType.ofProperties ns name properties xsdType = .ok schema) ↔
        (properties.map SchemaProperty.name).Nodup) ∧
      (∀ schema, SchemaType.ofProperties ns name properties xsdType = .ok schema →
        schema.properties = properties) ∧
      ∀ duplicate, SchemaType.ofProperties ns name properties xsdType = .error duplicate ↔
        duplicate.typeName = name ∧ ∃ earlier property later,
          properties = earlier ++ property :: later ∧ property.name = duplicate.property ∧
          (earlier.map SchemaProperty.name).Nodup ∧
          property.name ∈ earlier.map SchemaProperty.name) ∧
    ∀ bytes document, ServiceDocument.parse bytes = .ok document →
      (∀ schema ∈ document.types, (schema.properties.map SchemaProperty.name).Nodup) ∧
      List.Forall₂ (fun tree schema => schema.DeclaredBy tree)
        (ServiceDocument.typeTrees (JsonText.read bytes).value) document.types := by
  constructor
  · intro ns name properties xsdType
    exact ⟨SchemaType.exists_ofProperties_iff,
      fun schema hschema => (SchemaType.ofProperties_eq_ok_iff.mp hschema).2.2.1,
      fun duplicate => SchemaType.ofProperties_eq_error_iff⟩
  · intro bytes document hparse
    have hdeclared := ServiceDocument.forall₂_declaredBy_of_parse hparse
    exact ⟨ServiceDocument.nodup_of_forall₂_declaredBy hdeclared, hdeclared⟩

def orderProperties : List SchemaProperty :=
  [⟨"id", "int", "", {}⟩, ⟨"note", "string", "", {}⟩]

/-- A document with one type of these properties, each record written as an array of its fields. -/
def orderText : JsonText.Bytes :=
  "[[[\"App\", \"Order\", [[\"id\", \"int\", \"\"], [\"note\", \"string\", \"\"]]]]]".toUTF8.toList

/-- Two properties are made into a type, and a text that declares them is read as a document that has it. -/
theorem properties_distinct_order :
    ∃ schema document, SchemaType.ofProperties "App" "Order" orderProperties "Order" = .ok schema ∧
      schema.properties = orderProperties ∧ ServiceDocument.parse orderText = .ok document ∧
      document.types.length = 1 ∧
      (∀ schema ∈ document.types, (schema.properties.map SchemaProperty.name).Nodup) ∧
      List.Forall₂ (fun tree schema => schema.DeclaredBy tree)
        (ServiceDocument.typeTrees (JsonText.read orderText).value) document.types := by
  obtain ⟨hmade, hread⟩ := properties_distinct
  obtain ⟨hmakes, hholds, -⟩ := hmade "App" "Order" orderProperties "Order"
  obtain ⟨schema, hschema⟩ := hmakes.mpr (by decide)
  have hone : (ServiceDocument.parse orderText).toOption.map (·.types.length) = some 1 := by
    decide +kernel
  cases hparse : ServiceDocument.parse orderText with
  | error error =>
    rw [hparse] at hone
    cases hone
  | ok document =>
    rw [hparse] at hone
    exact ⟨schema, document, hschema, hholds schema hschema, rfl, Option.some.inj hone,
      hread orderText document hparse⟩

end SoapClasses
