import SoapClasses.MetadataRecords
import SoapClasses.ProjectRecords
import SoapClasses.Proofs.Outcomes
import SoapClasses.Proofs.RepeatedNames

/-!
# Round trips of records

A record is written with all its fields, each once and under its own name, so reading it collects every
field and finds none missing or repeated. From the leaves upwards, whatever has been written is read back
as it was: service descriptions, settings and projects.
-/

namespace SoapClasses

open JsonTree RecordForm

theorem ok_bind {ε α β : Type} (value : α) (next : α → Except ε β) :
    (Except.ok value >>= next) = next value := rfl

namespace RecordForm

variable {π α : Type} {form : RecordForm π α}

theorem foldlM_takeMember {members : List (String × JsonTree)}
    (h : ∀ member ∈ members, member.1 ∈ form.keys) (parts : π) :
    (members.map (fun member => (JsonTree.text member.1, member.2))).foldlM form.takeMember parts =
      members.foldlM (fun parts member => form.put parts member.1 member.2) parts := by
  induction members generalizing parts with
  | nil => rfl
  | cons member rest ih =>
    obtain ⟨hmember, hrest⟩ := List.forall_mem_cons.mp h
    have htake : form.takeMember parts (.text member.1, member.2) =
        form.put parts member.1 member.2 := by
      simp [takeMember, hmember]
    rw [List.map_cons, List.foldlM_cons, List.foldlM_cons, htake]
    exact bind_congr (ih hrest)

theorem decode_record {members : List (String × JsonTree)}
    (h : ∀ member ∈ members, member.1 ∈ form.keys) :
    form.decode (.record members) =
      (members.foldlM (fun parts member => form.put parts member.1 member.2) form.start >>=
        fun parts => form.finish parts (fun _ key => .missingField key)) := by
  rw [JsonTree.record, decode, foldlM_takeMember h]

end RecordForm

/-! ## Values of fields -/

section

variable {α : Type} {encode : α → JsonTree} {decode : JsonTree → Decoded α}

/-- What may be absent is read back if nothing that is there is written as null. -/
theorem decodeOptional_optional (h : ∀ value, decode (encode value) = .ok value)
    (hnull : ∀ value, encode value ≠ .null) (value : Option α) :
    decodeOptional decode (JsonTree.optional encode value) = .ok value := by
  cases value with
  | none => rfl
  | some value =>
    have hpresent : decodeOptional decode (encode value) = (decode (encode value)).map some := by
      unfold decodeOptional
      split
      · rename_i heq
        exact absurd heq (hnull value)
      · rfl
    rw [JsonTree.optional, hpresent, h]
    rfl

theorem decodeList_map (h : ∀ value, decode (encode value) = .ok value) (values : List α) :
    decodeList decode (.array (values.map encode)) = .ok values := by
  show (values.map encode).mapM decode = .ok values
  rw [mapM_eq_ok_iff, List.forall₂_map_left_iff, List.forall₂_same]
  exact fun value _ => h value

end

theorem decodeOptional_text (text : Option String) :
    decodeOptional decodeText (JsonTree.optional .text text) = .ok text :=
  @decodeOptional_optional String .text decodeText (fun _ => rfl) (fun _ => nofun) text

theorem encodeCount_inRange (count : UInt32) :
    (0 ≤ (count.toNat : Int) && (count.toNat : Int) < 0x100000000) = true := by
  have hlimit := count.toNat_lt
  simp only [Bool.and_eq_true, decide_eq_true_eq]
  omega

theorem decodeCount_encodeCount (count : UInt32) : decodeCount (encodeCount count) = .ok count := by
  rw [encodeCount, decodeCount, if_pos (encodeCount_inRange count), Int.toNat_natCast,
    UInt32.ofNat_toNat]

/-- A bound is written as a number or as a word, so neither is taken for the other or for none. -/
theorem UpperBound.decode_encode (bound : UpperBound) : decode bound.encode = .ok bound := by
  cases bound with
  | unbounded => rfl
  | atMost count =>
    simp only [encode, encodeCount, decode, encodeCount_inRange count, if_true, Int.toNat_natCast,
      UInt32.ofNat_toNat]
    exact if_pos rfl

theorem Visibility.decode_encode (visibility : Visibility) :
    decode visibility.encode = .ok visibility := by
  cases visibility <;> rfl

/-! ## Service descriptions -/

theorem SchemaFacts.decode_encode (facts : SchemaFacts) : decode facts.encode = .ok facts := by
  have hleast := decodeOptional_optional decodeCount_encodeCount (fun _ => nofun) facts.minOccurs
  have hgreatest := decodeOptional_optional UpperBound.decode_encode
    (fun bound => by cases bound <;> nofun) facts.maxOccurs
  rw [decode, encode, decode_record (by simp [form])]
  simp [form, fill, decodeFlag, decodeOptional_text, hleast, hgreatest, ok_bind]

theorem SchemaProperty.decode_encode (property : SchemaProperty) :
    decode property.encode = .ok property := by
  rw [decode, encode, decode_record (by simp [form])]
  simp [form, fill, required, decodeText, SchemaFacts.decode_encode, ok_bind]

/-- A type is read as a declaration, which has its schema type; its properties are told apart again. -/
theorem SchemaType.decode_encode (schema : SchemaType) : decode schema.encode = .ok schema := by
  have hproperties := decodeList_map SchemaProperty.decode_encode schema.properties
  have hdeclared : form.decode schema.encode =
      .ok ⟨schema.ns, schema.name, schema.properties, some schema.xsdType⟩ := by
    rw [encode, decode_record (by simp [form])]
    simp [form, fill, required, decodeText, decodeOptional, hproperties, ok_bind, Except.map]
  rw [decode, hdeclared]
  show ofDeclared _ = _
  rw [ofDeclared, Option.getD_some, ofProperties_properties]
  rfl

theorem Argument.decode_encode (argument : Argument) : decode argument.encode = .ok argument := by
  rw [decode, encode, decode_record (by simp [form])]
  rfl

theorem ResultType.decode_encode (result : ResultType) : decode result.encode = .ok result := by
  rw [decode, encode, decode_record (by simp [form])]
  rfl

theorem Operation.decode_encode (operation : Operation) :
    decode operation.encode = .ok operation := by
  have harguments := decodeList_map Argument.decode_encode operation.arguments
  rw [decode, encode, decode_record (by simp [form])]
  simp [form, fill, required, decodeText, decodeOptional_text, ResultType.decode_encode, harguments, ok_bind]

theorem ClientDescription.decode_encode (client : ClientDescription) :
    decode client.encode = .ok client := by
  have hoperations := decodeList_map Operation.decode_encode client.operations
  rw [decode, encode, decode_record (by simp [form])]
  simp [form, fill, required, decodeText, hoperations, ok_bind]

theorem ServiceDocument.decode_encode (document : ServiceDocument) :
    decode document.encode = .ok document := by
  have htypes := decodeList_map SchemaType.decode_encode document.types
  have hclient := decodeOptional_optional ClientDescription.decode_encode (fun _ => nofun)
    document.client
  rw [decode, encode, decode_record (by simp [form])]
  simp [form, fill, htypes, hclient, ok_bind]

/-! ## Settings and projects -/

theorem FieldSettings.decode_encode (settings : FieldSettings) :
    decode settings.encode = .ok settings := by
  rw [decode, encode, decode_record (by simp [form])]
  simp [form, fill, decodeFlag, Visibility.decode_encode, ok_bind]

theorem TypeSettings.decode_encode (settings : TypeSettings) :
    decode settings.encode = .ok settings := by
  rw [decode, encode, decode_record (by simp [form])]
  simp [form, fill, decodeFlag, decodeOptional_text, ok_bind]

theorem GeneratorSettings.decode_encode (settings : GeneratorSettings) :
    decode settings.encode = .ok settings := by
  rw [decode, encode, decode_record (by simp [form])]
  simp [form, fill, FieldSettings.decode_encode, TypeSettings.decode_encode, ok_bind]

theorem ClientSection.decode_encode (client : ClientSection) : decode client.encode = .ok client := by
  rw [decode, encode, decode_record (by simp [form])]
  rfl

theorem FactorySection.decode_encode (factory : FactorySection) :
    decode factory.encode = .ok factory := by
  rw [decode, encode, decode_record (by simp [form])]
  rfl

theorem Project.decode_encode (project : Project) : decode project.encode = .ok project := by
  have hclient := decodeOptional_optional ClientSection.decode_encode (fun _ => nofun)
    project.client
  have hfactory := decodeOptional_optional FactorySection.decode_encode (fun _ => nofun)
    project.factory
  rw [decode, encode, decode_record (by simp [form])]
  simp [form, fill, GeneratorSettings.decode_encode, hclient, hfactory, ok_bind]

/-- Service descriptions, settings and projects are read back as they were written. So to write what has
been read from any tree, and to read it again, changes nothing. -/
theorem records_read_back :
    (∀ document : ServiceDocument, ServiceDocument.decode document.encode = .ok document) ∧
      (∀ settings : GeneratorSettings, GeneratorSettings.decode settings.encode = .ok settings) ∧
      (∀ project : Project, Project.decode project.encode = .ok project) ∧
      ∀ tree : JsonTree, (do
          let document ← ServiceDocument.decode tree
          ServiceDocument.decode document.encode) = ServiceDocument.decode tree := by
  refine ⟨ServiceDocument.decode_encode, GeneratorSettings.decode_encode, Project.decode_encode, ?_⟩
  intro tree
  cases hdecoded : ServiceDocument.decode tree with
  | error error => rfl
  | ok document => exact document.decode_encode

end SoapClasses
