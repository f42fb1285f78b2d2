import SoapClasses.ServiceMetadata

/-!
# Repeated names

No name is found to be repeated exactly when the names are different from each other and from those seen
before; otherwise the one that is found is the first that repeats a name before it. So a type is made of
properties exactly when their names are different, and it has these properties then; the properties of a
type make the type again.
-/

namespace SoapClasses

theorem firstRepeated_eq_none_iff {seen names : List String} :
    firstRepeated seen names = none ↔ names.Nodup ∧ ∀ name ∈ names, name ∉ seen := by
  refine ⟨nodup_of_firstRepeated, ?_⟩
  rintro ⟨hnodup, hnew⟩
  induction names generalizing seen with
  | nil => rfl
  | cons name rest ih =>
    obtain ⟨hname, hrest⟩ := List.nodup_cons.mp hnodup
    have hunseen : seen.contains name = false := by simpa using hnew name List.mem_cons_self
    rw [firstRepeated, hunseen, if_neg Bool.false_ne_true]
    apply ih hrest
    intro other hother hmem
    rcases List.mem_cons.mp hmem with rfl | hmem
    · exact hname hother
    · exact hnew other (List.mem_cons_of_mem _ hother) hmem

theorem firstRepeated_append (seen front rest : List String) :
    firstRepeated seen (front ++ rest) =
      (firstRepeated seen front).or (firstRepeated (front.reverse ++ seen) rest) := by
  induction front generalizing seen with
  | nil => rfl
  | cons name front ih =>
    rw [List.cons_append, firstRepeated, firstRepeated]
    cases seen.contains name with
    | true => rfl
    | false =>
      rw [if_neg Bool.false_ne_true, if_neg Bool.false_ne_true, ih, List.reverse_cons, List.append_assoc]
      rfl

/-- The name that is found stands behind names without a repetition, and it has been seen or is one of
them. -/
theorem firstRepeated_eq_some_iff {seen names : List String} {name : String} :
    firstRepeated seen names = some name ↔ ∃ earlier later, names = earlier ++ name :: later ∧
      firstRepeated seen earlier = none ∧ (name ∈ earlier ∨ name ∈ seen) := by
  constructor
  · intro h
    induction names generalizing seen with
    | nil => cases h
    | cons first rest ih =>
      rw [firstRepeated] at h
      split at h
      case isTrue hseen =>
        rw [Option.some.inj h] at hseen ⊢
        exact ⟨[], rest, rfl, rfl, .inr (List.contains_iff_mem.mp hseen)⟩
      case isFalse hnew =>
        obtain ⟨earlier, later, rfl, hnone, hrepeated⟩ := ih h
        refine ⟨first :: earlier, later, rfl, ?_, ?_⟩
        · rw [firstRepeated, if_neg hnew, hnone]
        · rw [List.mem_cons, or_left_comm, ← or_assoc] at hrepeated
          exact hrepeated.imp_left List.mem_cons.mpr
  · rintro ⟨earlier, later, rfl, hnone, hrepeated⟩
    have hseen : (earlier.reverse ++ seen).contains name = true := by simpa using hrepeated
    rw [firstRepeated_append, hnone, Option.none_or, firstRepeated, if_pos hseen]

namespace SchemaType

variable {ns name xsdType : String} {properties : List SchemaProperty}

theorem ofProperties_eq_ok_iff {schema : SchemaType} : ofProperties ns name properties xsdType = .ok schema ↔
    schema.ns = ns ∧ schema.name = name ∧ schema.properties = properties ∧ schema.xsdType = xsdType := by
  constructor
  · intro h
    unfold ofProperties at h
    split at h
    · rw [← Except.ok.inj h]
      exact ⟨rfl, rfl, rfl, rfl⟩
    · cases h
  · rintro ⟨rfl, rfl, rfl, rfl⟩
    have hnone : firstRepeated [] (schema.properties.map SchemaProperty.name) = none :=
      firstRepeated_eq_none_iff.mpr ⟨schema.distinct, fun _ _ => List.not_mem_nil⟩
    unfold ofProperties
    split
    · rfl
    · rename_i hrepeated
      rw [hnone] at hrepeated
      cases hrepeated

theorem exists_ofProperties_iff : (∃ schema, ofProperties ns name properties xsdType = .ok schema) ↔
    (properties.map SchemaProperty.name).Nodup := by
  simp only [ofProperties_eq_ok_iff]
  constructor
  · rintro ⟨schema, -, -, rfl, -⟩
    exact schema.distinct
  · exact fun hdistinct => ⟨⟨ns, name, properties, xsdType, hdistinct⟩, rfl, rfl, rfl, rfl⟩

theorem ofProperties_properties (schema : SchemaType) :
    ofProperties schema.ns schema.name schema.properties schema.xsdType = .ok schema :=
  ofProperties_eq_ok_iff.mpr ⟨rfl, rfl, rfl, rfl⟩

/-- The error names the first property that has the name of an earlier one. -/
theorem ofProperties_eq_error_iff {duplicate : DuplicateProperty} :
    ofProperties ns name properties xsdType = .error duplicate ↔ duplicate.typeName = name ∧
      ∃ earlier property later, properties = earlier ++ property :: later ∧
        property.name = duplicate.property ∧ (earlier.map SchemaProperty.name).Nodup ∧
        property.name ∈ earlier.map SchemaProperty.name := by
  have hfound : ofProperties ns name properties xsdType = .error duplicate ↔
      firstRepeated [] (properties.map SchemaProperty.name) = some duplicate.property ∧
        duplicate.typeName = name := by
    unfold ofProperties
    split
    · rename_i hnone
      simp [hnone]
    · rename_i repeated hrepeated
      rw [hrepeated]
      cases duplicate
      simp [eq_comm]
  rw [hfound, and_comm, firstRepeated_eq_some_iff]
  simp only [firstRepeated_eq_none_iff, List.not_mem_nil, or_false, not_false_eq_true, implies_true,
    and_true]
  apply and_congr_right
  intro _
  constructor
  · rintro ⟨earlier, later, hnames, hnodup, hrepeated⟩
    obtain ⟨front, rest, rfl, rfl, hrest⟩ := List.map_eq_append_iff.mp hnames
    obtain ⟨property, behind, rfl, hproperty, -⟩ := List.map_eq_cons_iff.mp hrest
    exact ⟨front, property, behind, rfl, hproperty, hnodup, hproperty ▸ hrepeated⟩
  · rintro ⟨earlier, property, later, rfl, hproperty, hnodup, hrepeated⟩
    exact ⟨earlier.map SchemaProperty.name, later.map SchemaProperty.name,
      by rw [List.map_append, List.map_cons, hproperty], hnodup, hproperty ▸ hrepeated⟩

end SchemaType

end SoapClasses
