import Mathlib.Data.List.Nodup
import SoapClasses.Proofs.CapabilityDrafts
import SoapClasses.Proofs.DisplayedNames
import SoapClasses.Proofs.FieldReads
import SoapClasses.Proofs.PipelineRuns
import SoapClasses.Proofs.TextMarks

/-!
# References to a wrapper

A provider of results returns an object of its wrapper. It names a wrapper that has a namespace by the last
segment, whatever the imports of the class are, and only makes sure that the class imports the wrapper or
has it in its own namespace. So the name leads to the wrapper unless something else is known by it, or the
wrapper comes from elsewhere and earlier steps have imported it under an alias.
-/

namespace SoapClasses

namespace PhpClass

/-- The class takes the last segment of a name for the name: it knows nothing else by the segment, and it
knows the name itself by no other one, unless the name lies in its own namespace. -/
structure FindsByShortName (key : String → String) (php : PhpClass) (name : String) : Prop where
  unshadowed : ∀ entry ∈ php.imports.toList,
    key entry.localName = key (shortName name) → entry.name = name
  unrenamed : ∀ entry ∈ php.imports.toList, entry.name = name →
    key entry.localName = key (shortName name) ∨ namespaceOf name = php.ns

variable {key : String → String} {php : PhpClass} {name : String}

instance : Decidable (php.FindsByShortName key name) :=
  decidable_of_iff _ ⟨fun h => ⟨h.1, h.2⟩, fun h => And.intro h.unshadowed h.unrenamed⟩

theorem eq_of_name_eq {entry other : Import} (hentry : entry ∈ php.imports.toList)
    (hother : other ∈ php.imports.toList) (h : entry.name = other.name) : entry = other := by
  have hfound := (php.imports.find?_eq_some_iff other.name entry).mpr ⟨hentry, h⟩
  rw [(php.imports.find?_eq_some_iff other.name other).mpr ⟨hother, rfl⟩] at hfound
  exact (Option.some.inj hfound).symm

/-- What the last segment of a name means in a class that imports the name or is its neighbour. -/
theorem resolveBy_shortName_iff
    (hnodup : (php.imports.toList.map (fun entry => key entry.localName)).Nodup)
    (hclass : IsClassName name) (hbare : dropLeadingSeparators name = name)
    (hknown : name ∈ php.imports.names ∨ namespaceOf name = php.ns) :
    php.resolveBy key (shortName name) = name ↔ php.FindsByShortName key name := by
  obtain ⟨parents, short, hparents, hshort, hcut, hjoin, hns⟩ := hclass.exists_segments
  rw [hbare] at hcut hjoin
  have hlast : shortName name = short := by
    rw [shortName, hcut, List.getLastD_concat]
  have hwhole : qualify (namespaceOf name) short = name := by
    rw [hns, qualify_joinText hparents, ← hjoin]
  rw [hlast, resolveBy_identifier hshort]
  cases hfound : php.imports.toList.find? (fun entry => key entry.localName == key short) with
  | some entry =>
    obtain ⟨hentry, hlocal⟩ := (find?_key_eq_some_iff hnodup (key short) entry).mp hfound
    refine ⟨fun heq => ⟨?_, ?_⟩, fun hfinds => hfinds.unshadowed entry hentry (hlast ▸ hlocal)⟩
    · intro other hother hsame
      rw [hlast, ← hlocal] at hsame
      rw [List.inj_on_of_nodup_map hnodup hother hentry hsame]
      exact heq
    · intro other hother hname
      rw [eq_of_name_eq hother hentry (hname.trans heq.symm), hlast]
      exact .inl hlocal
  | none =>
    have hfree : ∀ entry ∈ php.imports.toList, key entry.localName ≠ key short := by
      simpa using List.find?_eq_none.mp hfound
    have hinside : qualify php.ns short = name ↔ namespaceOf name = php.ns := by
      rw [← hwhole, qualify_left_inj, hwhole]
      exact eq_comm
    rw [hinside]
    refine ⟨fun hsame => ⟨?_, fun _ _ _ => .inr hsame⟩, fun hfinds => ?_⟩
    · intro entry hentry hlocal
      exact absurd (hlast ▸ hlocal) (hfree entry hentry)
    · refine hknown.elim (fun himported => ?_) id
      obtain ⟨entry, hentry, hname⟩ := List.mem_map.mp himported
      refine (hfinds.unrenamed entry hentry hname).resolve_left fun hlocal => ?_
      exact hfree entry hentry (hlast ▸ hlocal)

end PhpClass

theorem belongsToName_wrapperReference {wrapper : String}
    (h : ∀ segment ∈ nameSegments wrapper, isIdentifier segment = true) :
    ∀ c ∈ (wrapperReference wrapper).toList, belongsToName c = true := by
  intro c hmem
  rw [belongsToName, Bool.or_eq_true, or_comm]
  exact (mem_wrapperReference h hmem).imp_left fun hseparator => beq_iff_eq.mpr hseparator

theorem nameBehind_resultMethod (property : SchemaProperty) {wrapper : String}
    (h : ∀ segment ∈ nameSegments wrapper, isIdentifier segment = true) :
    nameBehind returnMark (property.resultMethod (some wrapper)).body =
      some (wrapperReference wrapper) := by
  have hbody : (property.resultMethod (some wrapper)).body = "" ++ returnMark ++
      wrapperReference wrapper ++ ("($this->" ++ property.name ++ ");") := by
    simp only [SchemaProperty.resultMethod, returnMark, String.empty_append, String.append_assoc]
  have hbehind : ("($this->" ++ property.name ++ ");").toList =
      '(' :: ("$this->".toList ++ (property.name.toList ++ ");".toList)) := by
    simp only [String.toList_append, List.append_assoc]
    rfl
  rw [hbody]
  exact nameBehind_eq (clearOf_nil _) (by decide) (belongsToName_wrapperReference h) hbehind (by decide)

theorem tag?_resultMethod (property : SchemaProperty) (wrapper : String) :
    (property.resultMethod (some wrapper)).doc.bind (fun doc => doc.tag? "return") =
      some (wrapperReference wrapper) := by
  have hdoc : (property.resultMethod (some wrapper)).doc =
      some (DocBlock.empty.withTag "return" (wrapperReference wrapper)) := rfl
  rw [hdoc]
  simp [DocBlock.tag?, DocBlock.withTag, DocBlock.empty]

namespace PhpClass

variable {key : String → String} {php after : PhpClass} {schema : SchemaType} {wrapper : Option String}

theorem extended_of_resultProvider
    (h : (Assembler.resultProvider wrapper).assemble (.schemaType schema) php = (.ok (), after)) :
    schema.wrapperFault wrapper = none ∧
      after = php.extended (schema.providerEdits php.toClassIdentity wrapper) := by
  have hleads := (leads_singleton _ _ _ _).mpr h
  have hsucceeds : (draftResultProvider php.toClassIdentity wrapper schema).outcome = .ok () :=
    hleads.1 _ List.mem_cons_self
  have hfault := wrapperFault_of_succeeds php.toClassIdentity hsucceeds
  refine ⟨hfault, ?_⟩
  have hedits : GenerationStep.draft php.toClassIdentity
      ⟨.resultProvider wrapper, .schemaType schema⟩ = _ :=
    draftResultProvider_eq php.toClassIdentity hfault
  rw [(leads_iff_extended.mp hleads).2, editLog, List.flatMap_singleton, hedits]

variable (php wrapper) in
theorem find?_of_resultProvider {first : SchemaProperty} {rest : List SchemaProperty}
    (hproperties : schema.properties = first :: rest) :
    (php.extended (schema.providerEdits php.toClassIdentity wrapper)).methods.find? "getResult" =
      some (first.resultMethod (bareWrapper wrapper)) := by
  rw [methods_extended, schema.filterMap_providerEdits _ wrapper ClassEdit.method? (fun _ => rfl),
    hproperties, MemberTable.find?_putAll]
  have hfound : ([first.resultMethod (bareWrapper wrapper)] : List Method).find?
      (fun method => Named.nameOf method == "getResult") = _ :=
    List.find?_cons_of_pos (beq_iff_eq.mpr (first.name_resultMethod _))
  exact congrArg (Option.or · _) hfound

variable (php) in
/-- A wrapper with a namespace is imported then, or it is a neighbour of the class. -/
theorem known_of_resultProvider {name : String} (hname : bareWrapper wrapper = some name)
    (hproperties : schema.properties ≠ []) (hqualified : isQualified name = true) :
    name ∈ (php.extended (schema.providerEdits php.toClassIdentity wrapper)).imports.names ∨
      namespaceOf name = php.ns := by
  rw [Classical.or_iff_not_imp_right]
  intro houtside
  have hneeded : php.toClassIdentity.liesOutside name = true :=
    (ClassIdentity.liesOutside_iff _ name).mpr ⟨(isQualified_iff name).mp hqualified, houtside⟩
  have hnamed : name ∈ schema.providerNames wrapper := by
    simp [SchemaType.providerNames, hproperties, hname]
  have hmem : (⟨name, none⟩ : Import) ∈
      ((schema.providerNames wrapper).filter php.toClassIdentity.liesOutside).map
        (fun name => ⟨name, none⟩) :=
    List.mem_map_of_mem (List.mem_filter.mpr ⟨hnamed, hneeded⟩)
  have himported := php.imports.name_mem_insertAll hmem
  rw [dropLeadingSeparators_of_bareWrapper hname] at himported
  rw [imports_extended, schema.filterMap_import_providerEdits]
  exact himported

/-- A type that has a property provides it as a result, if it does so at all, by a method whose text and
doc block name the wrapper in the same way. Whatever steps were successful before, if the names by which
the class knows its imports can be told apart by a key, then this name means the wrapper if and only if the
wrapper lives in the global namespace or the class takes its last segment for it. -/
theorem resultProvider_references {steps : List GenerationStep} {wrapper : String}
    (hrun : Leads (steps ++ [⟨.resultProvider (some wrapper), .schemaType schema⟩]) php after)
    (hproperties : schema.properties ≠ []) (hwrapper : dropLeadingSeparators wrapper ≠ "")
    (hapart : after.LocalNamesApartBy key) :
    ∃ method shown, after.methods.find? "getResult" = some method ∧
      nameBehind returnMark method.body = some shown ∧
      method.doc.bind (fun doc => doc.tag? "return") = some shown ∧
      (after.resolveBy key shown = dropLeadingSeparators wrapper ↔
        (isQualified (dropLeadingSeparators wrapper) = true →
          after.FindsByShortName key (dropLeadingSeparators wrapper))) := by
  obtain ⟨before, -, hlast⟩ := (leads_append _ _ _ _).mp hrun
  rw [leads_singleton] at hlast
  obtain ⟨hfault, rfl⟩ := extended_of_resultProvider hlast
  obtain ⟨first, rest, hfirst⟩ := List.exists_cons_of_ne_nil hproperties
  have hbare := bareWrapper_some hwrapper
  have hidem := dropLeadingSeparators_idem wrapper
  have hsegments : ∀ segment ∈ nameSegments (dropLeadingSeparators wrapper),
      isIdentifier segment = true := by
    simpa [SchemaType.wrapperFault, hfirst, hbare, classNameFault_of_bareWrapper hbare] using hfault
  obtain ⟨-, hclass⟩ := isClassName_of_nameSegments (List.all_eq_true.mpr hsegments)
  have hmethod := find?_of_resultProvider before (some wrapper) hfirst
  rw [hbare] at hmethod
  refine ⟨_, _, hmethod, nameBehind_resultMethod first hsegments, tag?_resultMethod first _, ?_⟩
  cases hqualified : isQualified (dropLeadingSeparators wrapper) with
  | false =>
    rw [wrapperReference, hqualified, if_neg Bool.false_ne_true, resolveBy_separator, hidem]
    exact iff_of_true rfl (fun h => absurd h Bool.false_ne_true)
  | true =>
    have hknown := known_of_resultProvider before hbare hproperties hqualified
    rw [wrapperReference, hqualified, if_pos rfl,
      resolveBy_shortName_iff hapart.nodup hclass hidem hknown]
    exact ⟨fun hfinds _ => hfinds, fun himplies => himplies rfl⟩

/-- A type with a property that can be provided. -/
def ofOneProperty : SchemaType :=
  ⟨"App\\Type", "Order", [⟨"id", "int", "", {}⟩], "Order", List.pairwise_singleton _ _⟩

/-- An import, and then the step that provides results. -/
def importThenProvide (imported : String) (aliasName : Option String) (wrapper : String) :
    List GenerationStep :=
  [⟨.use imported aliasName, .schemaType ofOneProperty⟩] ++
    [⟨.resultProvider (some wrapper), .schemaType ofOneProperty⟩]

/-- The class for the type after these steps. -/
def providing (imported : String) (aliasName : Option String) (wrapper : String) : PhpClass :=
  (runSteps (importThenProvide imported aliasName wrapper) (fresh "Order" "App\\Type")).2

/-- All steps are successful, and the imports that they leave can be told apart. -/
structure ProvidesApart (imported : String) (aliasName : Option String) (wrapper : String) : Prop where
  leads : Leads (importThenProvide imported aliasName wrapper) (fresh "Order" "App\\Type")
    (providing imported aliasName wrapper)
  apart : (providing imported aliasName wrapper).LocalNamesApartBy asciiLowercase

instance (imported : String) (aliasName : Option String) (wrapper : String) :
    Decidable (ProvidesApart imported aliasName wrapper) :=
  decidable_of_iff _ ⟨fun h => ⟨leads_iff_runSteps.mpr ⟨h.1, rfl⟩, h.2⟩,
    fun h => And.intro (leads_iff_runSteps.mp h.leads).1 h.apart⟩

/-- A wrapper from elsewhere, behind an import of its short name under an alias. -/
theorem resultProvider_references_box :
    ∃ method shown,
      (providing "Vendor\\Wrapper" (some "Box") "\\App\\Result\\Wrapper").methods.find? "getResult" =
        some method ∧
      nameBehind returnMark method.body = some shown ∧
      method.doc.bind (fun doc => doc.tag? "return") = some shown ∧
      (providing "Vendor\\Wrapper" (some "Box") "\\App\\Result\\Wrapper").resolveBy asciiLowercase shown =
        "App\\Result\\Wrapper" := by
  have hbare : dropLeadingSeparators "\\App\\Result\\Wrapper" = "App\\Result\\Wrapper" := by
    decide +kernel
  have hruns : ProvidesApart "Vendor\\Wrapper" (some "Box") "\\App\\Result\\Wrapper" ∧
      (providing "Vendor\\Wrapper" (some "Box") "\\App\\Result\\Wrapper").FindsByShortName
        asciiLowercase "App\\Result\\Wrapper" := by
    decide +kernel
  obtain ⟨method, shown, hmethod, hbody, hdoc, hmeant⟩ :=
    resultProvider_references hruns.1.leads (by decide) (by decide +kernel) hruns.1.apart
  rw [hbare] at hmeant
  exact ⟨method, shown, hmethod, hbody, hdoc, hmeant.mpr (fun _ => hruns.2)⟩

/-- The class whose objects the results are in the text of the class. -/
def providedClass (php : PhpClass) : Option String :=
  (php.methods.find? "getResult").bind (fun method =>
    (nameBehind returnMark method.body).map (php.resolveBy asciiLowercase))

/-- If the wrapper has an alias, then a neighbour of the class takes its place, and if it is a neighbour
itself, then an import of the same last segment does. -/
theorem not_references_wrapper :
    (ProvidesApart "App\\Result\\Wrapper" (some "Box") "App\\Result\\Wrapper" ∧
      (providing "App\\Result\\Wrapper" (some "Box") "App\\Result\\Wrapper").providedClass =
        some "App\\Type\\Wrapper") ∧
    (ProvidesApart "Vendor\\Wrapper" none "App\\Type\\Wrapper" ∧
      (providing "Vendor\\Wrapper" none "App\\Type\\Wrapper").providedClass = some "Vendor\\Wrapper") := by
  constructor
  · decide +kernel
  · decide +kernel

end PhpClass

end SoapClasses
