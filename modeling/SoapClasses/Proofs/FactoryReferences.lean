import Mathlib.Data.List.Nodup
import SoapClasses.Proofs.DisplayedNames
import SoapClasses.Proofs.FactoryBodies

/-!
# References of a factory

The body of a factory names the class map and the client by their short names, whatever namespaces they
live in. A name that is imported is found, and so is a client of the global namespace, as the factory lives
beside it. A class map of the global namespace is not imported and not marked as global, so a factory that
has a namespace looks for it there.
-/

namespace SoapClasses

namespace FactoryNames

/-- The names that a factory refers to, with a namespace or without. -/
def referencedNames (names : FactoryNames) : List String :=
  [names.client, names.classmap, RuntimeNames.eventDispatcher,
    RuntimeNames.defaultEngineFactory, RuntimeNames.engineOptions,
    RuntimeNames.eventDispatchingCaller, RuntimeNames.engineCaller,
    RuntimeNames.encoderRegistry]

/-- The client and the class map have identifiers as names, and they live in the global namespace or in
one that is made of identifiers. -/
structure WellNamed (names : FactoryNames) : Prop where
  clientName : isIdentifier names.clientName = true
  clientNs : names.clientNs = "" ∨ (nameSegments names.clientNs).all isIdentifier = true
  classmapName : isIdentifier names.classmapName = true
  classmapNs : names.classmapNs = "" ∨ (nameSegments names.classmapNs).all isIdentifier = true

/-- The last segments of the names have different keys, and others than the name of the factory. -/
structure ShortNamesApartBy (key : String → String) (names : FactoryNames) : Prop where
  nodup : (names.referencedNames.map (fun name => key (shortName name))).Nodup
  own : key names.factoryName ∉ names.referencedNames.map (fun name => key (shortName name))

instance (key : String → String) (names : FactoryNames) : Decidable (names.ShortNamesApartBy key) :=
  decidable_of_iff _ ⟨fun h => ⟨h.1, h.2⟩, fun h => And.intro h.nodup h.own⟩

theorem wellNamed_ofParts {clientName clientNs classmapName classmapNs : String}
    (hclient : isIdentifier clientName = true) (hclientNs : isNamespace clientNs = true)
    (hclassmap : isIdentifier classmapName = true) (hclassmapNs : isNamespace classmapNs = true) :
    (ofParts clientName clientNs classmapName classmapNs).WellNamed := by
  unfold isNamespace at hclientNs hclassmapNs
  simp only [Bool.or_eq_true, beq_iff_eq] at hclientNs hclassmapNs
  exact ⟨hclient, hclientNs, hclassmap, hclassmapNs⟩

end FactoryNames

namespace PhpClass

variable {key : String → String} {php : PhpClass} {names : List String}

/-- Imports without aliases are told apart if the last segments of all names that may be imported are. -/
theorem localNamesApartBy_of_shortNames (hplain : ∀ entry ∈ php.imports.toList, entry.aliasName = none)
    (himports : ∀ name ∈ php.imports.names, name ∈ names)
    (hnodup : (names.map (fun name => key (shortName name))).Nodup)
    (hown : key php.name ∉ names.map (fun name => key (shortName name))) :
    php.LocalNamesApartBy key := by
  have hlocal : ∀ entry ∈ php.imports.toList, entry.localName = shortName entry.name := by
    intro entry hmem
    rw [Import.localName, hplain entry hmem, Option.getD_none]
  have hname : ∀ entry ∈ php.imports.toList, entry.name ∈ names :=
    fun entry hmem => himports _ (List.mem_map_of_mem hmem)
  constructor
  · rw [List.Nodup, List.pairwise_map]
    apply php.imports.sorted.imp_of_mem
    intro entry other hentry hother hlt hsame
    rw [hlocal entry hentry, hlocal other hother] at hsame
    exact String.ne_of_lt hlt
      (List.inj_on_of_nodup_map hnodup (hname entry hentry) (hname other hother) hsame)
  · intro hmem
    obtain ⟨entry, hentry, hsame⟩ := List.mem_map.mp hmem
    rw [hlocal entry hentry] at hsame
    exact hown (List.mem_map.mpr ⟨entry.name, hname entry hentry, hsame⟩)

/-- The class that the body of a method registers the collection of. -/
def classmapIn (key : String → String) (php : PhpClass) (method : Method) : Option String :=
  (nameInFrontOf classmapMark method.body).map (php.resolveBy key)

/-- The class that the body of a method returns an object of. -/
def clientIn (key : String → String) (php : PhpClass) (method : Method) : Option String :=
  (nameBehind returnMark method.body).map (php.resolveBy key)

end PhpClass

namespace FactoryNames

variable {key : String → String} {names : FactoryNames}

theorem segments_referencedNames (h : names.WellNamed) :
    ∀ name ∈ names.referencedNames, (nameSegments name).all isIdentifier = true := by
  have hruntime : ∀ name ∈ [RuntimeNames.eventDispatcher, RuntimeNames.defaultEngineFactory,
      RuntimeNames.engineOptions, RuntimeNames.eventDispatchingCaller, RuntimeNames.engineCaller,
      RuntimeNames.encoderRegistry], (nameSegments name).all isIdentifier = true := by
    decide +kernel
  exact List.forall_mem_cons.mpr ⟨all_nameSegments_qualify h.clientNs h.clientName,
    List.forall_mem_cons.mpr ⟨all_nameSegments_qualify h.classmapNs h.classmapName, hruntime⟩⟩

theorem factoryClass_eq (names : FactoryNames) : names.factoryClass =
    (PhpClass.fresh names.factoryName names.clientNs).extended
      (importEdits isQualified names.referencedNames ++ [.putMethod names.method]) := by
  apply PhpClass.amendAll_eq_extended
  intro change hmem
  rcases List.mem_append.mp hmem with himport | hmethod
  · obtain ⟨name, _, rfl⟩ := List.mem_map.mp himport
    trivial
  · rw [List.mem_singleton.mp hmethod]
    trivial

theorem imports_factoryClass (h : names.WellNamed) : names.factoryClass.imports.ImportsExactly
    (fun name => name ∈ names.referencedNames ∧ isQualified name = true) := by
  have hbare : ∀ name ∈ names.referencedNames, dropLeadingSeparators name = name :=
    fun name hmem => (isClassName_of_nameSegments (segments_referencedNames h name hmem)).1
  have hmethod : [ClassEdit.putMethod names.method].filterMap ClassEdit.import? = [] := rfl
  rw [factoryClass_eq, PhpClass.imports_extended, List.filterMap_append,
    filterMap_import_importEdits, hmethod, List.append_nil, PhpClass.imports_fresh]
  exact ImportTable.importsExactly_filter hbare (fun name => Iff.rfl)

theorem find?_factoryClass (names : FactoryNames) :
    names.factoryClass.methods.find? "factory" = some names.method := by
  have hnone : (importEdits isQualified names.referencedNames).filterMap ClassEdit.method? = [] :=
    filterMap_importEdits (fun _ => rfl) _ _
  rw [factoryClass_eq, PhpClass.methods_extended, List.filterMap_append, hnone,
    MemberTable.find?_eq_some_iff]
  exact ⟨List.mem_cons_self, rfl⟩

theorem identity_factoryClass (h : names.WellNamed) :
    names.factoryClass.toClassIdentity = ⟨names.factoryName, names.clientNs⟩ := by
  have hns := trimSeparators_of_identifiers h.clientNs
  rw [factoryClass_eq, PhpClass.toClassIdentity_extended, PhpClass.fresh, hns]

theorem localNamesApartBy_factoryClass (h : names.WellNamed) (hapart : names.ShortNamesApartBy key) :
    names.factoryClass.LocalNamesApartBy key := by
  have himports := imports_factoryClass h
  apply PhpClass.localNamesApartBy_of_shortNames himports.noAlias
    (fun name hmem => ((himports.mem_names_iff name).mp hmem).1) hapart.nodup
  rw [identity_factoryClass h]
  exact hapart.own

theorem not_localName_factoryClass (h : names.WellNamed) (hapart : names.ShortNamesApartBy key)
    {name : String} (hmem : name ∈ names.referencedNames) (hname : isIdentifier name = true) :
    key name ∉ names.factoryClass.imports.toList.map (fun entry => key entry.localName) := by
  have himports := imports_factoryClass h
  have hshort : shortName name = name := shortName_qualify "" (not_mem_of_isIdentifier hname (by decide))
  intro hknown
  obtain ⟨entry, hentry, hsame⟩ := List.mem_map.mp hknown
  obtain ⟨hreferenced, hqualified⟩ :=
    (himports.mem_names_iff entry.name).mp (List.mem_map_of_mem hentry)
  rw [Import.localName, himports.noAlias entry hentry, Option.getD_none, ← hshort] at hsame
  have heq : entry.name = name :=
    List.inj_on_of_nodup_map hapart.nodup hreferenced hmem hsame
  rw [heq, isQualified, List.any_eq_true] at hqualified
  obtain ⟨c, hc, hseparator⟩ := hqualified
  rw [not_separator_of_isIdentifier hname c hc] at hseparator
  cases hseparator

theorem resolveBy_shortName_factoryClass (h : names.WellNamed) (hapart : names.ShortNamesApartBy key)
    {name : String} (hmem : name ∈ names.referencedNames) (hqualified : isQualified name = true) :
    names.factoryClass.resolveBy key (shortName name) = name := by
  have himports := imports_factoryClass h
  have hown : '\\' ∉ names.factoryClass.name.toList := by
    rw [identity_factoryClass h]
    exact not_mem_of_isIdentifier (isIdentifier_append h.clientName (by decide +kernel)) (by decide)
  have hknown := (himports.mem_names_iff name).mpr ⟨hmem, hqualified⟩
  exact @PhpClass.resolveBy_shortName key names.factoryClass name []
    (localNamesApartBy_factoryClass h hapart) himports.noAlias hown
    (segments_referencedNames h name hmem) (.inl hknown)
    (fun _ hsegment => absurd hsegment List.not_mem_nil)

/-- A short name means the name that is referred to if this has a namespace, and its neighbour in the
namespace of the factory if not. -/
theorem resolveBy_factoryClass (h : names.WellNamed) (hapart : names.ShortNamesApartBy key)
    {ns name : String} (hmem : qualify ns name ∈ names.referencedNames)
    (hname : isIdentifier name = true) :
    names.factoryClass.resolveBy key name =
      qualify (if ns = "" then names.clientNs else ns) name := by
  split
  case isTrue hglobal =>
    rw [hglobal] at hmem
    have hresolved := @PhpClass.resolveBy_of_not_localName key names.factoryClass name [] hname
      (fun _ hsegment => absurd hsegment List.not_mem_nil)
      (not_localName_factoryClass h hapart hmem hname)
    rwa [identity_factoryClass h] at hresolved
  case isFalse hlocal =>
    have hqualified : isQualified (qualify ns name) = true := by
      rw [qualify, beq_eq_false_iff_ne.mpr hlocal]
      simp [isQualified, isNameSeparator]
    have hresolved := resolveBy_shortName_factoryClass h hapart hmem hqualified
    rwa [shortName_qualify ns (not_mem_of_isIdentifier hname (by decide))] at hresolved

theorem generateFactory_eq_ok_iff {php : PhpClass} : generateFactory (.factory names) = .ok php ↔
    (isIdentifier names.clientName = true ∧ isIdentifier names.classmapName = true) ∧
      names.factoryClass = php := by
  have hcheck : names.check = .ok () ↔
      isIdentifier names.clientName = true ∧ isIdentifier names.classmapName = true := by
    rw [check, check_bind_eq_ok_iff, requireIdentifier_eq_ok_iff, requireIdentifier_eq_ok_iff]
  rw [← hcheck, generateFactory]
  cases names.check <;> simp

theorem generateFactory_eq (h : names.WellNamed) :
    generateFactory (.factory names) = .ok names.factoryClass :=
  generateFactory_eq_ok_iff.mpr ⟨⟨h.clientName, h.classmapName⟩, rfl⟩

theorem clientIn_factoryClass (h : names.WellNamed) (hapart : names.ShortNamesApartBy key) :
    names.factoryClass.clientIn key names.method = some names.client := by
  have hmem : qualify names.clientNs names.clientName ∈ names.referencedNames := List.mem_cons_self
  have hresolved := resolveBy_factoryClass h hapart hmem h.clientName
  have hns : (if names.clientNs = "" then names.clientNs else names.clientNs) = names.clientNs :=
    ite_self _
  rw [PhpClass.clientIn, method, (names_of_body h.clientName h.classmapName).2, Option.map_some,
    hresolved, hns]
  rfl

theorem classmapIn_factoryClass (h : names.WellNamed) (hapart : names.ShortNamesApartBy key) :
    names.factoryClass.classmapIn key names.method =
      some (qualify (if names.classmapNs = "" then names.clientNs else names.classmapNs)
        names.classmapName) := by
  have hmem : qualify names.classmapNs names.classmapName ∈ names.referencedNames :=
    List.mem_cons_of_mem _ List.mem_cons_self
  rw [PhpClass.classmapIn, method, (names_of_body h.clientName h.classmapName).1, Option.map_some,
    resolveBy_factoryClass h hapart hmem h.classmapName]

/-- Between names that can be told apart by any key, a factory is always generated, and its method returns
an object of the client. It registers the class map if and only if that has a namespace, or the client has
none either; otherwise it asks for the neighbour of the client that has the name of the class map. -/
theorem generateFactory_references (h : names.WellNamed) (hapart : names.ShortNamesApartBy key) :
    ∃ php method, generateFactory (.factory names) = .ok php ∧
      php.methods.find? "factory" = some method ∧ php.clientIn key method = some names.client ∧
      (php.classmapIn key method = some names.classmap ↔
        (names.classmapNs = "" → names.clientNs = "")) ∧
      (php.classmapIn key method ≠ some names.classmap →
        php.classmapIn key method = some (qualify names.clientNs names.classmapName)) := by
  refine ⟨names.factoryClass, names.method, generateFactory_eq h, find?_factoryClass names,
    clientIn_factoryClass h hapart, ?_⟩
  rw [classmapIn_factoryClass h hapart, classmap]
  by_cases hglobal : names.classmapNs = ""
  · have hbare : qualify "" names.classmapName = names.classmapName := rfl
    rw [if_pos hglobal, hglobal, hbare, Option.some.injEq, qualify_eq_self_iff]
    exact ⟨⟨fun hclient _ => hclient, fun himplies => himplies rfl⟩, fun _ => rfl⟩
  · rw [if_neg hglobal]
    exact ⟨iff_of_true rfl (fun hempty => absurd hempty hglobal), fun hne => absurd rfl hne⟩

/-- A factory whose client and class map have namespaces of their own: the body finds both of them. -/
theorem generateFactory_references_shop :
    ∃ php method,
      generateFactory (.factory (ofParts "ShopClient" "Shop" "ShopClassmap" "Shop\\Soap")) = .ok php ∧
      php.methods.find? "factory" = some method ∧
      php.clientIn asciiLowercase method = some "Shop\\ShopClient" ∧
      php.classmapIn asciiLowercase method = some "Shop\\Soap\\ShopClassmap" := by
  have hwell : (ofParts "ShopClient" "Shop" "ShopClassmap" "Shop\\Soap").WellNamed :=
    wellNamed_ofParts (by decide +kernel) (by decide +kernel) (by decide +kernel) (by decide +kernel)
  have hapart : (ofParts "ShopClient" "Shop" "ShopClassmap" "Shop\\Soap").ShortNamesApartBy
      asciiLowercase := by decide +kernel
  obtain ⟨php, method, hgenerated, hfind, hclient, hclassmap, _⟩ :=
    generateFactory_references hwell hapart
  have hnamed : (ofParts "ShopClient" "Shop" "ShopClassmap" "Shop\\Soap").classmapNs = "" →
      (ofParts "ShopClient" "Shop" "ShopClassmap" "Shop\\Soap").clientNs = "" := by decide +kernel
  exact ⟨php, method, hgenerated, hfind, hclient.trans (by decide +kernel),
    (hclassmap.mpr hnamed).trans (by decide +kernel)⟩

/-- The class map of a project that names no namespace for it: the factory registers the collection of
another class, one beside the client. -/
theorem not_references_global_classmap :
    (ofParts "ShopClient" "Shop" "ShopClassmap" "").WellNamed ∧
      (ofParts "ShopClient" "Shop" "ShopClassmap" "").ShortNamesApartBy asciiLowercase ∧
      (ofParts "ShopClient" "Shop" "ShopClassmap" "").classmap = "ShopClassmap" ∧
      ∃ php method,
        generateFactory (.factory (ofParts "ShopClient" "Shop" "ShopClassmap" "")) = .ok php ∧
        php.methods.find? "factory" = some method ∧
        php.classmapIn asciiLowercase method = some "Shop\\ShopClassmap" := by
  have hwell : (ofParts "ShopClient" "Shop" "ShopClassmap" "").WellNamed :=
    wellNamed_ofParts (by decide +kernel) (by decide +kernel) (by decide +kernel) (by decide +kernel)
  have hapart : (ofParts "ShopClient" "Shop" "ShopClassmap" "").ShortNamesApartBy asciiLowercase := by
    decide +kernel
  exact ⟨hwell, hapart, by decide +kernel, _, _, generateFactory_eq hwell, find?_factoryClass _,
    (classmapIn_factoryClass hwell hapart).trans (by decide +kernel)⟩

end FactoryNames

end SoapClasses
