import SoapClasses.ProjectGeneration
import SoapClasses.Proofs.DeclaredTypes
import SoapClasses.Proofs.GeneratedClients

/-!
# The parts of a project

A project and a service description ask for a class for each type, one for the client and one for the
factory of the client. They are made in this order, each from its part alone, and the first part that
cannot be made ends the generation. A factory without a client is noticed at the end.
-/

namespace SoapClasses

/-- What a class of a project is made from. -/
inductive ClassPart where
  | type (schema : SchemaType)
  | client (described : ClientDescription)
  | factory (described : ClientDescription) (classmap : FactorySection)

namespace ClassPart

/-- The class for a part, or why there is none. -/
def outcome (settings : GeneratorSettings) : ClassPart → Except GenerationError PhpClass
  | type schema => (generateType settings schema).mapError (.type schema.name)
  | client described => (generateClient described).mapError (.client described.name)
  | factory described classmap =>
    (generateFactory (.factory (.ofParts described.name described.ns classmap.classmapName
      classmap.classmapNs))).mapError .factory

/-- The name and the namespace of the class for a part. -/
def identity : ClassPart → ClassIdentity
  | type schema => schema.identity
  | client described => described.identity
  | factory described _ => ⟨described.name ++ "Factory", trimSeparators described.ns⟩

theorem identity_of_generateFactory {names : FactoryNames} {php : PhpClass}
    (h : generateFactory (.factory names) = .ok php) :
    php.toClassIdentity = ⟨names.factoryName, trimSeparators names.clientNs⟩ := by
  unfold generateFactory at h
  simp only at h
  split at h
  · rw [← Except.ok.inj h]
    exact PhpClass.toClassIdentity_amendAll _ _
  · cases h

theorem identity_of_outcome {settings : GeneratorSettings} {part : ClassPart} {php : PhpClass}
    (h : part.outcome settings = .ok php) : php.toClassIdentity = part.identity := by
  cases part with
  | type schema => exact (SchemaType.madeInto_of_generateType (mapError_eq_ok_iff.mp h)).identity
  | client described =>
    exact (ClientDescription.madeInto_of_generateClient (mapError_eq_ok_iff.mp h)).identity
  | factory described classmap =>
    rw [identity_of_generateFactory (mapError_eq_ok_iff.mp h)]
    exact congrArg (ClassIdentity.mk _) (trimSeparators_trimSeparators described.ns)

end ClassPart

namespace Project

variable {project : Project} {document : ServiceDocument}

/-- A client as the project names it: a project without a name for it leaves it as it is described. -/
def named (project : Project) (described : ClientDescription) : ClientDescription :=
  match project.client with
  | some given => ⟨given.name, trimSeparators given.ns, described.operations⟩
  | none => described

/-- The name and the namespace of the class for a client. -/
def clientIdentity (project : Project) (described : ClientDescription) : ClassIdentity :=
  match project.client with
  | some given => ⟨given.name, trimSeparators given.ns⟩
  | none => ⟨described.name, trimSeparators described.ns⟩

/-- The client and, if the project asks for it, its factory. -/
def clientParts (project : Project) (described : ClientDescription) : List ClassPart :=
  .client (project.named described) ::
    project.factory.toList.map (.factory (project.named described))

/-- The types in their order, the client behind them and its factory at the end. -/
def parts (project : Project) (document : ServiceDocument) : List ClassPart :=
  document.types.map .type ++ document.client.toList.flatMap project.clientParts

/-- The project asks for the factory of a client that the service description does not have. -/
def LacksClient (project : Project) (document : ServiceDocument) : Prop :=
  document.client = none ∧ project.factory.isSome = true

instance (project : Project) (document : ServiceDocument) : Decidable (project.LacksClient document) :=
  inferInstanceAs (Decidable (_ = none ∧ _))

theorem identity_named (described : ClientDescription) :
    (project.named described).identity = project.clientIdentity described := by
  unfold named clientIdentity
  cases project.client with
  | none => rfl
  | some given =>
    exact congrArg (ClassIdentity.mk given.name) (trimSeparators_trimSeparators given.ns)

theorem identity_clientParts (described : ClientDescription) :
    (project.clientParts described).map ClassPart.identity =
      project.clientIdentity described :: project.factory.toList.map (fun _ =>
        ⟨(project.clientIdentity described).name ++ "Factory",
          (project.clientIdentity described).ns⟩) := by
  rw [clientParts, List.map_cons, List.map_map, ← identity_named]
  rfl

theorem clientFor_eq : project.clientFor document = document.client.map project.named := rfl

theorem factoryClasses_eq (described : ClientDescription) : project.factoryClasses described =
    (project.factory.toList.map (.factory described)).mapM (ClassPart.outcome project.generator) := by
  unfold factoryClasses
  cases project.factory with
  | none => rfl
  | some classmap =>
    rw [Option.toList_some, List.map_singleton, List.mapM_cons, List.mapM_nil]
    exact map_eq_pure_bind _ (ClassPart.outcome project.generator (.factory described classmap))

theorem clientClasses_of_client {described : ClientDescription}
    (h : document.client = some described) : project.clientClasses document =
      (project.clientParts described).mapM (ClassPart.outcome project.generator) := by
  rw [clientClasses, clientFor_eq, h, Option.map_some, clientParts, List.mapM_cons,
    ← factoryClasses_eq]
  rfl

theorem classes_eq : project.classes document =
    ((project.parts document).mapM (ClassPart.outcome project.generator) >>= fun made =>
      if project.LacksClient document then .error .noClient else .ok made) := by
  have htypes : document.types.mapM project.typeClass =
      (document.types.map ClassPart.type).mapM (ClassPart.outcome project.generator) := by
    rw [List.mapM_map]
    rfl
  rw [classes, htypes, parts, List.mapM_append, bind_assoc]
  congr 1
  funext types
  cases hclient : document.client with
  | none =>
    simp only [clientClasses, clientFor_eq, hclient, LacksClient, Option.map_none, Option.toList_none,
      List.flatMap_nil, List.mapM_nil, pure_bind, true_and]
    split
    · rfl
    · rfl
  | some described =>
    have hlacks : ¬ project.LacksClient document := by
      rintro ⟨hnone, -⟩
      rw [hclient] at hnone
      cases hnone
    rw [clientClasses_of_client hclient, Option.toList_some, List.flatMap_singleton, bind_assoc]
    simp only [pure_bind, if_neg hlacks]
    rfl

theorem classes_eq_ok_iff {classes : List PhpClass} : project.classes document = .ok classes ↔
    ¬ project.LacksClient document ∧
      List.Forall₂ (fun part php => part.outcome project.generator = .ok php)
        (project.parts document) classes := by
  rw [classes_eq, bind_eq_ok_iff, ← mapM_eq_ok_iff]
  constructor
  · rintro ⟨made, hmade, hdone⟩
    split at hdone
    · cases hdone
    · rename_i hclient
      rw [← Except.ok.inj hdone]
      exact ⟨hclient, hmade⟩
  · rintro ⟨hclient, hmade⟩
    exact ⟨classes, hmade, if_neg hclient⟩

theorem classes_eq_error_iff {error : GenerationError} : project.classes document = .error error ↔
    (∃ earlier part later, project.parts document = earlier ++ part :: later ∧
      (∀ other ∈ earlier, ∃ php, other.outcome project.generator = .ok php) ∧
      part.outcome project.generator = .error error) ∨
    (∀ part ∈ project.parts document, ∃ php, part.outcome project.generator = .ok php) ∧
      project.LacksClient document ∧ error = .noClient := by
  rw [classes_eq, bind_eq_error_iff, mapM_eq_error_iff, ← exists_mapM_eq_ok_iff]
  apply or_congr_right
  constructor
  · rintro ⟨made, hmade, hfailed⟩
    split at hfailed
    · rename_i hlacks
      exact ⟨⟨made, hmade⟩, hlacks, (Except.error.inj hfailed).symm⟩
    · cases hfailed
  · rintro ⟨⟨made, hmade⟩, hlacks, rfl⟩
    exact ⟨made, hmade, if_pos hlacks⟩

theorem exists_classes_eq_error_iff : (∃ error, project.classes document = .error error) ↔
    (∃ part ∈ project.parts document, ∃ error, part.outcome project.generator = .error error) ∨
      project.LacksClient document := by
  constructor
  · rintro ⟨error, herror⟩
    rcases classes_eq_error_iff.mp herror with ⟨earlier, part, later, hparts, -, hpart⟩ | ⟨-, hlacks, -⟩
    · left
      refine ⟨part, ?_, error, hpart⟩
      rw [hparts]
      exact List.mem_append_right _ List.mem_cons_self
    · exact .inr hlacks
  · intro hfails
    cases houtcome : project.classes document with
    | error error => exact ⟨error, rfl⟩
    | ok classes =>
      obtain ⟨hclient, hmade⟩ := classes_eq_ok_iff.mp houtcome
      rcases hfails with ⟨part, hmem, error, herror⟩ | hlacks
      · obtain ⟨php, hphp⟩ := exists_mapM_eq_ok_iff.mp ⟨classes, mapM_eq_ok_iff.mpr hmade⟩ part hmem
        rw [herror] at hphp
        cases hphp
      · exact absurd hlacks hclient

theorem identities_classes {classes : List PhpClass} (h : project.classes document = .ok classes) :
    classes.map PhpClass.toClassIdentity = (project.parts document).map ClassPart.identity := by
  have hmade := (classes_eq_ok_iff.mp h).2
  clear h
  generalize project.parts document = parts at hmade ⊢
  induction hmade with
  | nil => rfl
  | cons hpart _ ih => rw [List.map_cons, List.map_cons, ih, ClassPart.identity_of_outcome hpart]

/-- The classes of a project are those for its parts, in the order of the parts. If there are none, the
first part that cannot be made says why, or, when every part can, the client that is missing. A class is
named after its type; that of the client as the project names it, or as it is described if the project
does not; and the factory after the client, in the namespace of the client. -/
theorem classes_meaning (project : Project) (document : ServiceDocument) :
    (∀ classes, project.classes document = .ok classes ↔ ¬ project.LacksClient document ∧
      List.Forall₂ (fun part php => part.outcome project.generator = .ok php)
        (project.parts document) classes) ∧
    (∀ error, project.classes document = .error error ↔
      (∃ earlier part later, project.parts document = earlier ++ part :: later ∧
        (∀ other ∈ earlier, ∃ php, other.outcome project.generator = .ok php) ∧
        part.outcome project.generator = .error error) ∨
      (∀ part ∈ project.parts document, ∃ php, part.outcome project.generator = .ok php) ∧
        project.LacksClient document ∧ error = .noClient) ∧
    ((∃ error, project.classes document = .error error) ↔
      (∃ part ∈ project.parts document, ∃ error, part.outcome project.generator = .error error) ∨
        project.LacksClient document) ∧
    ∀ classes, project.classes document = .ok classes →
      classes.map PhpClass.toClassIdentity = document.types.map SchemaType.identity ++
        document.client.toList.flatMap (fun described =>
          project.clientIdentity described :: project.factory.toList.map (fun _ =>
            ⟨(project.clientIdentity described).name ++ "Factory",
              (project.clientIdentity described).ns⟩)) := by
  refine ⟨fun _ => classes_eq_ok_iff, fun _ => classes_eq_error_iff, exists_classes_eq_error_iff, ?_⟩
  intro classes hclasses
  rw [identities_classes hclasses, parts, List.map_append, List.map_map, List.map_flatMap]
  simp only [identity_clientParts]
  rfl

/-- A project that names its client and asks for a factory. -/
def ofShop : Project where
  client := some ⟨"Shop", "\\App\\"⟩
  factory := some ⟨"ShopClassmap", "App"⟩

/-- A service with two types, whose names are spelled as no class is named, and a client. -/
def ofOrderLines : ServiceDocument where
  types := [.ofName "order-line", .ofName "list"]
  client := some ⟨"service", "", []⟩

theorem classes_meaning_shop : ∃ classes, ofShop.classes ofOrderLines = .ok classes ∧
    classes.map PhpClass.toClassIdentity = [⟨"OrderLine", "App\\Type"⟩, ⟨"ListType", "App\\Type"⟩,
      ⟨"Shop", "App"⟩, ⟨"ShopFactory", "App"⟩] := by
  obtain ⟨hok, -, -, hidentities⟩ := classes_meaning ofShop ofOrderLines
  have hmade : ∀ part ∈ ofShop.parts ofOrderLines,
      (part.outcome ofShop.generator).isOk = true := by
    decide +kernel
  obtain ⟨classes, hclasses⟩ := exists_mapM_eq_ok_iff.mpr
    fun part hmem => exists_eq_ok_of_isOk (hmade part hmem)
  have hproject := (hok classes).mpr ⟨by decide, mapM_eq_ok_iff.mp hclasses⟩
  exact ⟨classes, hproject, (hidentities classes hproject).trans (by decide +kernel)⟩

end Project

end SoapClasses
