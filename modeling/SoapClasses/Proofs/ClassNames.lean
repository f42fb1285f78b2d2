import SoapClasses.Proofs.NamingLaws
import SoapClasses.Proofs.ProjectParts

/-!
# Names of classes

The names of the classes of a project are known before any class is generated: those of the types, in
their order, then that of the client and that of its factory. The name of the client is an identifier
if the project gives it; the others depend on the service description, and nothing checks them.
-/

namespace SoapClasses

namespace Project

variable {project : Project} {document : ServiceDocument} {classes : List PhpClass}

/-- The name of the factory of a client, if the project asks for one. -/
def factoryNames (project : Project) (client : ClientDescription) : List String :=
  if project.factory.isSome then [client.name ++ "Factory"] else []

/-- The names of the classes for a client and of its factory. -/
def clientNames (project : Project) (document : ServiceDocument) : List String :=
  match project.clientFor document with
  | none => []
  | some client => client.name :: project.factoryNames client

/-- The names of all classes of the project. -/
def classNames (project : Project) (document : ServiceDocument) : List String :=
  document.types.map (fun schema => className schema.name) ++ project.clientNames document

theorem names_clientParts (project : Project) (document : ServiceDocument) :
    (document.client.toList.flatMap project.clientParts).map (fun part => part.identity.name) =
      project.clientNames document := by
  rw [clientNames, clientFor_eq]
  cases document.client with
  | none => rfl
  | some described =>
    rw [Option.toList_some, List.flatMap_singleton, clientParts, List.map_cons, List.map_map,
      Option.map_some]
    unfold factoryNames
    cases project.factory with
    | none => rfl
    | some classmap => rfl

theorem names_parts (project : Project) (document : ServiceDocument) :
    (project.parts document).map (fun part => part.identity.name) = project.classNames document := by
  rw [parts, List.map_append, List.map_map, names_clientParts, classNames]
  simp only [Function.comp_def, ClassPart.identity, SchemaType.identity]

theorem names_classes (h : project.classes document = .ok classes) :
    classes.map (fun php => php.name) = project.classNames document := by
  have hnames := congrArg (List.map ClassIdentity.name) (identities_classes h)
  rw [List.map_map, List.map_map] at hnames
  exact hnames.trans (names_parts project document)

/-- All classes of the project are named by identifiers, as far as the service description names
them. -/
structure NamesIdentifiers (project : Project) (document : ServiceDocument) : Prop where
  types : ∀ schema ∈ document.types, isIdentifier (className schema.name) = true
  client : project.client = none → ∀ client ∈ document.client, isIdentifier client.name = true

theorem demand_eq_ok_iff {condition : Bool} {error : ProjectError} :
    demand condition error = .ok () ↔ condition = true := by
  cases condition <;> simp [demand]

theorem isIdentifier_of_validate {named : ClientSection} (h : project.validate = .ok ())
    (hclient : project.client = some named) : isIdentifier named.name = true := by
  have hvalid := (check_bind_eq_ok_iff.mp h).1
  rw [validateClient, hclient] at hvalid
  obtain ⟨_, hrest⟩ := check_bind_eq_ok_iff.mp hvalid
  exact demand_eq_ok_iff.mp (check_bind_eq_ok_iff.mp hrest).1

theorem isIdentifier_of_mem_clientNames {client : ClientDescription} {name : String}
    (hclient : project.clientFor document = some client) (h : isIdentifier client.name = true)
    (hmem : name ∈ project.clientNames document) : isIdentifier name = true := by
  rw [clientNames, hclient] at hmem
  rcases List.mem_cons.mp hmem with rfl | hmem
  · exact h
  · unfold factoryNames at hmem
    split at hmem
    · rw [List.mem_singleton.mp hmem]
      exact isIdentifier_append h (by decide)
    · cases hmem

/-- A valid project leaves the names of the types open, and that of the client if it gives none. -/
theorem isIdentifier_classNames_iff (h : project.validate = .ok ()) :
    (∀ name ∈ project.classNames document, isIdentifier name = true) ↔
      project.NamesIdentifiers document := by
  constructor
  · intro hnames
    constructor
    · intro schema hmem
      exact hnames _ (List.mem_append_left _ (List.mem_map_of_mem hmem))
    · intro hnone client hclient
      apply hnames client.name
      apply List.mem_append_right
      have hfor : project.clientFor document = some client := by
        simp [clientFor, hnone, Option.mem_def.mp hclient]
      simp [clientNames, hfor]
  · rintro ⟨htypes, hclient⟩ name hmem
    rcases List.mem_append.mp hmem with hmem | hmem
    · obtain ⟨schema, hschema, rfl⟩ := List.mem_map.mp hmem
      exact htypes schema hschema
    · cases hdocument : document.client with
      | none => simp [clientNames, clientFor, hdocument] at hmem
      | some client =>
        cases hproject : project.client with
        | none =>
          have hfor : project.clientFor document = some client := by
            simp [clientFor, hproject, hdocument]
          exact isIdentifier_of_mem_clientNames hfor (hclient hproject client hdocument) hmem
        | some named =>
          have hfor : project.clientFor document =
              some { client with name := named.name, ns := trimSeparators named.ns } := by
            simp [clientFor, hproject, hdocument]
          exact isIdentifier_of_mem_clientNames hfor (isIdentifier_of_validate h hproject) hmem

end Project

end SoapClasses
