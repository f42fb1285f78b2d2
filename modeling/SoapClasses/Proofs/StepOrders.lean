import SoapClasses.Proofs.ExposedOperations
import SoapClasses.Proofs.StepEdits

/-!
# Orders of steps

What a step drafts does not depend on the steps before it, so steps in another order leave another order
of the same edits. Imports without an alias end up sorted, the doc block of a type is the same whenever
it is written, and of members with different names only the places differ. So two orders of steps about
one type, or of those for one client, leave classes that differ in the order of their members alone.
-/

namespace SoapClasses

open Draft

/-- Two classes that differ at most in the order of interfaces, fields and methods. -/
structure PhpClass.SameUpToOrder (first second : PhpClass) : Prop where
  identity : first.toClassIdentity = second.toClassIdentity
  imports : first.imports = second.imports
  interfaces : first.interfaces.toList.Perm second.interfaces.toList
  fields : first.fields.toList.Perm second.fields.toList
  methods : first.methods.toList.Perm second.methods.toList
  doc : first.doc = second.doc

/-- Fields of one name that are written are equal, and so are methods of one name. -/
structure AgreeOnMembers (changes : List ClassEdit) : Prop where
  fields : ∀ field other, .putField field ∈ changes → .putField other ∈ changes →
    field.name = other.name → field = other
  methods : ∀ method other, .putMethod method ∈ changes → .putMethod other ∈ changes →
    method.name = other.name → method = other

instance (changes : List ClassEdit) : Decidable (AgreeOnMembers changes) :=
  decidable_of_iff
    ((∀ field ∈ changes.filterMap ClassEdit.field?, ∀ other ∈ changes.filterMap ClassEdit.field?,
        field.name = other.name → field = other) ∧
      ∀ method ∈ changes.filterMap ClassEdit.method?, ∀ other ∈ changes.filterMap ClassEdit.method?,
        method.name = other.name → method = other)
    ⟨fun h => ⟨
      fun field other hmem hother => h.1 field (ClassEdit.mem_filterMap_field?.mpr hmem) other
        (ClassEdit.mem_filterMap_field?.mpr hother),
      fun method other hmem hother => h.2 method (ClassEdit.mem_filterMap_method?.mpr hmem) other
        (ClassEdit.mem_filterMap_method?.mpr hother)⟩,
    fun h => ⟨
      fun field hmem other hother => h.fields field other (ClassEdit.mem_filterMap_field?.mp hmem)
        (ClassEdit.mem_filterMap_field?.mp hother),
      fun method hmem other hother => h.methods method other (ClassEdit.mem_filterMap_method?.mp hmem)
        (ClassEdit.mem_filterMap_method?.mp hother)⟩⟩

theorem PhpClass.sameUpToOrder_extended (php : PhpClass) {changes others : List ClassEdit}
    (hperm : changes.Perm others) (hagree : AgreeOnMembers changes)
    (hplain : ∀ name aliasName, .addImport name aliasName ∈ changes → aliasName = none)
    (hdoc : ∀ doc other, .setDoc doc ∈ changes → .setDoc other ∈ changes → doc = other) :
    (php.extended changes).SameUpToOrder (php.extended others) where
  identity := rfl
  imports := by
    apply php.imports.insertAll_eq_of_perm (hperm.filterMap _)
    intro entry hmem
    exact hplain entry.name entry.aliasName (ClassEdit.mem_filterMap_import?.mp hmem)
  interfaces := php.interfaces.perm_putAll (hperm.filterMap _) (fun _ _ _ _ hname => hname)
  fields := by
    apply php.fields.perm_putAll (hperm.filterMap _)
    intro field hmem other hother
    exact hagree.fields field other (ClassEdit.mem_filterMap_field?.mp hmem)
      (ClassEdit.mem_filterMap_field?.mp hother)
  methods := by
    apply php.methods.perm_putAll (hperm.filterMap _)
    intro method hmem other hother
    exact hagree.methods method other (ClassEdit.mem_filterMap_method?.mp hmem)
      (ClassEdit.mem_filterMap_method?.mp hother)
  doc := by
    have hdocs : changes.filterMap ClassEdit.doc? = others.filterMap ClassEdit.doc? := by
      have hperm := hperm.filterMap ClassEdit.doc?
      have hanyway : ∀ docs : List DocBlock, docs.Pairwise (fun _ _ => True) :=
        fun _ => List.pairwise_of_forall (fun _ _ => trivial)
      refine hperm.eq_of_pairwise ?_ (hanyway _) (hanyway _)
      intro doc other hmem hother _ _
      exact hdoc doc other (ClassEdit.mem_filterMap_doc?.mp hmem)
        (ClassEdit.mem_filterMap_doc?.mp (hperm.mem_iff.mpr hother))
    rw [doc_extended, doc_extended, hdocs]

/-- Two lists of steps, run on a class each: every step ends the same way, and the classes are the same up
to order. -/
structure SameRuns (steps others : List GenerationStep) (php : PhpClass) : Prop where
  outcomes : ∃ outcomeOf : GenerationStep → Except AssemblyError Unit,
    (runSteps steps php).1 = steps.map outcomeOf ∧ (runSteps others php).1 = others.map outcomeOf
  classes : (runSteps steps php).2.SameUpToOrder (runSteps others php).2

theorem sameRuns_of_perm {steps others : List GenerationStep} {php : PhpClass}
    (hperm : steps.Perm others) (hagree : AgreeOnMembers (editLog php.toClassIdentity steps))
    (hplain : ∀ name aliasName, .addImport name aliasName ∈ editLog php.toClassIdentity steps →
      aliasName = none)
    (hdoc : ∀ doc other, .setDoc doc ∈ editLog php.toClassIdentity steps →
      .setDoc other ∈ editLog php.toClassIdentity steps → doc = other) :
    SameRuns steps others php := by
  have hextended : ∀ steps : List GenerationStep, (runSteps steps php).2 =
      php.extended (editLog php.toClassIdentity steps) := by
    intro steps
    rw [runSteps_eq]
    exact php.amendAll_eq_extended _ (fun _ hmem => isAddition_of_mem_editLog hmem)
  constructor
  · refine ⟨fun step => (step.draft php.toClassIdentity).outcome, ?_, ?_⟩
    · rw [runSteps_eq]
    · rw [runSteps_eq]
  · rw [hextended, hextended]
    exact php.sameUpToOrder_extended (hperm.flatMap_right _) hagree hplain hdoc

section

variable {owner : ClassIdentity}

/-- A step about a type that gives no alias to what it imports. -/
def GenerationStep.IsAbout (schema : SchemaType) (step : GenerationStep) : Prop :=
  step.context.schema? = some schema ∧ step.assembler.givenAlias = none

instance (schema : SchemaType) (step : GenerationStep) : Decidable (step.IsAbout schema) :=
  inferInstanceAs (Decidable (_ ∧ _))

theorem GenerationStep.IsAbout.ofType_of_mem_edits {schema : SchemaType} {step : GenerationStep}
    (h : step.IsAbout schema) {change : ClassEdit} (hmem : change ∈ (step.draft owner).edits) :
    change.OfType owner schema none := by
  have hsort := step.editsOnly_draft owner change hmem
  simpa only [ClassEdit.OfStep, h.1, h.2] using hsort

theorem ofType_of_mem_editLog {schema : SchemaType} {steps : List GenerationStep}
    (h : ∀ step ∈ steps, step.IsAbout schema) {change : ClassEdit}
    (hmem : change ∈ editLog owner steps) : change.OfType owner schema none := by
  obtain ⟨step, hstep, hedit⟩ := List.mem_flatMap.mp hmem
  exact (h step hstep).ofType_of_mem_edits hedit

/-- Steps about one type that agree on the members they write can be run in any order. -/
theorem sameRuns_of_isAbout {schema : SchemaType} {steps others : List GenerationStep} {php : PhpClass}
    (hperm : steps.Perm others) (habout : ∀ step ∈ steps, step.IsAbout schema)
    (hagree : AgreeOnMembers (editLog php.toClassIdentity steps)) : SameRuns steps others php := by
  apply sameRuns_of_perm hperm hagree
  · intro name aliasName hmem
    cases ofType_of_mem_editLog habout hmem with
    | reference _ hgiven _ => exact hgiven.elim id id
  · intro doc other hmem hother
    cases ofType_of_mem_editLog habout hmem with
    | doc hfirst =>
      cases ofType_of_mem_editLog habout hother with
      | doc hsecond =>
        rw [hfirst, Option.some.injEq] at hsecond
        rw [hsecond]

namespace ClientDescription

variable {client : ClientDescription}

/-- No method name is that of the constructor or goes to two different operations. -/
structure MethodNamesApart (client : ClientDescription) : Prop where
  constructorFree : ∀ operation ∈ client.operations,
    methodName operation.name ≠ .ok constructorName
  injective : ∀ operation ∈ client.operations, ∀ other ∈ client.operations, ∀ name,
    methodName operation.name = .ok name → methodName other.name = .ok name → operation = other

theorem NamesApart.methodNamesApart (h : client.NamesApart) : client.MethodNamesApart := by
  constructor
  · intro operation hmem hname
    exact h.constructorFree operation hmem (eq_camelCase_of_methodName hname).symm
  · intro operation hmem other hother name hname hname'
    apply h.injective operation hmem other hother
    rw [← eq_camelCase_of_methodName hname, ← eq_camelCase_of_methodName hname']

/-- Edits that the steps of a client make. -/
def Edits (client : ClientDescription) : ClassEdit → Prop
  | .addImport _ aliasName => aliasName = none
  | .putField field => field = callerField
  | .putMethod method => method = constructorMethod ∨ ∃ operation ∈ client.operations,
      methodName operation.name = .ok method.name ∧ method = operation.clientMethod
  | _ => False

theorem edits_of_mem_importEdits {isNeeded : String → Bool} {names : List String}
    {change : ClassEdit} (h : change ∈ importEdits isNeeded names) : client.Edits change := by
  obtain ⟨name, _, rfl⟩ := List.mem_map.mp h
  exact rfl

theorem edits_of_mem_draftConstructor {change : ClassEdit}
    (h : change ∈ (draftConstructor owner).edits) : client.Edits change := by
  rw [draftConstructor_eq] at h
  rcases List.mem_append.mp h with h | h
  · exact edits_of_mem_importEdits h
  · rcases List.mem_cons.mp h with rfl | h
    · exact rfl
    · rw [List.mem_singleton.mp h]
      exact .inl rfl

theorem edits_of_mem_draftOperation {operation : Operation} (hmem : operation ∈ client.operations)
    {change : ClassEdit} (h : change ∈ (draftOperation owner operation).edits) :
    client.Edits change := by
  cases hfault : operation.fault with
  | none =>
    have hname := (Operation.fault_eq_none_iff_checks.mp hfault).1
    rw [operation.draftOperation_eq owner hfault] at h
    rcases List.mem_append.mp h with h | h
    · exact edits_of_mem_importEdits h
    · rw [List.mem_singleton.mp h]
      exact .inr ⟨operation, hmem, methodName_of_isIdentifier hname, rfl⟩
  | some fault =>
    have herror := operation.outcome_draftOperation_of_fault owner hfault
    obtain ⟨_, _, _, _, hreferences, _⟩ :=
      (endsWell_draftOperation owner operation).error _ herror
    have hreference := hreferences change h
    cases editsOnly_draftOperation owner operation change h with
    | reference _ _ => exact rfl
    | field field => exact hreference.elim
    | method method => exact hreference.elim

theorem edits_of_mem_editLog {steps : List GenerationStep} (h : steps ⊆ client.steps)
    {change : ClassEdit} (hmem : change ∈ editLog owner steps) : client.Edits change := by
  obtain ⟨step, hstep, hedit⟩ := List.mem_flatMap.mp hmem
  rcases List.mem_cons.mp (h hstep) with rfl | hmethod
  · exact edits_of_mem_draftConstructor hedit
  · obtain ⟨operation, hoperation, rfl⟩ := List.mem_map.mp hmethod
    exact edits_of_mem_draftOperation hoperation hedit

theorem MethodNamesApart.agreeOnMembers (h : client.MethodNamesApart) {changes : List ClassEdit}
    (hedits : ∀ change ∈ changes, client.Edits change) : AgreeOnMembers changes := by
  have hreserved : ∀ operation ∈ client.operations, ∀ name, methodName operation.name = .ok name →
      name ≠ constructorMethod.name := by
    rintro operation hoperation name hname rfl
    exact h.constructorFree operation hoperation hname
  constructor
  · intro field other hmem hother _
    have hfield : field = callerField := hedits _ hmem
    have hsecond : other = callerField := hedits _ hother
    rw [hfield, hsecond]
  · intro method other hmem hother hnames
    rcases hedits _ hmem with rfl | ⟨operation, hoperation, hname, hmethod⟩
    · rcases hedits _ hother with heq | ⟨second, hsecond, hname, _⟩
      · exact heq.symm
      · exact absurd hnames.symm (hreserved second hsecond other.name hname)
    · rcases hedits _ hother with rfl | ⟨second, hsecond, hname', hother⟩
      · exact absurd hnames (hreserved operation hoperation method.name hname)
      · rw [hnames] at hname
        rw [hmethod, hother, h.injective operation hoperation second hsecond other.name hname hname']

/-- The steps of a client can be run in any order if its method names are apart. -/
theorem MethodNamesApart.sameRuns (h : client.MethodNamesApart) {steps others : List GenerationStep}
    (hperm : steps.Perm others) (hsteps : steps ⊆ client.steps) (php : PhpClass) :
    SameRuns steps others php := by
  have hedits : ∀ change ∈ editLog php.toClassIdentity steps, client.Edits change :=
    fun change hmem => edits_of_mem_editLog hsteps hmem
  apply sameRuns_of_perm hperm (h.agreeOnMembers hedits)
  · exact fun name aliasName hmem => hedits _ hmem
  · exact fun doc other hmem _ => (hedits _ hmem).elim

theorem MethodNamesApart.exists_generateClient (h : client.MethodNamesApart)
    {operations : List Operation} (hperm : client.operations.Perm operations) {php : PhpClass}
    (hphp : generateClient client = .ok php) :
    ∃ other, generateClient { client with operations := operations } = .ok other ∧
      php.SameUpToOrder other := by
  have hsteps : client.steps.Perm { client with operations := operations }.steps :=
    (hperm.map _).cons _
  have hsame := (h.sameRuns hsteps (List.Subset.refl _) (.fresh client.name client.ns)).classes
  obtain ⟨houtcomes, hlast⟩ := leads_iff_runSteps.mp ((generateClient_eq_ok_iff client php).mp hphp)
  rw [hlast] at hsame
  have hothers : ∀ step ∈ { client with operations := operations }.steps,
      (step.draft (PhpClass.fresh client.name client.ns).toClassIdentity).outcome = .ok () :=
    fun step hmem => houtcomes step (hsteps.mem_iff.mpr hmem)
  refine ⟨_, (generateClient_eq_ok_iff _ _).mpr ?_, hsame⟩
  exact leads_iff_runSteps.mpr ⟨hothers, rfl⟩

end ClientDescription

end

/-- The order of steps about one type, without aliases and agreeing on the members they write, does not
matter but for the order of the members: on any class every step ends as it would, and the rest of the
class is the same. That goes for the steps of a client whose method names are apart as well, and so for
the class that is generated for it. -/
theorem runs_in_any_order :
    (∀ (php : PhpClass) (schema : SchemaType) (steps others : List GenerationStep),
      steps.Perm others → (∀ step ∈ steps, step.IsAbout schema) →
      AgreeOnMembers (editLog php.toClassIdentity steps) → SameRuns steps others php) ∧
    (∀ (php : PhpClass) (client : ClientDescription) (steps others : List GenerationStep),
      steps.Perm others → steps ⊆ client.steps → client.MethodNamesApart →
      SameRuns steps others php) ∧
    ∀ (client : ClientDescription) (operations : List Operation) (php : PhpClass),
      client.operations.Perm operations → client.MethodNamesApart → generateClient client = .ok php →
      ∃ other, generateClient { client with operations := operations } = .ok other ∧
        php.SameUpToOrder other := by
  refine ⟨?_, ?_, ?_⟩
  · exact fun _ _ _ _ hperm habout hagree => sameRuns_of_isAbout hperm habout hagree
  · exact fun php _ _ _ hperm hsteps hnames => hnames.sameRuns hperm hsteps php
  · exact fun _ _ _ hperm hnames hphp => hnames.exists_generateClient hperm hphp

/-- A type with one property. -/
def oneProperty : SchemaType where
  ns := "App"
  name := "Order"
  properties := [⟨"id", "int", "", {}⟩]
  xsdType := "Order"
  distinct := List.pairwise_singleton _ "id"

/-- Steps that give the type its iterator, its serialization and a field. -/
def capabilitySteps : List GenerationStep :=
  [⟨.iterator, .schemaType oneProperty⟩, ⟨.jsonSerializable, .schemaType oneProperty⟩,
    ⟨.property {}, .property oneProperty ⟨"id", "int", "", {}⟩⟩]

/-- A client with two operations. -/
def twoOperations : ClientDescription where
  name := "Shop"
  ns := "App"
  operations := [⟨"getUser", [], ⟨"string", false⟩, none⟩, ⟨"get-order", [], ⟨"string", false⟩, none⟩]

/-- The interfaces of the type stand in another order. -/
theorem runs_in_any_order_reversed :
    SameRuns capabilitySteps capabilitySteps.reverse (.fresh "Order" "App") ∧
    (runSteps capabilitySteps (.fresh "Order" "App")).2.interfaces.toList =
      ["IteratorAggregate", "JsonSerializable"] ∧
    (runSteps capabilitySteps.reverse (.fresh "Order" "App")).2.interfaces.toList =
      ["JsonSerializable", "IteratorAggregate"] ∧
    SameRuns twoOperations.steps twoOperations.steps.reverse (.fresh "Order" "App") ∧
    ∃ php other, generateClient twoOperations = .ok php ∧
      generateClient { twoOperations with operations := twoOperations.operations.reverse } = .ok other ∧
      php.SameUpToOrder other := by
  have hnames : twoOperations.NamesApart := by
    constructor
    · decide +kernel
    · decide +kernel
  obtain ⟨habout, hclient, hgenerated⟩ := runs_in_any_order
  have hcapabilities := habout (.fresh "Order" "App") oneProperty capabilitySteps
    capabilitySteps.reverse (List.reverse_perm _).symm (by decide) (by decide +kernel)
  have hmethods := hclient (.fresh "Order" "App") twoOperations _ _ (List.reverse_perm _).symm
    (List.Subset.refl _) hnames.methodNamesApart
  obtain ⟨php, hphp⟩ : ∃ php, generateClient twoOperations = .ok php := by
    apply exists_eq_ok_of_isOk
    decide +kernel
  obtain ⟨other, hother, hsame⟩ := hgenerated twoOperations _ php (List.reverse_perm _).symm
    hnames.methodNamesApart hphp
  exact ⟨hcapabilities, by decide +kernel, by decide +kernel, hmethods, php, other, hphp, hother,
    hsame⟩

end SoapClasses
