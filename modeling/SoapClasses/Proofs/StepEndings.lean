import SoapClasses.Assemblers
import SoapClasses.Proofs.NamingLaws
import SoapClasses.Proofs.ReferenceDrafts

/-!
# How steps end

A step that works on its context either refuses before it drafts anything, or it makes references first
and then writes members whose names have been checked. So it can only fail among its references, and
because of the name of a type.
-/

namespace SoapClasses

theorem requireIdentifier_eq_ok_iff (role : NameRole) (name : String) :
    requireIdentifier role name = .ok () ↔ isIdentifier name = true := by
  unfold requireIdentifier
  split <;> simp_all

theorem forM_requireIdentifier_eq_ok_iff {α : Type} (role : NameRole) (nameOf : α → String)
    (items : List α) :
    items.forM (fun item => requireIdentifier role (nameOf item)) = .ok () ↔
      ∀ item ∈ items, isIdentifier (nameOf item) = true := by
  induction items with
  | nil => simp [pure, Except.pure]
  | cons item rest ih =>
    rw [List.forall_mem_cons, ← ih, ← requireIdentifier_eq_ok_iff role]
    exact check_bind_eq_ok_iff

theorem forM_requireIdentifier_of_find? {α : Type} {role : NameRole} {nameOf : α → String}
    {items : List α} {item : α} (h : items.find? (fun item => !isIdentifier (nameOf item)) = some item) :
    items.forM (fun item => requireIdentifier role (nameOf item)) =
      .error (.invalidIdentifier role (nameOf item)) := by
  induction items with
  | nil => cases h
  | cons head rest ih =>
    cases hhead : isIdentifier (nameOf head) with
    | true =>
      have hrest := ih (by simpa [hhead] using h)
      have haccepted := (requireIdentifier_eq_ok_iff role (nameOf head)).mpr hhead
      show (requireIdentifier role (nameOf head) >>= fun _ => rest.forM _) = _
      rw [haccepted]
      exact hrest
    | false =>
      have hitem : head = item := by simpa [hhead] using h
      have hrefused : requireIdentifier role (nameOf head) =
          .error (.invalidIdentifier role (nameOf head)) := by simp [requireIdentifier, hhead]
      show (requireIdentifier role (nameOf head) >>= fun _ => rest.forM _) = _
      rw [hrefused, hitem]
      rfl

theorem Method.check_eq_ok_iff (method : Method) :
    method.check = .ok () ↔
      isIdentifier method.name = true ∧
        ∀ parameter ∈ method.parameters, isIdentifier parameter.name = true := by
  rw [← requireIdentifier_eq_ok_iff .method,
    ← forM_requireIdentifier_eq_ok_iff .parameter Parameter.name]
  exact check_bind_eq_ok_iff

namespace Draft

variable {ε ε' α : Type}

/-- The draft only adds, and on failure it has made references only. -/
structure AddsOnly (Blames : ε → Prop) (draft : Draft ε Unit) : Prop where
  additions : ∀ change ∈ draft.edits, change.IsAddition
  error : ∀ error, draft.outcome = .error error → Blames error
  references : ∀ error, draft.outcome = .error error → ∀ change ∈ draft.edits, change.IsReference

theorem RefersOnly.addsOnly {Blames : ε → Prop} {draft : Draft ε Unit}
    (h : draft.RefersOnly Blames) : draft.AddsOnly Blames where
  additions change hmem := (h.edits change hmem).isAddition
  error := h.error
  references _ _ := h.edits

theorem addsOnly_tell {Blames : ε → Prop} {changes : List ClassEdit}
    (h : ∀ change ∈ changes, change.IsAddition) :
    (tell changes : Draft ε Unit).AddsOnly Blames where
  additions := h
  error error heq := by cases heq
  references error heq := by cases heq

theorem RefersOnly.bind_addsOnly {Blames : ε → Prop} {first : Draft ε α} {next : α → Draft ε Unit}
    (h : first.RefersOnly Blames) (hnext : ∀ value, (next value).AddsOnly Blames) :
    (first >>= next).AddsOnly Blames := by
  cases ho : first.outcome with
  | error error =>
    rw [bind_of_error ho]
    refine ⟨fun change hmem => (h.edits change hmem).isAddition, ?_, fun _ _ => h.edits⟩
    intro other heq
    cases heq
    exact h.error error ho
  | ok value =>
    have hedits := edits_bind_of_ok ho next
    have houtcome := outcome_bind_of_ok ho next
    constructor
    · intro change hmem
      rw [hedits] at hmem
      rcases List.mem_append.mp hmem with hmem | hmem
      · exact (h.edits change hmem).isAddition
      · exact (hnext value).additions change hmem
    · intro error heq
      exact (hnext value).error error (houtcome ▸ heq)
    · intro error heq change hmem
      rw [hedits] at hmem
      rcases List.mem_append.mp hmem with hmem | hmem
      · exact h.edits change hmem
      · exact (hnext value).references error (houtcome ▸ heq) change hmem

theorem AddsOnly.mapError {Blames : ε → Prop} {Blames' : ε' → Prop} {draft : Draft ε Unit}
    (h : draft.AddsOnly Blames) (wrap : ε → ε')
    (hwrap : ∀ error, Blames error → Blames' (wrap error)) :
    (draft.mapError wrap).AddsOnly Blames' where
  additions := h.additions
  error error heq := by
    obtain ⟨cause, hcause, rfl⟩ := outcome_of_mapError_error heq
    exact hwrap cause (h.error cause hcause)
  references error heq := by
    obtain ⟨cause, hcause, _⟩ := outcome_of_mapError_error heq
    exact h.references cause hcause

end Draft

open Draft

theorem addsOnly_edit_edit {Blames : NamingError → Prop} {first next : ClassEdit}
    (hf : first.check = .ok ()) (hn : next.check = .ok ()) (hfa : first.IsAddition)
    (hna : next.IsAddition) :
    AddsOnly Blames (do Draft.edit first; Draft.edit next) := by
  rw [edit_of_check hf, edit_of_check hn]
  apply addsOnly_tell
  intro change hmem
  rcases List.mem_cons.mp hmem with rfl | hmem
  · exact hfa
  · rw [List.mem_singleton.mp hmem]
    exact hna

theorem addsOnly_putMethod {Blames : NamingError → Prop} {method : Method}
    (h : (ClassEdit.putMethod method).check = .ok ()) :
    AddsOnly Blames (Draft.edit (.putMethod method)) := by
  rw [edit_of_check h]
  apply addsOnly_tell
  intro change hmem
  rw [List.mem_singleton.mp hmem]
  trivial

/-- What holds of the drafts of a step on contexts that it works on. -/
structure Draft.EndsWell (owner : ClassIdentity) (draft : Draft AssemblyError Unit) : Prop where
  additions : ∀ change ∈ draft.edits, change.IsAddition
  error : ∀ error, draft.outcome = .error error →
    ∃ step member cause, error = .generation step owner.qualifiedName member cause ∧
      (∀ change ∈ draft.edits, change.IsReference) ∧ (cause.ConcernsType ∨ draft.edits = [])

theorem Draft.AddsOnly.endsWell {owner : ClassIdentity} {draft : Draft AssemblyError Unit}
    (h : draft.AddsOnly (AssemblyError.BlamesType owner)) : draft.EndsWell owner where
  additions := h.additions
  error error heq := by
    have hblame := h.error error heq
    cases error with
    | contextMismatch _ _ _ => exact hblame.elim
    | generation step className member cause =>
      obtain ⟨rfl, hcause⟩ := hblame
      exact ⟨step, member, cause, rfl, h.references _ heq, .inl hcause⟩

theorem Draft.endsWell_fail (owner : ClassIdentity) (step member : String) (cause : NamingError) :
    EndsWell owner (.fail (.generation step owner.qualifiedName member cause)) where
  additions change hmem := by cases hmem
  error error heq := by
    cases heq
    refine ⟨step, member, cause, rfl, ?_, .inr rfl⟩
    intro change hmem
    cases hmem

section

variable (owner : ClassIdentity)

theorem endsWell_draftConstructor : (draftConstructor owner).EndsWell owner := by
  apply AddsOnly.endsWell
  refine AddsOnly.mapError ?_ _ (fun (cause : NamingError) (h : cause.ConcernsType) => ⟨rfl, h⟩)
  apply (refersOnly_referTo _ _ _).bind_addsOnly
  intro caller
  have hfield : isIdentifier callerName = true := by decide
  have hmethod : isIdentifier constructorName = true := by decide
  refine addsOnly_edit_edit ?_ ?_ (by trivial) (by trivial)
  · exact (requireIdentifier_eq_ok_iff .property callerName).mpr hfield
  · apply (Method.check_eq_ok_iff _).mpr
    refine ⟨hmethod, ?_⟩
    intro parameter hmem
    rw [List.mem_singleton.mp hmem]
    exact hfield

theorem ArgumentShape.isIdentifier_of_mem_parameters {arguments : List Argument}
    (harguments : ∀ argument ∈ arguments, isIdentifier argument.name = true) :
    ∀ parameter ∈ (ofArguments arguments).parameters, isIdentifier parameter.name = true := by
  intro parameter hmem
  unfold ofArguments at hmem
  split at hmem
  · cases hmem
  · rename_i argument
    rw [List.mem_singleton.mp hmem]
    exact harguments argument List.mem_cons_self
  · rw [List.mem_singleton.mp hmem]
    decide

/-- The edits of an accepted list of arguments can only fail among their references: the method that is
written has the checked name, and parameters with checked names or the fixed one. -/
theorem Operation.addsOnly_draftMethod (operation : Operation) (name : String)
    (hname : isIdentifier name = true)
    (harguments : ∀ argument ∈ operation.arguments, isIdentifier argument.name = true) :
    (operation.draftMethod owner name).AddsOnly NamingError.ConcernsType := by
  have haccepted := (forM_requireIdentifier_eq_ok_iff .parameter Argument.name
    operation.arguments).mpr harguments
  unfold Operation.draftMethod
  rw [haccepted]
  apply (operation.refersOnly_methodDoc owner _).bind_addsOnly
  intro doc
  apply (ArgumentShape.refersOnly_callArgument owner _).bind_addsOnly
  intro argument
  apply addsOnly_putMethod
  exact (Method.check_eq_ok_iff _).mpr
    ⟨hname, ArgumentShape.isIdentifier_of_mem_parameters harguments⟩

theorem draftOperation_of_methodName {operation : Operation} {name : String}
    (h : methodName operation.name = .ok name) :
    draftOperation owner operation =
      .mapError (.generation "ClientMethodAssembler" owner.qualifiedName name)
        (operation.draftMethod owner name) := by
  simp [draftOperation, h, Draft.ofExcept, Draft.mapError, Except.mapError, bind, Draft.andThen]

theorem endsWell_draftOperation (operation : Operation) :
    (draftOperation owner operation).EndsWell owner := by
  cases hname : methodName operation.name with
  | error cause =>
    have hfail : draftOperation owner operation =
        .fail (.generation "ClientMethodAssembler" owner.qualifiedName operation.name cause) := by
      simp [draftOperation, hname, Draft.ofExcept, Draft.mapError, Except.mapError, Draft.fail, bind,
        Draft.andThen]
    rw [hfail]
    exact endsWell_fail owner _ _ _
  | ok name =>
    rw [draftOperation_of_methodName owner hname]
    cases harguments : operation.arguments.forM
        (fun argument => requireIdentifier .parameter argument.name) with
    | error cause =>
      have hfail : operation.draftMethod owner name = .fail cause := by
        simp [Operation.draftMethod, harguments, Draft.ofExcept, Draft.fail, bind, Draft.andThen]
      rw [hfail]
      exact endsWell_fail owner _ _ _
    | ok _ =>
      apply AddsOnly.endsWell
      have hidentifiers := (forM_requireIdentifier_eq_ok_iff .parameter Argument.name
        operation.arguments).mp harguments
      exact (operation.addsOnly_draftMethod owner name (isIdentifier_of_methodName hname)
        hidentifiers).mapError _ (fun (cause : NamingError) (h : cause.ConcernsType) => ⟨rfl, h⟩)

theorem draftField_of_isIdentifier {settings : FieldSettings} {property : SchemaProperty}
    (h : isIdentifier property.name = true) :
    draftField owner settings property = ⟨[.putField (property.field settings)], .ok ()⟩ := by
  have hcheck : (ClassEdit.putField (property.field settings)).check = .ok () :=
    (requireIdentifier_eq_ok_iff .property _).mpr h
  unfold draftField
  rw [edit_of_check hcheck]
  rfl

theorem draftField_of_not_isIdentifier {settings : FieldSettings} {property : SchemaProperty}
    (h : isIdentifier property.name = false) :
    draftField owner settings property =
      .fail (.generation "PropertyAssembler" owner.qualifiedName property.name
        (.invalidIdentifier .property property.name)) := by
  simp [draftField, Draft.edit, ClassEdit.check, Field.check, SchemaProperty.field,
    requireIdentifier, h, Draft.mapError, Draft.fail, Except.mapError]

theorem endsWell_draftField (settings : FieldSettings) (property : SchemaProperty) :
    (draftField owner settings property).EndsWell owner := by
  cases h : isIdentifier property.name with
  | true =>
    rw [draftField_of_isIdentifier owner h]
    apply AddsOnly.endsWell
    apply addsOnly_tell
    intro change hmem
    rw [List.mem_singleton.mp hmem]
    trivial
  | false =>
    rw [draftField_of_not_isIdentifier owner h]
    exact endsWell_fail owner _ _ _

theorem check_of_capability {method : Method} {name : String} (hidentifier : isIdentifier name = true)
    (hname : method.name = name) (hparameters : method.parameters = []) :
    (ClassEdit.putMethod method).check = .ok () := by
  apply (Method.check_eq_ok_iff method).mpr
  refine ⟨hname ▸ hidentifier, ?_⟩
  intro parameter hmem
  rw [hparameters] at hmem
  cases hmem

theorem SchemaProperty.name_resultMethod (property : SchemaProperty) (wrapper : Option String) :
    (property.resultMethod wrapper).name = "getResult" := by
  cases wrapper <;> rfl

theorem SchemaProperty.parameters_resultMethod (property : SchemaProperty)
    (wrapper : Option String) : (property.resultMethod wrapper).parameters = [] := by
  cases wrapper <;> rfl

theorem endsWell_draftIterator (schema : SchemaType) :
    (draftIterator owner schema).EndsWell owner := by
  apply AddsOnly.endsWell
  apply (refersOnly_draftInterface owner _).bind_addsOnly
  intro _
  split
  · exact (refersOnly_done ()).addsOnly
  · rename_i first rest heq
    refine AddsOnly.mapError ?_ _ (fun (cause : NamingError) (h : cause.ConcernsType) => ⟨rfl, h⟩)
    have hidentifier : isIdentifier "getIterator" = true := by decide
    exact addsOnly_edit_edit (check_of_capability hidentifier rfl rfl) rfl (by trivial) (by trivial)

theorem endsWell_draftSerialization (schema : SchemaType) :
    (draftSerialization owner schema).EndsWell owner := by
  apply AddsOnly.endsWell
  apply (refersOnly_draftInterface owner _).bind_addsOnly
  intro _
  refine AddsOnly.mapError ?_ _ (fun (cause : NamingError) (h : cause.ConcernsType) => ⟨rfl, h⟩)
  have hidentifier : isIdentifier "jsonSerialize" = true := by decide
  exact addsOnly_putMethod (check_of_capability hidentifier rfl rfl)

theorem endsWell_draftResultProvider (wrapper : Option String) (schema : SchemaType) :
    (draftResultProvider owner wrapper schema).EndsWell owner := by
  apply AddsOnly.endsWell
  apply (refersOnly_draftInterface owner _).bind_addsOnly
  intro _
  split
  · exact (refersOnly_done ()).addsOnly
  · rename_i first rest heq
    apply (refersOnly_draftImport owner _ none).bind_addsOnly
    intro _
    refine AddsOnly.mapError ?_ _ (fun (cause : NamingError) (h : cause.ConcernsType) => ⟨rfl, h⟩)
    have hidentifier : isIdentifier "getResult" = true := by decide
    exact addsOnly_putMethod (check_of_capability hidentifier (first.name_resultMethod _)
      (first.parameters_resultMethod _))

end

/-- An assembler with a context of a kind that it works on. -/
inductive Assembler.WorksOn : Assembler → GenerationContext → Prop
  | clientConstructor : WorksOn .clientConstructor .client
  | clientMethod (operation : Operation) : WorksOn .clientMethod (.operation operation)
  | property (settings : FieldSettings) (schema : SchemaType) (property : SchemaProperty) :
    WorksOn (.property settings) (.property schema property)
  | interface (name : String) (schema : SchemaType) : WorksOn (.interface name) (.schemaType schema)
  | useOnType (name : String) (aliasName : Option String) (schema : SchemaType) :
    WorksOn (.use name aliasName) (.schemaType schema)
  | useOnProperty (name : String) (aliasName : Option String) (schema : SchemaType)
    (property : SchemaProperty) : WorksOn (.use name aliasName) (.property schema property)
  | iterator (schema : SchemaType) : WorksOn .iterator (.schemaType schema)
  | jsonSerializable (schema : SchemaType) : WorksOn .jsonSerializable (.schemaType schema)
  | resultProvider (wrapper : Option String) (schema : SchemaType) :
    WorksOn (.resultProvider wrapper) (.schemaType schema)

theorem Assembler.worksOn_of_accepts {assembler : Assembler} {context : GenerationContext}
    (h : assembler.accepts context.kind = true) : assembler.WorksOn context := by
  cases assembler
  all_goals cases context
  all_goals first | constructor | exact absurd h Bool.false_ne_true

/-- Every assembler ends well on every context that it accepts. -/
theorem Assembler.endsWell_draft (owner : ClassIdentity) (assembler : Assembler)
    (context : GenerationContext) (h : assembler.accepts context.kind = true) :
    (assembler.draft owner context).EndsWell owner := by
  cases worksOn_of_accepts h with
  | clientConstructor => exact endsWell_draftConstructor owner
  | clientMethod operation => exact endsWell_draftOperation owner operation
  | property settings schema property => exact endsWell_draftField owner settings property
  | interface name schema => exact (refersOnly_draftInterface owner name).addsOnly.endsWell
  | useOnType name aliasName schema =>
    exact (refersOnly_draftImport owner name aliasName).addsOnly.endsWell
  | useOnProperty name aliasName schema property =>
    exact (refersOnly_draftImport owner name aliasName).addsOnly.endsWell
  | iterator schema => exact endsWell_draftIterator owner schema
  | jsonSerializable schema => exact endsWell_draftSerialization owner schema
  | resultProvider wrapper schema => exact endsWell_draftResultProvider owner wrapper schema

theorem Assembler.draft_of_not_accepts (owner : ClassIdentity) (assembler : Assembler)
    (context : GenerationContext) (h : assembler.accepts context.kind = false) :
    assembler.draft owner context =
      .fail (.contextMismatch assembler.name assembler.expected context.kind) := by
  unfold draft
  split
  all_goals first | exact absurd h.symm Bool.false_ne_true | rfl

end SoapClasses
