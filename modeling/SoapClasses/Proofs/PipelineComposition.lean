import SoapClasses.Assemblers

/-!
# Composition of pipelines

Pipelines that stand one behind the other run one after the other: the second one starts from the class
that the first one leaves, and it does not start when the first one has failed. Whether an assembler works
on a context is asked before each step, but no step changes the answer. So the assemblers that do not work
on the context may as well be left out, and a run that succeeds has counted the others.
-/

namespace SoapClasses

/-- Goes on from the class that a run has left, unless the run has failed; the assemblers that ran are
counted together. -/
def followedBy (run : Except AssemblyError Nat × PhpClass)
    (next : PhpClass → Except AssemblyError Nat × PhpClass) : Except AssemblyError Nat × PhpClass :=
  match run with
  | (.ok count, php) => ((next php).1.map (count + ·), (next php).2)
  | (.error error, php) => (.error error, php)

section

variable (run : Except AssemblyError Nat × PhpClass)
  (next last : PhpClass → Except AssemblyError Nat × PhpClass)

theorem ok_zero_followedBy (php : PhpClass) : followedBy (.ok 0, php) next = next php := by
  simp only [followedBy]
  cases hnext : next php with
  | mk outcome php => cases outcome <;> simp [Except.map]

theorem followedBy_assoc :
    followedBy (followedBy run next) last = followedBy run (fun php => followedBy (next php) last) := by
  obtain ⟨outcome, php⟩ := run
  cases outcome with
  | error error => rfl
  | ok count =>
    simp only [followedBy]
    cases next php with
    | mk outcome php =>
      cases outcome with
      | error error => rfl
      | ok more =>
        cases hlast : last php with
        | mk outcome php => cases outcome <;> simp [Except.map, hlast, Nat.add_assoc]

theorem followedBy_eq_ok_iff {total : Nat} {php : PhpClass} :
    followedBy run next = (.ok total, php) ↔
      ∃ count middle more, run = (.ok count, middle) ∧ next middle = (.ok more, php) ∧
        total = count + more := by
  obtain ⟨outcome, middle⟩ := run
  cases outcome with
  | error error => simp [followedBy]
  | ok count =>
    constructor
    · intro h
      cases hnext : next middle with
      | mk outcome last =>
        cases outcome with
        | error error => simp [followedBy, hnext, Except.map] at h
        | ok more =>
          simp only [followedBy, hnext, Except.map, Prod.mk.injEq, Except.ok.injEq] at h
          obtain ⟨rfl, rfl⟩ := h
          exact ⟨count, middle, more, rfl, hnext, rfl⟩
    · rintro ⟨_, _, more, heq, hnext, rfl⟩
      cases heq
      simp [followedBy, hnext, Except.map]

end

variable (assembler : Assembler) (first rest : List Assembler) (context : GenerationContext) (php : PhpClass)

theorem runPipeline_of_not_accepts (h : assembler.accepts context.kind = false) :
    runPipeline (assembler :: rest) context php = runPipeline rest context php := by
  rw [runPipeline, h, if_neg Bool.false_ne_true]

/-- One step of a run: an assembler that works on the context counts as one. -/
theorem runPipeline_of_accepts (h : assembler.accepts context.kind = true) :
    runPipeline (assembler :: rest) context php =
      followedBy ((assembler.assemble context php).1.map (fun _ => 1), (assembler.assemble context php).2)
        (runPipeline rest context) := by
  rw [runPipeline, if_pos h]
  obtain ⟨outcome, next⟩ := assembler.assemble context php
  cases outcome with
  | error error => rfl
  | ok value =>
    cases hrest : runPipeline rest context next with
    | mk outcome last => cases outcome <;> simp [followedBy, Except.map, hrest, Nat.add_comm]

theorem runPipeline_singleton : runPipeline [assembler] context php =
    if assembler.accepts context.kind = true then
      ((assembler.assemble context php).1.map (fun _ => 1), (assembler.assemble context php).2)
    else (.ok 0, php) := by
  cases haccepts : assembler.accepts context.kind with
  | false =>
    rw [runPipeline_of_not_accepts _ _ _ _ haccepts, if_neg Bool.false_ne_true]
    rfl
  | true =>
    rw [runPipeline_of_accepts _ _ _ _ haccepts, if_pos rfl]
    obtain ⟨outcome, next⟩ := assembler.assemble context php
    cases outcome <;> rfl

theorem runPipeline_append : runPipeline (first ++ rest) context php =
    followedBy (runPipeline first context php) (runPipeline rest context) := by
  induction first generalizing php with
  | nil => exact (ok_zero_followedBy _ php).symm
  | cons assembler first ih =>
    cases haccepts : assembler.accepts context.kind with
    | false =>
      rw [List.cons_append, runPipeline_of_not_accepts _ _ _ _ haccepts,
        runPipeline_of_not_accepts _ _ _ _ haccepts, ih]
    | true =>
      rw [List.cons_append, runPipeline_of_accepts _ _ _ _ haccepts,
        runPipeline_of_accepts _ _ _ _ haccepts, followedBy_assoc]
      exact congrArg _ (funext ih)

theorem runPipeline_filter_accepts :
    runPipeline (first.filter (·.accepts context.kind)) context php =
      runPipeline first context php := by
  induction first generalizing php with
  | nil => rfl
  | cons assembler first ih =>
    cases haccepts : assembler.accepts context.kind with
    | false =>
      rw [List.filter_cons_of_neg (by simp [haccepts]), runPipeline_of_not_accepts _ _ _ _ haccepts, ih]
    | true =>
      have hkept : (assembler :: first).filter (·.accepts context.kind) =
          assembler :: first.filter (·.accepts context.kind) := by
        simp [haccepts]
      rw [hkept, runPipeline_of_accepts _ _ _ _ haccepts, runPipeline_of_accepts _ _ _ _ haccepts]
      exact congrArg _ (funext ih)

theorem count_of_runPipeline {count : Nat} {last : PhpClass}
    (h : runPipeline first context php = (.ok count, last)) :
    count = first.countP (·.accepts context.kind) := by
  induction first generalizing php count with
  | nil =>
    cases h
    rfl
  | cons assembler first ih =>
    cases haccepts : assembler.accepts context.kind with
    | false =>
      rw [runPipeline_of_not_accepts _ _ _ _ haccepts] at h
      rw [List.countP_cons_of_neg (by simp [haccepts])]
      exact ih php h
    | true =>
      rw [runPipeline_of_accepts _ _ _ _ haccepts] at h
      obtain ⟨one, middle, more, hstep, hrest, rfl⟩ := (followedBy_eq_ok_iff _ _).mp h
      have hone : one = 1 := by
        cases hrun : assembler.assemble context php with
        | mk outcome next => cases outcome <;> simp_all [Except.map]
      rw [hone, ih middle hrest, List.countP_cons, if_pos haccepts, Nat.add_comm]

/-- A pipeline of one assembler runs it if it works on the context and passes it over otherwise. A pipeline
made of two fails as the first one does, and otherwise it is a run of the second one on what the first one
has left, with both counts together. The count of a run is that of the assemblers that work on the context,
and the others can be left out. -/
theorem runPipeline_composes :
    (∀ assembler, runPipeline [assembler] context php =
      if assembler.accepts context.kind = true then
        ((assembler.assemble context php).1.map (fun _ => 1), (assembler.assemble context php).2)
      else (.ok 0, php)) ∧
    (∀ error last, runPipeline first context php = (.error error, last) →
      runPipeline (first ++ rest) context php = (.error error, last)) ∧
    (∀ count next, runPipeline first context php = (.ok count, next) →
      runPipeline (first ++ rest) context php =
        ((runPipeline rest context next).1.map (count + ·), (runPipeline rest context next).2)) ∧
    (∀ count last, runPipeline first context php = (.ok count, last) →
      count = first.countP (·.accepts context.kind)) ∧
    runPipeline (first.filter (·.accepts context.kind)) context php = runPipeline first context php := by
  refine ⟨?_, ?_, ?_, ?_, runPipeline_filter_accepts first context php⟩
  · exact fun assembler => runPipeline_singleton assembler context php
  · intro error last h
    rw [runPipeline_append, h, followedBy]
  · intro count next h
    rw [runPipeline_append, h, followedBy]
  · exact fun count last h => count_of_runPipeline first context php h

/-- A type with one property. -/
def orderContext : GenerationContext :=
  .schemaType ⟨"App", "Order", [⟨"number", "int", "", {}⟩], "Order", List.pairwise_singleton _ _⟩

/-- A pipeline in which the step for clients is passed over for a type and another one goes on behind it,
and a pipeline that fails in its first part, so that the step behind it is not run. -/
theorem runPipeline_composes_orderContext :
    (∃ next, runPipeline [.clientConstructor, .iterator] orderContext (.fresh "Order" "App") = (.ok 1, next) ∧
      next.methods.toList.map Method.name = ["getIterator"] ∧
      runPipeline [.clientConstructor, .iterator, .jsonSerializable] orderContext (.fresh "Order" "App") =
        (((Assembler.jsonSerializable.assemble orderContext next).1.map (fun _ => 1)).map (1 + ·),
          (Assembler.jsonSerializable.assemble orderContext next).2)) ∧
    ∃ error last, runPipeline [.jsonSerializable, .resultProvider (some "1")] orderContext
          (.fresh "Order" "App") = (.error error, last) ∧
      last.methods.toList.map Method.name = ["jsonSerialize"] ∧
      runPipeline [.jsonSerializable, .resultProvider (some "1"), .iterator] orderContext
        (.fresh "Order" "App") = (.error error, last) := by
  constructor
  · obtain ⟨-, -, hgoes, hcounts, -⟩ := runPipeline_composes [.clientConstructor, .iterator]
      [.jsonSerializable] orderContext (.fresh "Order" "App")
    have hran : (runPipeline [.clientConstructor, .iterator] orderContext
          (.fresh "Order" "App")).1.isOk = true ∧
        (runPipeline [.clientConstructor, .iterator] orderContext
          (.fresh "Order" "App")).2.methods.toList.map Method.name = ["getIterator"] := by
      decide +kernel
    cases hrun : runPipeline [.clientConstructor, .iterator] orderContext (.fresh "Order" "App") with
    | mk outcome next =>
      rw [hrun] at hran
      cases outcome with
      | error error => cases hran.1
      | ok count =>
        have hone : count = 1 := (hcounts count next hrun).trans (by decide)
        have haccepts : Assembler.jsonSerializable.accepts orderContext.kind = true := by decide
        have hlast := (runPipeline_composes [] [] orderContext next).1 .jsonSerializable
        rw [if_pos haccepts] at hlast
        have hgone := hgoes count next hrun
        rw [hlast, hone] at hgone
        exact ⟨next, by rw [hone], hran.2, hgone⟩
  · obtain ⟨-, hfails, -⟩ := runPipeline_composes [.jsonSerializable, .resultProvider (some "1")]
      [.iterator] orderContext (.fresh "Order" "App")
    have hran : (runPipeline [.jsonSerializable, .resultProvider (some "1")] orderContext
          (.fresh "Order" "App")).1.isOk = false ∧
        (runPipeline [.jsonSerializable, .resultProvider (some "1")] orderContext
          (.fresh "Order" "App")).2.methods.toList.map Method.name = ["jsonSerialize"] := by
      decide +kernel
    cases hrun : runPipeline [.jsonSerializable, .resultProvider (some "1")] orderContext
        (.fresh "Order" "App") with
    | mk outcome last =>
      rw [hrun] at hran
      cases outcome with
      | ok count => cases hran.1
      | error error => exact ⟨error, last, rfl, hran.2, hfails error last hrun⟩

end SoapClasses
