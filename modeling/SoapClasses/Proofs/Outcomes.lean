import Mathlib.Data.List.Forall2

/-!
# Outcomes of computations

How the steps of a computation that can fail have ended when the computation has ended well, and which of
them has failed when it has not.
-/

namespace SoapClasses

variable {ε ε' α β : Type}

theorem bind_eq_ok_iff {outcome : Except ε α} {next : α → Except ε β} {result : β} :
    (outcome >>= next) = .ok result ↔ ∃ value, outcome = .ok value ∧ next value = .ok result := by
  cases outcome <;> simp [bind, Except.bind]

theorem bind_eq_error_iff {outcome : Except ε α} {next : α → Except ε β} {error : ε} :
    (outcome >>= next) = .error error ↔
      outcome = .error error ∨ ∃ value, outcome = .ok value ∧ next value = .error error := by
  cases outcome <;> simp [bind, Except.bind]

theorem check_bind_eq_ok_iff {check : Except ε Unit} {next : Unit → Except ε β} {result : β} :
    (check >>= next) = .ok result ↔ check = .ok () ∧ next () = .ok result := by
  rw [bind_eq_ok_iff]
  constructor
  · rintro ⟨_, hcheck, hnext⟩
    exact ⟨hcheck, hnext⟩
  · rintro ⟨hcheck, hnext⟩
    exact ⟨(), hcheck, hnext⟩

theorem exists_eq_ok_of_isOk {outcome : Except ε α} (h : outcome.isOk = true) :
    ∃ value, outcome = .ok value := by
  cases outcome with
  | error error => cases h
  | ok value => exact ⟨value, rfl⟩

theorem mapError_eq_ok_iff {outcome : Except ε α} {wrap : ε → ε'} {value : α} :
    outcome.mapError wrap = .ok value ↔ outcome = .ok value := by
  cases outcome <;> simp [Except.mapError]

theorem mapError_eq_error_iff {outcome : Except ε α} {wrap : ε → ε'} {error : ε'} :
    outcome.mapError wrap = .error error ↔ ∃ cause, outcome = .error cause ∧ wrap cause = error := by
  cases outcome <;> simp [Except.mapError]

theorem mapM_eq_ok_iff {step : α → Except ε β} {items : List α} {results : List β} :
    items.mapM step = .ok results ↔
      List.Forall₂ (fun item result => step item = .ok result) items results := by
  induction items generalizing results with
  | nil => simp [pure, Except.pure, eq_comm]
  | cons item rest ih =>
    rw [List.mapM_cons, bind_eq_ok_iff, List.forall₂_cons_left_iff]
    constructor
    · rintro ⟨value, hvalue, hrest⟩
      obtain ⟨values, hvalues, heq⟩ := bind_eq_ok_iff.mp hrest
      exact ⟨value, values, hvalue, ih.mp hvalues, (Except.ok.inj heq).symm⟩
    · rintro ⟨value, values, hvalue, hvalues, rfl⟩
      exact ⟨value, hvalue, bind_eq_ok_iff.mpr ⟨values, ih.mpr hvalues, rfl⟩⟩

theorem exists_mapM_eq_ok_iff {step : α → Except ε β} {items : List α} :
    (∃ results, items.mapM step = .ok results) ↔ ∀ item ∈ items, ∃ result, step item = .ok result := by
  simp only [mapM_eq_ok_iff]
  induction items with
  | nil => simp
  | cons item rest ih =>
    rw [List.forall_mem_cons, ← ih]
    constructor
    · rintro ⟨_, hall⟩
      obtain ⟨result, results, hitem, hrest, _⟩ := List.forall₂_cons_left_iff.mp hall
      exact ⟨⟨result, hitem⟩, results, hrest⟩
    · rintro ⟨⟨result, hitem⟩, results, hrest⟩
      exact ⟨result :: results, .cons hitem hrest⟩

/-- Mapping a list fails with the first of its members that cannot be mapped. -/
theorem mapM_eq_error_iff {step : α → Except ε β} {items : List α} {error : ε} :
    items.mapM step = .error error ↔ ∃ earlier item later, items = earlier ++ item :: later ∧
      (∀ other ∈ earlier, ∃ result, step other = .ok result) ∧ step item = .error error := by
  induction items with
  | nil => simp [pure, Except.pure]
  | cons first rest ih =>
    have hrest : ∀ value, (do let values ← rest.mapM step; pure (value :: values)) = .error error ↔
        rest.mapM step = .error error := by
      intro value
      rw [bind_eq_error_iff]
      exact or_iff_left fun ⟨_, _, hdone⟩ => by cases hdone
    rw [List.mapM_cons, bind_eq_error_iff]
    simp only [hrest, ih]
    constructor
    · rintro (hfirst | ⟨value, hvalue, earlier, item, later, rfl, hearlier, hitem⟩)
      · exact ⟨[], first, rest, rfl, fun _ hmem => absurd hmem List.not_mem_nil, hfirst⟩
      · exact ⟨first :: earlier, item, later, rfl,
          List.forall_mem_cons.mpr ⟨⟨value, hvalue⟩, hearlier⟩, hitem⟩
    · rintro ⟨earlier, item, later, hitems, hearlier, hitem⟩
      cases earlier with
      | nil =>
        obtain ⟨rfl, -⟩ := List.cons.inj hitems
        exact .inl hitem
      | cons _ earlier =>
        obtain ⟨rfl, rfl⟩ := List.cons.inj hitems
        obtain ⟨⟨value, hvalue⟩, hbefore⟩ := List.forall_mem_cons.mp hearlier
        exact .inr ⟨value, hvalue, earlier, item, later, rfl, hbefore, hitem⟩

end SoapClasses
