import SoapClasses.Identifiers
import SoapClasses.NamingConventions

/-!
# Tables of the case mappings

What holds of all letters that the case mappings give. A run of a table gives a stretch of code points,
which is compared as a whole with the stretches of the other tables: whether letters cover it, and
whether a run of the same table takes any of its points further. So a mapping is known for each of its
runs, and from that for each character.
-/

namespace SoapClasses

namespace CaseRun

/-- The code points that a run gives. -/
def images (run : CaseRun) : List Nat :=
  (List.range ((run.last - run.first) / run.step + 1)).map (fun k => run.image + k * run.step)

def lastImage (run : CaseRun) : Nat :=
  run.image + (run.last - run.first)

theorem mem_images {run : CaseRun} {n : Nat} (h : n ∈ run.images) :
    run.image ≤ n ∧ n ≤ run.lastImage ∧ (n - run.image) % run.step = 0 := by
  obtain ⟨k, hk, rfl⟩ := List.mem_map.mp h
  have hstep : k * run.step ≤ run.last - run.first :=
    Nat.le_trans (Nat.mul_le_mul_right _ (Nat.lt_succ_iff.mp (List.mem_range.mp hk)))
      (Nat.div_mul_le_self _ _)
  refine ⟨Nat.le_add_right _ _, Nat.add_le_add_left hstep _, ?_⟩
  rw [Nat.add_sub_cancel_left, Nat.mul_mod_left]

end CaseRun

theorem caseImage_cons (run : CaseRun) (runs : List CaseRun) (n : Nat) :
    caseImage (run :: runs) n =
      if n ≤ run.last then
        if run.first ≤ n ∧ (n - run.first) % run.step = 0 then some (run.image + (n - run.first))
        else none
      else caseImage runs n := by
  simp [caseImage, Bool.cond_eq_ite]

theorem expansionOf_cons (point : Nat) (image : List Nat) (rest : List (Nat × List Nat)) (n : Nat) :
    expansionOf ((point, image) :: rest) n =
      if n ≤ point then if n = point then some image else none else expansionOf rest n := by
  simp [expansionOf, Bool.cond_eq_ite]

theorem CodeIntervals.covers_cons (first last : Nat) (rest : CodeIntervals) (n : Nat) :
    CodeIntervals.covers ((first, last) :: rest) n =
      if n ≤ last then Nat.ble first n else CodeIntervals.covers rest n := by
  simp [CodeIntervals.covers, Bool.cond_eq_ite]

theorem exists_mem_images_of_caseImage {runs : List CaseRun} {n image : Nat}
    (h : caseImage runs n = some image) : ∃ run ∈ runs, image ∈ run.images := by
  induction runs with
  | nil => cases h
  | cons run runs ih =>
    rw [caseImage_cons] at h
    by_cases hlast : n ≤ run.last
    · rw [if_pos hlast] at h
      split at h
      · rename_i hon
        refine ⟨run, List.mem_cons_self, List.mem_map.mpr ⟨(n - run.first) / run.step, ?_, ?_⟩⟩
        · exact List.mem_range.mpr (Nat.lt_succ_of_le
            (Nat.div_le_div_right (Nat.sub_le_sub_right hlast _)))
        · rw [Nat.div_mul_cancel (Nat.dvd_of_mod_eq_zero hon.2)]
          exact Option.some.inj h
      · cases h
    · rw [if_neg hlast] at h
      obtain ⟨other, hmem, himage⟩ := ih h
      exact ⟨other, List.mem_cons_of_mem _ hmem, himage⟩

theorem mem_of_expansionOf {expansions : List (Nat × List Nat)} {n : Nat} {image : List Nat}
    (h : expansionOf expansions n = some image) : (n, image) ∈ expansions := by
  induction expansions with
  | nil => cases h
  | cons entry rest ih =>
    obtain ⟨point, spelled⟩ := entry
    rw [expansionOf_cons] at h
    split at h
    · split at h
      · rename_i hpoint
        rw [hpoint, ← Option.some.inj h]
        exact List.mem_cons_self
      · cases h
    · exact List.mem_cons_of_mem _ (ih h)

/-- What holds of a character that stands for itself, of those that the runs give and of the expansions
holds of each spelling: of its first character and the rest of it. -/
theorem exists_spelling_eq {runs : List CaseRun} {expansions : List (Nat × List Nat)} {c : Char}
    {P : Char → List Char → Prop}
    (hself : caseImage runs c.toNat = none → expansionOf expansions c.toNat = none → P c [])
    (hrun : ∀ run ∈ runs, ∀ image ∈ run.images, caseImage runs c.toNat = some image →
      P (Char.ofNat image) [])
    (hexpansion : ∀ entry ∈ expansions, entry.1 = c.toNat →
      entry.2 ≠ [] ∧ P (Char.ofNat (entry.2.headD 0)) (entry.2.tail.map Char.ofNat)) :
    ∃ first rest, spelling runs expansions c = first :: rest ∧ P first rest := by
  unfold spelling
  cases himage : caseImage runs c.toNat with
  | some image =>
    obtain ⟨run, hmem, hon⟩ := exists_mem_images_of_caseImage himage
    exact ⟨_, [], rfl, hrun run hmem image hon himage⟩
  | none =>
    cases hspelled : expansionOf expansions c.toNat with
    | none => exact ⟨c, [], rfl, hself himage hspelled⟩
    | some image =>
      obtain ⟨hne, hspells⟩ := hexpansion _ (mem_of_expansionOf hspelled) rfl
      obtain ⟨point, points, rfl⟩ := List.exists_cons_of_ne_nil hne
      exact ⟨_, _, rfl, hspells⟩

/-- Whether one interval of the list holds all points from `low` to `high`. -/
def CodeIntervals.coversRange : CodeIntervals → Nat → Nat → Bool
  | [], _, _ => false
  | (first, last) :: rest, low, high =>
    bif Nat.ble low last then Nat.ble first low && Nat.ble high last
    else CodeIntervals.coversRange rest low high

theorem CodeIntervals.covers_of_coversRange {intervals : CodeIntervals} {low high n : Nat}
    (h : intervals.coversRange low high = true) (hlow : low ≤ n) (hhigh : n ≤ high) :
    intervals.covers n = true := by
  induction intervals with
  | nil => cases h
  | cons head rest ih =>
    obtain ⟨first, last⟩ := head
    simp only [CodeIntervals.coversRange, Bool.cond_eq_ite, Nat.ble_eq] at h
    rw [CodeIntervals.covers_cons]
    split at h
    · rw [Bool.and_eq_true, Nat.ble_eq, Nat.ble_eq] at h
      rw [if_pos (by omega), Nat.ble_eq]
      omega
    · rw [if_neg (by omega)]
      exact ih h

/-- Whether no run holds a point that is reached from `low` in such steps, up to `high`. A run may hold
every second point if the others are reached. -/
def outsideRuns (step low high : Nat) : List CaseRun → Bool
  | [] => true
  | run :: runs =>
    bif Nat.blt run.last low then outsideRuns step low high runs
    else Nat.ble high run.last && (Nat.blt high run.first ||
      (Nat.beq run.step 2 && Nat.beq ((low + run.first) % 2) 1 &&
        (Nat.beq step 2 || Nat.beq low high)))

theorem caseImage_eq_none_of_outsideRuns {runs : List CaseRun} {step low high n : Nat}
    (h : outsideRuns step low high runs = true) (hlow : low ≤ n) (hhigh : n ≤ high)
    (hstep : (n - low) % step = 0) : caseImage runs n = none := by
  induction runs with
  | nil => rfl
  | cons run runs ih =>
    simp only [outsideRuns, Bool.cond_eq_ite, Nat.blt_eq] at h
    rw [caseImage_cons]
    split at h
    · rw [if_neg (by omega)]
      exact ih h
    · simp only [Bool.and_eq_true, Bool.or_eq_true, Nat.ble_eq, Nat.blt_eq, Nat.beq_eq] at h
      obtain ⟨hlast, hbelow | ⟨⟨htwo, hodd⟩, hsteps⟩⟩ := h
      · rw [if_pos (by omega), if_neg (by omega)]
      · have heven : (n - low) % 2 = 0 := by
          rcases hsteps with hsteps | hsteps
          · rwa [hsteps] at hstep
          · omega
        rw [if_pos (by omega), htwo, if_neg (by omega)]

/-- Whether no point from `low` to `high` has an expansion. -/
def outsideExpansions (low high : Nat) : List (Nat × List Nat) → Bool
  | [] => true
  | (point, _) :: rest =>
    bif Nat.blt point low then outsideExpansions low high rest else Nat.blt high point

theorem expansionOf_eq_none_of_outsideExpansions {expansions : List (Nat × List Nat)} {low high n : Nat}
    (h : outsideExpansions low high expansions = true) (hlow : low ≤ n) (hhigh : n ≤ high) :
    expansionOf expansions n = none := by
  induction expansions with
  | nil => rfl
  | cons entry rest ih =>
    obtain ⟨point, spelled⟩ := entry
    simp only [outsideExpansions, Bool.cond_eq_ite, Nat.blt_eq] at h
    rw [expansionOf_cons]
    split at h
    · rw [if_neg (by omega)]
      exact ih h
    · rw [Nat.blt_eq] at h
      rw [if_pos (by omega), if_neg (by omega)]

namespace CaseRun

/-- Whether a run gives letters only. -/
def givesLetters (run : CaseRun) : Bool :=
  alphabeticIntervals.coversRange run.image run.lastImage || run.images.all alphabeticIntervals.covers

/-- Whether upper case takes nothing further that a run gives. -/
def givesCapitals (run : CaseRun) : Bool :=
  outsideRuns run.step run.image run.lastImage uppercaseRuns &&
    outsideExpansions run.image run.lastImage uppercaseExpansions

variable {run : CaseRun} {n : Nat}

theorem covers_of_givesLetters (h : run.givesLetters = true) (hmem : n ∈ run.images) :
    alphabeticIntervals.covers n = true := by
  obtain ⟨hlow, hhigh, -⟩ := mem_images hmem
  rcases Bool.or_eq_true_iff.mp h with hrange | hall
  · exact CodeIntervals.covers_of_coversRange hrange hlow hhigh
  · exact List.all_eq_true.mp hall n hmem

theorem eq_none_of_givesCapitals (h : run.givesCapitals = true) (hmem : n ∈ run.images) :
    caseImage uppercaseRuns n = none ∧ expansionOf uppercaseExpansions n = none := by
  obtain ⟨hlow, hhigh, hstep⟩ := mem_images hmem
  obtain ⟨hruns, hexpansions⟩ := Bool.and_eq_true_iff.mp h
  exact ⟨caseImage_eq_none_of_outsideRuns hruns hlow hhigh hstep,
    expansionOf_eq_none_of_outsideExpansions hexpansions hlow hhigh⟩

end CaseRun

theorem givesLetters_uppercaseRuns : uppercaseRuns.all CaseRun.givesLetters = true := by
  decide +kernel

theorem givesCapitals_uppercaseRuns : uppercaseRuns.all CaseRun.givesCapitals = true := by
  decide +kernel

theorem givesLetters_lowercaseRuns : lowercaseRuns.all CaseRun.givesLetters = true := by
  decide +kernel

theorem toNat_ofNat_of_covers {n : Nat} (h : alphabeticIntervals.covers n = true) :
    (Char.ofNat n).toNat = n := by
  have hvalid : ∀ interval ∈ alphabeticIntervals, interval.2 < 0xD800 ∨
      0xDFFF < interval.1 ∧ interval.2 < 0x110000 := by
    decide +kernel
  obtain ⟨interval, hmem, hlow, hhigh⟩ := CodeIntervals.exists_of_covers h
  have hchar : n.isValidChar := by
    rcases hvalid interval hmem with hbelow | ⟨habove, hbelow⟩
    · exact .inl (Nat.lt_of_le_of_lt hhigh hbelow)
    · exact .inr ⟨Nat.lt_of_lt_of_le habove hlow, Nat.lt_of_le_of_lt hhigh hbelow⟩
  unfold Char.ofNat
  rw [dif_pos hchar]
  rfl

theorem isLetter_ofNat {n : Nat} (h : alphabeticIntervals.covers n = true) :
    isLetter (Char.ofNat n) = true := by
  rw [isLetter, toNat_ofNat_of_covers h]
  exact h

end SoapClasses
