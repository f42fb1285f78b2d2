/-!
# Sorted intervals of code points

A set of characters is written as the ascending list of the inclusive intervals that make it up.
-/

namespace SoapClasses

abbrev CodeIntervals := List (Nat × Nat)

/-- Whether a code point lies in one of the intervals. As they ascend, the search stops at the first
interval that ends at or above the point. -/
def CodeIntervals.covers : CodeIntervals → Nat → Bool
  | [], _ => false
  | (low, high) :: rest, n =>
    bif Nat.ble n high then Nat.ble low n else CodeIntervals.covers rest n

/-- A covered point lies between the ends of an interval of the list. -/
theorem CodeIntervals.exists_of_covers {intervals : CodeIntervals} {n : Nat}
    (h : intervals.covers n = true) : ∃ i ∈ intervals, i.1 ≤ n ∧ n ≤ i.2 := by
  induction intervals with
  | nil => simp [covers] at h
  | cons head rest ih =>
    obtain ⟨low, high⟩ := head
    cases hb : Nat.ble n high with
    | true =>
      simp only [covers, hb, cond_true] at h
      exact ⟨(low, high), by simp, Nat.le_of_ble_eq_true h, Nat.le_of_ble_eq_true hb⟩
    | false =>
      simp only [covers, hb, cond_false] at h
      obtain ⟨i, hi, hn⟩ := ih h
      exact ⟨i, List.mem_cons_of_mem _ hi, hn⟩

end SoapClasses
