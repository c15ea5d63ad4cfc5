/-!
# Ranges of code points

A property of characters is a list of closed ranges of code points in ascending order.

* `covers`: membership of a code point in an ascending list of ranges.
* `covers_eq_any`: in an ascending list, a code point is covered if it is in some range.
-/

namespace Loxeme.Alphabet

/-- Membership in a list of closed ranges in ascending order: the walk stops at the first range
that starts above the number. -/
def covers : List (Nat × Nat) → Nat → Bool
  | [], _ => false
  | (low, high) :: ranges, n => low ≤ n && (n ≤ high || covers ranges n)

/-- Ranges that lie above a number, and each above the one before it. -/
def ascendsFrom : Nat → List (Nat × Nat) → Bool
  | _, [] => true
  | n, (low, high) :: ranges => n < low && low ≤ high && ascendsFrom high ranges

theorem any_eq_false_of_le {n bound : Nat} {ranges : List (Nat × Nat)}
    (h : ascendsFrom bound ranges = true) (hn : n ≤ bound) :
    ranges.any (fun r => r.1 ≤ n && n ≤ r.2) = false := by
  induction ranges generalizing bound with
  | nil => rfl
  | cons r ranges ih =>
    simp only [ascendsFrom, Bool.and_eq_true, decide_eq_true_eq] at h
    obtain ⟨⟨hlow, hhigh⟩, hrest⟩ := h
    rw [List.any_cons, ih hrest (by omega), Bool.or_false, decide_eq_false (by omega),
      Bool.false_and]

/-- The walk may stop early because the ranges ascend. -/
theorem covers_eq_any {n bound : Nat} {ranges : List (Nat × Nat)}
    (h : ascendsFrom bound ranges = true) :
    covers ranges n = ranges.any (fun r => r.1 ≤ n && n ≤ r.2) := by
  induction ranges generalizing bound with
  | nil => rfl
  | cons r ranges ih =>
    simp only [ascendsFrom, Bool.and_eq_true, decide_eq_true_eq] at h
    rw [covers, List.any_cons, ih h.2]
    by_cases hlow : r.1 ≤ n
    · simp [hlow]
    · rw [any_eq_false_of_le h.2 (by omega)]
      simp [hlow]

theorem covers_eq_false_of_lt {low high n : Nat} {ranges : List (Nat × Nat)} (h : n < low) :
    covers ((low, high) :: ranges) n = false := by
  simp [covers, Nat.not_le.mpr h]

end Loxeme.Alphabet
