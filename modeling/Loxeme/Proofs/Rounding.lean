import Loxeme.Binary64.Round
import Mathlib.Algebra.Order.Field.Power
import Mathlib.Algebra.Order.Field.Rat
import Mathlib.Algebra.Order.Group.Unbundled.Abs
import Mathlib.Order.Monotone.Basic
import Mathlib.Tactic.FieldSimp
import Mathlib.Tactic.Linarith
import Mathlib.Tactic.Positivity
import Mathlib.Tactic.Ring

/-!
# Correct rounding

The number that a decimal becomes is the one that IEEE 754 has for its exact value when it rounds to
nearest and ties to even. So the order of values is that of their numbers.

* `Binary64.toRat?`: the value of a finite number.
* `Binary64.RoundsTo`: which number IEEE 754 has for an exact value.
* `Binary64.Cell`: the values that are rounded to a code, up to the infinite one.
* `Binary64.cell_nearestCode`: a quotient is in the cell of the code that is nearest to it.
* `Binary64.roundsTo_iff`: a decimal is rounded to the one number that IEEE 754 has for it.
* `Binary64.atMost`, `Binary64.atMost_iff_le`: the order of numbers is that of their values.
* `Binary64.atMost_ofDecimal`: greater decimals are rounded to greater numbers.
-/

namespace Loxeme

namespace Binary64

/-! ## Values -/

theorem eq_of_code_eq {x y : Binary64} (hsign : x.negative = y.negative) (hcode : x.code = y.code) :
    x = y := by
  cases x
  cases y
  simp_all

/-- The least positive number. -/
def leastPositive : ℚ := 1 / 2 ^ 1074

/-- The value of a finite number. -/
def toRat? (x : Binary64) : Option ℚ :=
  if x.code < infinityCode then
    some ((if x.negative then -(units x.code : ℚ) else units x.code) * leastPositive)
  else none

/-- The number one is so many of the least positive number. -/
example : units 0x3FF0000000000000 = 2 ^ 1074 := by decide +kernel

/-- Values from here on are rounded to infinity. It is halfway between the greatest finite number
and the power of two above it. -/
def overflowBound : ℚ := 2 ^ 1024 - 2 ^ 970

/-- The number that IEEE 754 has for an exact value: the nearest finite number, and of two that are
equally near the one with the even code, or the infinite one of the sign. -/
structure RoundsTo (v : ℚ) (x : Binary64) : Prop where
  negative_eq : x.negative = decide (v < 0)
  overflow : overflowBound ≤ |v| → x.isInfinite = true
  nearest : |v| < overflowBound → ∃ q, x.toRat? = some q ∧
    ∀ y r, toRat? y = some r → |q - v| < |r - v| ∨
      |q - v| = |r - v| ∧ (q = r ∨ x.code % 2 = 0)

theorem leastPositive_pos : 0 < leastPositive := by
  unfold leastPositive
  positivity

theorem units_strictMono : StrictMono units :=
  strictMono_nat_of_lt_succ units_lt_units_succ

theorem units_cast_lt {c d : Nat} (h : c < d) : (units c : ℚ) < units d :=
  Nat.cast_lt.mpr (units_strictMono h)

theorem units_cast_le {c d : Nat} (h : c ≤ d) : (units c : ℚ) ≤ units d :=
  Nat.cast_le.mpr (units_strictMono.monotone h)

/-! ## The code below a magnitude -/

/-- A code is a multiple of the number of fractions and a significand with its leading one. -/
theorem units_mul_add {k q : Nat} (hlow : fractionCount ≤ q) (hhigh : q ≤ 2 * fractionCount) :
    units (k * fractionCount + q) = q * 2 ^ k := by
  have hF : 0 < fractionCount := by decide
  rw [units_of_le (hlow.trans (Nat.le_add_left ..)), Nat.pow_eq]
  rcases Nat.lt_or_ge q (2 * fractionCount) with h | h
  · obtain ⟨f, rfl⟩ := Nat.exists_eq_add_of_le hlow
    have hf : f < fractionCount := by omega
    have hcode : k * fractionCount + (fractionCount + f) = f + fractionCount * (k + 1) := by ring
    rw [hcode, Nat.add_mul_mod_self_left, Nat.mod_eq_of_lt hf, Nat.add_mul_div_left _ _ hF,
      Nat.div_eq_of_lt hf, Nat.zero_add, Nat.add_sub_cancel]
  · -- The significand has grown to the next power of two, where the code is the first one.
    obtain rfl : q = 2 * fractionCount := by omega
    have hcode : k * fractionCount + 2 * fractionCount = fractionCount * (k + 2) := by ring
    rw [hcode, Nat.mul_mod_right, Nat.mul_div_cancel_left _ hF, Nat.add_zero,
      show k + 2 - 1 = k + 1 from rfl, Nat.pow_succ]
    ring

/-- A magnitude is between those of the greatest code below it and of the next code. -/
theorem units_floorCode (n : Nat) : units (floorCode n) ≤ n ∧ n < units (floorCode n + 1) := by
  have hpos : 0 < 2 ^ (n.log2 - 52) := Nat.two_pow_pos _
  by_cases hn : n < fractionCount
  · have hfloor : floorCode n = n := by
      have h := floorCode_units n
      rwa [units_of_lt hn] at h
    rw [hfloor, units_of_lt hn]
    exact ⟨Nat.le_refl n, (units_of_lt hn).symm.trans_lt (units_lt_units_succ n)⟩
  · rw [Nat.not_lt] at hn
    have hne : n ≠ 0 := by
      rintro rfl
      exact absurd hn (by decide)
    have hlog : 52 ≤ n.log2 := (Nat.le_log2 hne).mpr hn
    have hlow : fractionCount ≤ n / 2 ^ (n.log2 - 52) := by
      rw [Nat.le_div_iff_mul_le hpos, show fractionCount = 2 ^ 52 from rfl, ← Nat.pow_add,
        Nat.add_sub_cancel' hlog]
      exact Nat.log2_self_le hne
    have hhigh : n / 2 ^ (n.log2 - 52) < 2 * fractionCount := by
      rw [Nat.div_lt_iff_lt_mul hpos, show 2 * fractionCount = 2 ^ 53 from rfl, ← Nat.pow_add,
        show 53 + (n.log2 - 52) = n.log2 + 1 by omega]
      exact Nat.lt_log2_self
    have hfloor : floorCode n = (n.log2 - 52) * fractionCount + n / 2 ^ (n.log2 - 52) := rfl
    rw [hfloor, Nat.add_assoc, units_mul_add hlow hhigh.le,
      units_mul_add (Nat.le_succ_of_le hlow) hhigh]
    exact ⟨Nat.div_mul_le_self .., Nat.lt_mul_of_div_lt (Nat.lt_succ_self _) hpos⟩

/-! ## Cells -/

/-- A value in units is in the cell of a code if its magnitude is as near as that of any other
code, and nearer unless the code is even. -/
structure Cell (code : Nat) (w : ℚ) : Prop where
  lower : ∀ d < code, (units d + units code : ℚ) ≤ 2 * w
  upper : ∀ d > code, 2 * w ≤ (units code + units d : ℚ)
  even : ∀ d ≠ code, (units d + units code : ℚ) = 2 * w → code % 2 = 0

namespace Cell

variable {c d : Nat} {w w' : ℚ}

/-- Cells ascend with their codes. -/
theorem le_of_le (h : Cell c w) (h' : Cell d w') (hw : w ≤ w') : c ≤ d := by
  by_contra hlt
  rw [Nat.not_le] at hlt
  have hlower := h.lower d hlt
  have hupper := h'.upper c hlt
  -- The cells meet in one point. Both codes are even, so there is a code between them.
  have hmeet : (units d + units c : ℚ) = 2 * w := by linarith
  have hmeet' : (units c + units d : ℚ) = 2 * w' := by linarith
  have hc := h.even d (Nat.ne_of_lt hlt) hmeet
  have hd := h'.even c (Nat.ne_of_gt hlt) hmeet'
  have hbetween := h.lower (d + 1) (by omega)
  have hlt := units_cast_lt d.lt_succ_self
  linarith

/-- No magnitude is nearer to a value than that of its cell. -/
theorem abs_sub_le (h : Cell c w) (d : Nat) : |(units c : ℚ) - w| ≤ |(units d : ℚ) - w| := by
  rcases Nat.lt_trichotomy d c with hd | rfl | hd
  · have hunits := units_cast_lt hd
    have hlower := h.lower d hd
    exact (abs_le.mpr ⟨by linarith, by linarith⟩).trans (neg_le_abs _)
  · exact le_rfl
  · have hunits := units_cast_lt hd
    have hupper := h.upper d hd
    exact (abs_le.mpr ⟨by linarith, by linarith⟩).trans (le_abs_self _)

/-- Each other magnitude is farther from a value, or as far and the code is even. -/
theorem nearest (h : Cell c w) (d : Nat) :
    |(units c : ℚ) - w| < |(units d : ℚ) - w| ∨
      |(units c : ℚ) - w| = |(units d : ℚ) - w| ∧ (units c = (units d : ℚ) ∨ c % 2 = 0) := by
  rcases (h.abs_sub_le d).lt_or_eq with hlt | heq
  · exact .inl hlt
  · refine .inr ⟨heq, ?_⟩
    by_cases hd : d = c
    · exact .inl (by rw [hd])
    · rcases abs_eq_abs.mp heq with hsame | hopposite
      · exact .inl (by linarith)
      · exact .inr (h.even d hd (by linarith))

/-- No other magnitude with an even code is as near to a value. -/
theorem eq_of_even (h : Cell c w) (hd : d % 2 = 0)
    (htie : |(units c : ℚ) - w| = |(units d : ℚ) - w|) : d = c := by
  rcases abs_eq_abs.mp htie with hsame | hopposite
  · have hunits : (units c : ℚ) = units d := by linarith
    exact (units_strictMono.injective (Nat.cast_injective hunits)).symm
  · by_contra hne
    have hsum : (units d + units c : ℚ) = 2 * w := by linarith
    have hc := h.even d hne hsum
    -- Between two even codes there is a third one, which is nearer than both.
    rcases Nat.lt_or_gt_of_ne hne with hlt | hlt
    · linarith [h.lower (d + 1) (by omega), units_cast_lt d.lt_succ_self]
    · linarith [h.upper (d - 1) (by omega), units_cast_lt (Nat.sub_one_lt_of_lt hlt)]

/-- Below zero nothing is nearer to a value that is not negative. -/
theorem nearest_neg (h : Cell c w) (hw : 0 ≤ w) (d : Nat) :
    |(units c : ℚ) - w| < |-(units d : ℚ) - w| ∨
      |(units c : ℚ) - w| = |-(units d : ℚ) - w| ∧ (units c = -(units d : ℚ) ∨ c % 2 = 0) := by
  have hunits0 : (units 0 : ℚ) = 0 := Nat.cast_zero
  rcases Nat.eq_zero_or_pos d with rfl | hd
  · rw [hunits0, neg_zero, ← hunits0]
    exact h.nearest 0
  · have hunits := units_cast_lt hd
    have hzero := h.abs_sub_le 0
    rw [hunits0] at hunits hzero
    rw [zero_sub, abs_neg, abs_of_nonneg hw] at hzero
    refine .inl (hzero.trans_lt ?_)
    rw [abs_of_nonpos (by linarith)]
    linarith

end Cell

/-- A value between two magnitudes that is at most halfway is in the cell of the lower one. -/
theorem cell_of_le_midpoint {c : Nat} {w : ℚ} (hw : units c ≤ w)
    (hmid : 2 * w ≤ units c + units (c + 1)) (heven : 2 * w = units c + units (c + 1) → c % 2 = 0) :
    Cell c w := by
  have hbelow : ∀ d < c, (units d + units c : ℚ) < 2 * w := fun d hd => by
    linarith [units_cast_lt hd]
  refine ⟨fun d hd => (hbelow d hd).le, fun d hd => by linarith [units_cast_le hd], ?_⟩
  intro d hd htie
  rcases Nat.lt_or_gt_of_ne hd with hd | hd
  · exact absurd htie (hbelow d hd).ne
  · exact heven (le_antisymm hmid (by linarith [units_cast_le hd]))

/-- A value between two magnitudes that is at least halfway is in the cell of the upper one. -/
theorem cell_of_midpoint_le {c : Nat} {w : ℚ} (hw : w < units (c + 1))
    (hmid : (units c + units (c + 1) : ℚ) ≤ 2 * w)
    (heven : (units c + units (c + 1) : ℚ) = 2 * w → (c + 1) % 2 = 0) : Cell (c + 1) w := by
  have habove : ∀ d > c + 1, 2 * w < (units (c + 1) + units d : ℚ) := fun d hd => by
    linarith [units_cast_lt hd]
  refine ⟨fun d hd => by linarith [units_cast_le (Nat.le_of_lt_succ hd)],
    fun d hd => (habove d hd).le, ?_⟩
  intro d hd htie
  rcases Nat.lt_or_gt_of_ne hd with hd | hd
  · exact heven (le_antisymm hmid (by linarith [units_cast_le (Nat.le_of_lt_succ hd)]))
  · exact absurd htie (by linarith [habove d hd])

/-- The code nearest to a quotient of units, ties to the even code, without an upper end. -/
def nearestCode (scaled den : Nat) : Nat :=
  let lower := floorCode (scaled / den)
  let midpoint := (units lower + units (lower + 1)) * den
  if 2 * scaled < midpoint then lower
  else if midpoint < 2 * scaled then lower + 1
  else lower + lower % 2

theorem roundQuotient_eq (num den : Nat) :
    roundQuotient num den = min (nearestCode (num * Nat.pow 2 1074) den) infinityCode :=
  rfl

/-- A quotient of units is in the cell of the code nearest to it. -/
theorem cell_nearestCode (scaled : Nat) {den : Nat} (hden : 0 < den) :
    Cell (nearestCode scaled den) (scaled / den) := by
  have hpos : (0 : ℚ) < den := Nat.cast_pos.mpr hden
  obtain ⟨hlow, hhigh⟩ := units_floorCode (scaled / den)
  rw [nearestCode]
  generalize floorCode (scaled / den) = lower at *
  rw [Nat.le_div_iff_mul_le hden] at hlow
  rw [Nat.div_lt_iff_lt_mul hden] at hhigh
  have hw : (units lower : ℚ) ≤ scaled / den := by
    rw [le_div_iff₀ hpos]
    exact_mod_cast hlow
  have hw' : (scaled / den : ℚ) < units (lower + 1) := by
    rw [div_lt_iff₀ hpos]
    exact_mod_cast hhigh
  -- The value and the midpoint are compared as products with the denominator.
  have htwice : 2 * (scaled / den : ℚ) = (2 * scaled : Nat) / den := by
    rw [Nat.cast_mul, Nat.cast_ofNat, mul_div_assoc]
  have hmidpoint : (units lower + units (lower + 1) : ℚ) =
      ((units lower + units (lower + 1)) * den : Nat) / den := by
    rw [Nat.cast_mul, mul_div_cancel_right₀ _ hpos.ne', Nat.cast_add]
  have hbelow : 2 * (scaled / den : ℚ) < units lower + units (lower + 1) ↔
      2 * scaled < (units lower + units (lower + 1)) * den := by
    rw [htwice, hmidpoint, div_lt_div_iff_of_pos_right hpos, Nat.cast_lt]
  have habove : (units lower + units (lower + 1) : ℚ) < 2 * (scaled / den) ↔
      (units lower + units (lower + 1)) * den < 2 * scaled := by
    rw [htwice, hmidpoint, div_lt_div_iff_of_pos_right hpos, Nat.cast_lt]
  split
  · rename_i hlt
    have hlt := hbelow.mpr hlt
    exact cell_of_le_midpoint hw hlt.le fun heq => absurd heq hlt.ne
  · rename_i hle
    have hle := not_lt.mp (hbelow.not.mpr hle)
    split
    · rename_i hlt
      have hlt := habove.mpr hlt
      exact cell_of_midpoint_le hw' hle fun heq => absurd heq hlt.ne
    · rename_i hge
      have hge := not_lt.mp (habove.not.mpr hge)
      rcases Nat.mod_two_eq_zero_or_one lower with heven | hodd
      · rw [heven]
        exact cell_of_le_midpoint hw hge fun _ => heven
      · rw [hodd]
        exact cell_of_midpoint_le hw' hle fun _ => by omega

/-- A cell is that of a finite code if its values are less than halfway from the greatest finite
magnitude to the next one. -/
theorem Cell.lt_infinityCode_iff {c : Nat} {w : ℚ} (h : Cell c w) :
    c < infinityCode ↔ 2 * w < units (infinityCode - 1) + units infinityCode := by
  constructor
  · intro hc
    have hle := units_cast_le (Nat.le_sub_one_of_lt hc)
    refine lt_of_le_of_ne (by linarith [h.upper infinityCode hc]) fun heq => ?_
    have hc' : (units c : ℚ) = units (infinityCode - 1) :=
      le_antisymm hle (by linarith [h.upper infinityCode hc])
    have hcode := units_strictMono.injective (Nat.cast_injective hc')
    -- The greatest finite code is odd.
    have heven := h.even infinityCode hc.ne' (by linarith)
    rw [hcode] at heven
    exact absurd heven (by decide)
  · intro hw
    by_contra hc
    rw [Nat.not_lt] at hc
    have hlow := h.lower (infinityCode - 1) (Nat.lt_of_lt_of_le (by decide) hc)
    linarith [units_cast_le hc]

/-! ## Rounding -/

/-- The exponents are variables, as the numbers are too great to be computed with. -/
private theorem cast_units_mul {a b : Nat} (h : b ≤ a) (c : Nat) :
    ((2 * (2 ^ a - 2 ^ b) * 2 ^ c : Nat) : ℚ) * (1 / 2 ^ c) = 2 * (2 ^ a - 2 ^ b) := by
  have hle : 2 ^ b ≤ 2 ^ a := Nat.pow_le_pow_right (by decide) h
  push_cast [Nat.cast_sub hle]
  field_simp

/-- Halfway from the greatest finite magnitude to the next one is where infinity starts. -/
theorem units_add_units_infinityCode :
    (units (infinityCode - 1) + units infinityCode : ℚ) * leastPositive = 2 * overflowBound := by
  have hunits : units (infinityCode - 1) + units infinityCode =
      2 * (2 ^ 1024 - 2 ^ 970) * 2 ^ 1074 := by
    decide +kernel
  rw [← Nat.cast_add, hunits]
  exact cast_units_mul (by decide) 1074

section Value

variable {c : Nat} {w : ℚ}

/-- A finite number is the magnitude of its code in units, with its sign. -/
theorem toRat?_eq_some_iff {x : Binary64} {q : ℚ} :
    x.toRat? = some q ↔ x.code < infinityCode ∧
      q = (if x.negative then -(units x.code : ℚ) else units x.code) * leastPositive := by
  rw [toRat?]
  split
  · rename_i hc
    rw [Option.some.injEq, eq_comm, iff_and_self]
    exact fun _ => hc
  · rename_i hc
    exact ⟨fun h => (nomatch h), fun h => absurd h.1 hc⟩

/-- Which of two values is nearer to a third one is the same in units. -/
theorem nearer_mul_leastPositive_iff {q r : ℚ} {p : Prop} :
    (|q * leastPositive - w * leastPositive| < |r * leastPositive - w * leastPositive| ∨
      |q * leastPositive - w * leastPositive| = |r * leastPositive - w * leastPositive| ∧
        (q * leastPositive = r * leastPositive ∨ p)) ↔
      |q - w| < |r - w| ∨ |q - w| = |r - w| ∧ (q = r ∨ p) := by
  have hpos := leastPositive_pos
  rw [← sub_mul, ← sub_mul, abs_mul, abs_mul, abs_of_pos hpos, mul_lt_mul_iff_left₀ hpos,
    mul_left_inj' hpos.ne', mul_left_inj' hpos.ne']

/-- Values below the bound are in the cells of finite codes. -/
theorem Cell.abs_lt_overflowBound_iff (h : Cell c w) (hw : 0 ≤ w) :
    |w * leastPositive| < overflowBound ↔ c < infinityCode := by
  have hpos := leastPositive_pos
  rw [abs_of_nonneg (mul_nonneg hw hpos.le), h.lt_infinityCode_iff,
    ← mul_lt_mul_iff_left₀ (b := 2 * w) hpos, units_add_units_infinityCode, mul_assoc,
    mul_lt_mul_iff_right₀ two_pos]

/-- A value that is not negative is rounded to the code of its cell. -/
theorem Cell.roundsTo (h : Cell c w) (hw : 0 ≤ w) :
    RoundsTo (w * leastPositive) ⟨false, min c infinityCode,
      Nat.lt_of_le_of_lt (Nat.min_le_right ..) (by decide)⟩ := by
  have hv : 0 ≤ w * leastPositive := mul_nonneg hw leastPositive_pos.le
  have hbound := h.abs_lt_overflowBound_iff hw
  refine ⟨by simp [hv], fun hover => ?_, fun hfinite => ?_⟩
  · have hc : infinityCode ≤ c := Nat.not_lt.mp (hbound.not.mp hover.not_gt)
    exact beq_iff_eq.mpr (Nat.min_eq_right hc)
  · have hc := hbound.mp hfinite
    simp only [Nat.min_eq_left hc.le]
    refine ⟨units c * leastPositive, toRat?_eq_some_iff.mpr ⟨hc, rfl⟩, fun y r hy => ?_⟩
    obtain ⟨-, rfl⟩ := toRat?_eq_some_iff.mp hy
    rw [nearer_mul_leastPositive_iff]
    split
    · exact h.nearest_neg hw y.code
    · exact h.nearest y.code

/-- What a value that is not negative is rounded to is in its cell. -/
theorem Cell.eq_of_roundsTo (h : Cell c w) (hw : 0 ≤ w) {x : Binary64}
    (hx : RoundsTo (w * leastPositive) x) : x.negative = false ∧ x.code = min c infinityCode := by
  have hsign : x.negative = false := by
    rw [hx.negative_eq, decide_eq_false_iff_not, not_lt]
    exact mul_nonneg hw leastPositive_pos.le
  refine ⟨hsign, ?_⟩
  rcases Nat.lt_or_ge c infinityCode with hc | hc
  · rw [Nat.min_eq_left hc.le]
    obtain ⟨q, hq, hnearest⟩ := hx.nearest ((h.abs_lt_overflowBound_iff hw).mpr hc)
    obtain ⟨-, rfl⟩ := toRat?_eq_some_iff.mp hq
    have hcell := hnearest ⟨false, c, hc.trans (by decide)⟩ _ (toRat?_eq_some_iff.mpr ⟨hc, rfl⟩)
    rw [nearer_mul_leastPositive_iff, hsign] at hcell
    simp only [Bool.false_eq_true, if_false] at hcell
    rcases hcell with hlt | ⟨htie, hsame | heven⟩
    · exact absurd (h.abs_sub_le x.code) hlt.not_ge
    · exact units_strictMono.injective (Nat.cast_injective hsame)
    · exact h.eq_of_even heven htie.symm
  · rw [Nat.min_eq_right hc]
    refine beq_iff_eq.mp (hx.overflow (not_lt.mp fun hlt => ?_))
    exact hc.not_gt ((h.abs_lt_overflowBound_iff hw).mp hlt)

/-- Half of the least positive number and less is in the cell of zero. -/
theorem Cell.eq_zero_iff (h : Cell c w) : c = 0 ↔ 2 * w ≤ 1 := by
  have hunits0 : (units 0 : ℚ) = 0 := Nat.cast_zero
  have hunits1 : (units 1 : ℚ) = 1 := Nat.cast_one
  constructor
  · rintro rfl
    linarith [h.upper 1 (by decide)]
  · intro hw
    by_contra hc
    have hpos : 0 < c := Nat.pos_of_ne_zero hc
    have hlow := h.lower 0 hpos
    have hle := units_cast_le hpos
    -- The value is halfway to one, and one is odd.
    have heven := h.even 0 hpos.ne (by linarith)
    have hone : (units c : ℚ) = units 1 := by linarith
    obtain rfl := units_strictMono.injective (Nat.cast_injective hone)
    cases heven

end Value

/-! ## Order -/

/-- The order of numbers as IEEE 754 compares them: the two zeros are equal, and what is no number
has no place in it. -/
def atMost (x y : Binary64) : Bool :=
  !x.isNaN && !y.isNaN &&
    (if x.negative then -(x.code : ℤ) else x.code) ≤ (if y.negative then -(y.code : ℤ) else y.code)

/-- Finite numbers are ordered as their values. -/
theorem atMost_iff_le {x y : Binary64} {q r : ℚ} (hx : x.toRat? = some q) (hy : y.toRat? = some r) :
    x.atMost y = true ↔ q ≤ r := by
  obtain ⟨hxc, rfl⟩ := toRat?_eq_some_iff.mp hx
  obtain ⟨hyc, rfl⟩ := toRat?_eq_some_iff.mp hy
  have hxn : x.isNaN = false := decide_eq_false hxc.not_gt
  have hyn : y.isNaN = false := decide_eq_false hyc.not_gt
  have hle (a b : Nat) : (units a : ℚ) ≤ units b ↔ a ≤ b :=
    Nat.cast_le.trans units_strictMono.le_iff_le
  have hzero (a : Nat) : (units a : ℚ) ≤ 0 ↔ a = 0 := by
    rw [← Nat.le_zero, ← hle]
    exact Iff.rfl
  have hnonneg (a : Nat) : (0 : ℚ) ≤ units a := Nat.cast_nonneg _
  rw [mul_le_mul_iff_left₀ leastPositive_pos]
  simp only [atMost, hxn, hyn, Bool.not_false, Bool.true_and, decide_eq_true_eq]
  cases x.negative <;> cases y.negative <;> simp only [Bool.false_eq_true, if_true, if_false]
  · rw [hle]
    omega
  · have hsplit : (units x.code : ℚ) ≤ -units y.code ↔
        (units x.code : ℚ) ≤ 0 ∧ (units y.code : ℚ) ≤ 0 :=
      ⟨fun h => ⟨by linarith [hnonneg y.code], by linarith [hnonneg x.code]⟩,
        fun h => by linarith [h.1, h.2]⟩
    rw [hsplit, hzero, hzero]
    omega
  · exact iff_of_true (by omega) (by linarith [hnonneg x.code, hnonneg y.code])
  · rw [neg_le_neg_iff, neg_le_neg_iff, hle]
    exact Nat.cast_le

/-- Without signs numbers are ordered as their codes. -/
theorem atMost_iff_code_le {x y : Binary64} (hx : x.isNaN = false) (hy : y.isNaN = false)
    (hxs : x.negative = false) (hys : y.negative = false) :
    x.atMost y = true ↔ x.code ≤ y.code := by
  simp [atMost, hx, hy, hxs, hys]

end Binary64

namespace Decimal

/-- The exact value of a decimal. -/
def toRat (d : Decimal) : ℚ :=
  d.coefficient * 10 ^ d.exponent

theorem toRat_nonneg (d : Decimal) : 0 ≤ d.toRat := by
  unfold toRat
  positivity

theorem toRat_eq_div (d : Decimal) : d.toRat = d.numerator / d.denominator := by
  rw [toRat, numerator, denominator, Nat.pow_eq, Nat.pow_eq]
  push_cast
  rcases Int.le_total 0 d.exponent with h | h
  · obtain ⟨n, hn⟩ := Int.eq_ofNat_of_zero_le h
    simp [hn]
  · obtain ⟨n, hn⟩ := Int.exists_eq_neg_ofNat h
    simp [hn, div_eq_mul_inv]

end Decimal

namespace Binary64

private theorem cast_mul_pow (num b : Nat) {den : ℚ} :
    ((num * Nat.pow 2 b : Nat) : ℚ) / den * (1 / 2 ^ b) = num / den := by
  rw [Nat.pow_eq]
  push_cast
  field_simp

/-- A decimal is rounded to the code of its cell. -/
theorem exists_cell (d : Decimal) :
    ∃ c w, Cell c w ∧ 0 ≤ w ∧ w * leastPositive = d.toRat ∧
      (ofDecimal d).code = min c infinityCode := by
  refine ⟨_, _, cell_nearestCode (d.numerator * Nat.pow 2 1074) d.denominator_pos,
    div_nonneg (Nat.cast_nonneg _) (Nat.cast_nonneg _), ?_, roundQuotient_eq ..⟩
  rw [d.toRat_eq_div, leastPositive]
  generalize 1074 = b
  exact cast_mul_pow d.numerator b

/-- A decimal is rounded as IEEE 754 has it. -/
theorem roundsTo_ofDecimal (d : Decimal) : RoundsTo d.toRat (ofDecimal d) := by
  obtain ⟨c, w, hcell, hnonneg, hw, hcode⟩ := exists_cell d
  have hrounds := hcell.roundsTo hnonneg
  rw [hw] at hrounds
  simpa only [ofDecimal, ← hcode] using hrounds

/-- Greater decimals are rounded to greater codes. -/
theorem code_ofDecimal_le {d e : Decimal} (h : d.toRat ≤ e.toRat) :
    (ofDecimal d).code ≤ (ofDecimal e).code := by
  obtain ⟨c, w, hcell, -, hw, hcode⟩ := exists_cell d
  obtain ⟨c', w', hcell', -, hw', hcode'⟩ := exists_cell e
  rw [← hw, ← hw', mul_le_mul_iff_left₀ leastPositive_pos] at h
  rw [hcode, hcode']
  exact min_le_min_right infinityCode (hcell.le_of_le hcell' h)

theorem atMost_ofDecimal {d e : Decimal} (h : d.toRat ≤ e.toRat) :
    (ofDecimal d).atMost (ofDecimal e) = true := by
  rw [atMost_iff_code_le (isNaN_ofDecimal d) (isNaN_ofDecimal e) rfl rfl]
  exact code_ofDecimal_le h

/-- Decimals of one value are rounded to one number. -/
theorem ofDecimal_congr {d e : Decimal} (h : d.toRat = e.toRat) : ofDecimal d = ofDecimal e := by
  have hcode : (ofDecimal d).code = (ofDecimal e).code :=
    Nat.le_antisymm (code_ofDecimal_le h.le) (code_ofDecimal_le h.ge)
  exact eq_of_code_eq rfl hcode

/-- The number that IEEE 754 has for a decimal is the one that the decimal is rounded to. -/
theorem roundsTo_iff {d : Decimal} {x : Binary64} : RoundsTo d.toRat x ↔ x = ofDecimal d := by
  refine ⟨fun hx => ?_, fun hx => hx ▸ roundsTo_ofDecimal d⟩
  obtain ⟨c, w, hcell, hnonneg, hw, hcode⟩ := exists_cell d
  rw [← hw] at hx
  obtain ⟨hsign, hcode'⟩ := hcell.eq_of_roundsTo hnonneg hx
  exact eq_of_code_eq hsign (hcode'.trans hcode.symm)

theorem ofDecimal_eq_infinity_iff (d : Decimal) :
    ofDecimal d = infinity ↔ overflowBound ≤ d.toRat := by
  obtain ⟨c, w, hcell, hnonneg, hw, hcode⟩ := exists_cell d
  have hbound := hcell.abs_lt_overflowBound_iff hnonneg
  rw [hw, abs_of_nonneg d.toRat_nonneg] at hbound
  rw [← not_lt, hbound, Nat.not_lt, ← min_eq_right_iff, ← hcode]
  exact ⟨fun h => h ▸ rfl, fun h => eq_of_code_eq rfl h⟩

theorem ofDecimal_eq_zero_iff (d : Decimal) :
    ofDecimal d = zero ↔ d.toRat ≤ leastPositive / 2 := by
  obtain ⟨c, w, hcell, -, hw, hcode⟩ := exists_cell d
  have hhalf : w * leastPositive ≤ leastPositive / 2 ↔ 2 * w ≤ 1 := by
    rw [div_eq_inv_mul, mul_le_mul_iff_left₀ leastPositive_pos]
    constructor <;> intro h <;> linarith
  have hzero : c = 0 ↔ (ofDecimal d).code = 0 := by
    have hpos : 0 < infinityCode := by decide
    omega
  rw [← hw, hhalf, ← hcell.eq_zero_iff, hzero]
  exact ⟨fun h => h ▸ rfl, fun h => eq_of_code_eq rfl h⟩

end Binary64

end Loxeme
