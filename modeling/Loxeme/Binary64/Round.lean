import Loxeme.Binary64.Basic
import Loxeme.Numeral.Decimal

/-!
# Rounding to double precision

A non-negative decimal of any length becomes the nearest double precision number, and of two
equally near ones the one with the even code. Magnitudes from halfway above the greatest finite
number on become infinite.

* `Binary64.floorCode`: the greatest code whose magnitude does not exceed a natural number of
  units.
* `Binary64.roundQuotient`: the code nearest to an exact quotient.
* `Binary64.roundQuotient_units`: a quotient that is the magnitude of a code has that code.
* `Binary64.ofDecimal`: the number nearest to a decimal.
-/

namespace Loxeme

namespace Binary64

/-- The greatest code whose magnitude does not exceed `n` units: the leading 53 bits of `n`, above
them the number of bits that follow. It grows past the infinite code with `n`. -/
def floorCode (n : Nat) : Nat :=
  let dropped := n.log2 - 52
  dropped * fractionCount + n / Nat.pow 2 dropped

/-- The code nearest to `num / den`, ties to the even code, at most the infinite one. The quotient
is compared with the midpoint of the two neighbouring magnitudes as a product, so nothing is lost
to the division. -/
def roundQuotient (num den : Nat) : Nat :=
  let scaled := num * Nat.pow 2 1074
  let lower := floorCode (scaled / den)
  let midpoint := (units lower + units (lower + 1)) * den
  let nearest :=
    if 2 * scaled < midpoint then lower
    else if midpoint < 2 * scaled then lower + 1
    else lower + lower % 2
  min nearest infinityCode

/-- Nothing is rounded beyond the infinite code. -/
theorem roundQuotient_le (num den : Nat) : roundQuotient num den ≤ infinityCode :=
  Nat.min_le_right ..

/-- A normal magnitude has 52 bits below its leading one, shifted by its scale. -/
theorem log2_units {code : Nat} (h : fractionCount ≤ code) :
    (units code).log2 = scale code + 52 := by
  have hf : fractionCount = 2 ^ 52 := rfl
  have hlow : fractionCount ≤ significand code := by
    rw [significand_of_le h]
    exact Nat.le_add_right ..
  have hhigh : significand code < 2 * fractionCount := by
    rw [significand_of_le h]
    have : code % fractionCount < fractionCount := Nat.mod_lt _ (by decide)
    omega
  have hpos : 0 < Nat.pow 2 (scale code) := Nat.pow_pos (by decide)
  have hne : units code ≠ 0 := by
    have : 0 < significand code := Nat.lt_of_lt_of_le (by decide) hlow
    exact Nat.ne_of_gt (Nat.mul_pos this hpos)
  rw [Nat.log2_eq_iff hne]
  have h1 : Nat.pow 2 (scale code + 52) = fractionCount * Nat.pow 2 (scale code) := by
    simp only [Nat.pow_eq, Nat.pow_add, hf]
    rw [Nat.mul_comm]
  have h2 : Nat.pow 2 (scale code + 52 + 1) = 2 * fractionCount * Nat.pow 2 (scale code) := by
    rw [show Nat.pow 2 (scale code + 52 + 1) = Nat.pow 2 (scale code + 52) * 2 from rfl, h1]
    rw [Nat.mul_comm _ 2, Nat.mul_assoc]
  exact ⟨Nat.le_trans (Nat.le_of_eq h1) (Nat.mul_le_mul_right _ hlow),
    Nat.lt_of_lt_of_eq ((Nat.mul_lt_mul_right hpos).mpr hhigh) h2.symm⟩

/-- A magnitude leads back to its code. -/
theorem floorCode_units (code : Nat) : floorCode (units code) = code := by
  by_cases h : code < fractionCount
  · have hlog : code.log2 - 52 = 0 := by
      by_cases h0 : code = 0
      · subst h0; rfl
      · have := (Nat.log2_lt h0).mpr (show code < 2 ^ 52 from h)
        omega
    simp only [floorCode, units_of_lt h, hlog, Nat.zero_mul, Nat.zero_add]
    exact Nat.div_one code
  · have h := Nat.not_lt.mp h
    have hlog : (units code).log2 - 52 = scale code := by
      rw [log2_units h]
      omega
    have hpos : 0 < Nat.pow 2 (scale code) := Nat.pow_pos (by decide)
    have hq : units code / Nat.pow 2 (scale code) = significand code :=
      Nat.mul_div_cancel _ hpos
    have hd := Nat.div_add_mod code fractionCount
    have hone : 1 ≤ code / fractionCount := (Nat.one_le_div_iff (by decide)).mpr h
    simp only [floorCode, hlog, hq, significand_of_le h]
    rw [scale, ← Nat.add_assoc, ← Nat.succ_mul, Nat.succ_eq_add_one, Nat.sub_add_cancel hone,
      Nat.mul_comm]
    exact hd

/-- An exact magnitude is rounded to its own code. -/
theorem roundQuotient_units {num den code : Nat} (hden : 0 < den) (hcode : code ≤ infinityCode)
    (h : num * Nat.pow 2 1074 = units code * den) : roundQuotient num den = code := by
  have hfloor : floorCode (num * Nat.pow 2 1074 / den) = code := by
    rw [h, Nat.mul_div_cancel _ hden, floorCode_units]
  have hlt : 2 * (units code * den) < (units code + units (code + 1)) * den := by
    rw [← Nat.mul_assoc]
    have := units_lt_units_succ code
    exact (Nat.mul_lt_mul_right hden).mpr (by omega)
  simp only [roundQuotient, hfloor]
  rw [h, if_pos hlt]
  exact Nat.min_eq_left hcode

/-- The number nearest to a decimal. -/
def ofDecimal (d : Decimal) : Binary64 :=
  ⟨false, roundQuotient d.numerator d.denominator,
    Nat.lt_of_le_of_lt (roundQuotient_le ..) (by decide)⟩

@[simp] theorem negative_ofDecimal (d : Decimal) : (ofDecimal d).negative = false := rfl

@[simp] theorem isNaN_ofDecimal (d : Decimal) : (ofDecimal d).isNaN = false :=
  decide_eq_false (Nat.not_lt.mpr (roundQuotient_le d.numerator d.denominator))

/-- A rounded decimal equals itself, as it is a number. -/
@[simp] theorem agrees_ofDecimal_self (d : Decimal) :
    (ofDecimal d).agrees (ofDecimal d) = true := by
  simp [agrees]

end Binary64

end Loxeme
