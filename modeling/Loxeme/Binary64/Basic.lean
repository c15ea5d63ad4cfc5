/-!
# Double precision numbers

The IEEE 754 numbers of 64 bits, as a sign and a magnitude code of 63 bits. The codes of the
finite numbers ascend with the numbers, so rounding and reading back are questions about codes.

* `Binary64.units`: the magnitude of a code, in units of `2 ^ -1074`, the least positive number.
* `Binary64.units_lt_units_succ`: magnitudes ascend with their codes.
* `Binary64.agrees`: equality as IEEE 754 compares numbers.
* `Binary64.ofBits_toBits`, `Binary64.toBits_ofBits`: a number and its word of 64 bits determine
  each other.
-/

namespace Loxeme

namespace Binary64

/-- The number of codes of magnitudes, `2 ^ 63`. -/
def codeCount : Nat := 0x8000000000000000

/-- The number of codes that share an exponent, `2 ^ 52`. -/
def fractionCount : Nat := 0x10000000000000

end Binary64

/-- A double precision number. The code of its magnitude is eleven bits of exponent above
fifty-two bits of fraction. -/
structure Binary64 where
  negative : Bool
  code : Nat
  code_lt : code < Binary64.codeCount
  deriving DecidableEq, Repr

namespace Binary64

/-- Code of the infinite magnitude. The codes above it are those of no number. -/
def infinityCode : Nat := 0x7FF * fractionCount

def zero : Binary64 := ⟨false, 0, by decide⟩

def infinity : Binary64 := ⟨false, infinityCode, by decide⟩

def isNaN (x : Binary64) : Bool :=
  infinityCode < x.code

def isInfinite (x : Binary64) : Bool :=
  x.code == infinityCode

def isZero (x : Binary64) : Bool :=
  x.code == 0

/-- The significand of a finite code: its fraction, with a leading one unless it is subnormal. -/
def significand (code : Nat) : Nat :=
  if code < fractionCount then code else fractionCount + code % fractionCount

/-- The power of two, above the least one, that scales the significand of a finite code. -/
def scale (code : Nat) : Nat :=
  code / fractionCount - 1

/-- The magnitude of a code in units of `2 ^ -1074`. The infinite code counts as the power of two
that follows the greatest finite magnitude. -/
def units (code : Nat) : Nat :=
  significand code * Nat.pow 2 (scale code)

/-- Where the codes are subnormal, magnitudes and codes are the same. -/
theorem units_of_lt {code : Nat} (h : code < fractionCount) : units code = code := by
  have hs : scale code = 0 := by
    rw [scale, Nat.div_eq_of_lt h]
  rw [units, significand, if_pos h, hs]
  exact Nat.mul_one code

/-- From there on a significand has its leading one. -/
theorem significand_of_le {code : Nat} (h : fractionCount ≤ code) :
    significand code = fractionCount + code % fractionCount :=
  if_neg (Nat.not_lt.mpr h)

theorem units_of_le {code : Nat} (h : fractionCount ≤ code) :
    units code = (fractionCount + code % fractionCount) * Nat.pow 2 (code / fractionCount - 1) := by
  rw [units, significand_of_le h, scale]

/-- Magnitudes ascend with their codes. -/
theorem units_lt_units_succ (code : Nat) : units code < units (code + 1) := by
  have hF : 0 < fractionCount := by decide
  have hdiv := Nat.div_add_mod code fractionCount
  have hmod := Nat.mod_lt code hF
  by_cases h : code + 1 < fractionCount
  · rw [units_of_lt h, units_of_lt (Nat.lt_of_succ_lt h)]
    exact Nat.lt_succ_self code
  by_cases h' : code < fractionCount
  · have hcode : code + 1 = fractionCount := by omega
    rw [units_of_lt h', hcode]
    exact h'
  have hle : fractionCount ≤ code := Nat.not_lt.mp h'
  have hone : 1 ≤ code / fractionCount := (Nat.one_le_div_iff hF).mpr hle
  have hpos : 0 < Nat.pow 2 (code / fractionCount - 1) := Nat.pow_pos (by decide)
  rw [units_of_le hle, units_of_le (Nat.le_succ_of_le hle)]
  -- Within a binade the significand grows by one. At its end the fraction starts again at 0 and
  -- the scale grows by one.
  by_cases hf : code % fractionCount + 1 < fractionCount
  · have hq : (code + 1) / fractionCount = code / fractionCount := by
      unfold fractionCount at *
      omega
    have hr : (code + 1) % fractionCount = code % fractionCount + 1 := by
      unfold fractionCount at *
      omega
    rw [hq, hr]
    exact (Nat.mul_lt_mul_right hpos).mpr (by omega)
  · have hq : (code + 1) / fractionCount = code / fractionCount + 1 := by
      unfold fractionCount at *
      omega
    have hr : (code + 1) % fractionCount = 0 := by
      unfold fractionCount at *
      omega
    have hstep : Nat.pow 2 (code / fractionCount + 1 - 1) =
        2 * Nat.pow 2 (code / fractionCount - 1) := by
      rw [Nat.add_sub_cancel]
      conv => lhs; rw [← Nat.sub_add_cancel hone]
      exact Nat.mul_comm ..
    rw [hq, hr, hstep, Nat.add_zero, ← Nat.mul_assoc]
    exact (Nat.mul_lt_mul_right hpos).mpr (by omega)

/-- Equality as IEEE 754 compares numbers: the two zeros are equal, and what is no number equals
nothing. -/
def agrees (x y : Binary64) : Bool :=
  !x.isNaN && !y.isNaN && (x == y || x.isZero && y.isZero)

/-! ## Words of 64 bits -/

/-- The number that a word of 64 bits stands for; of a greater number its low 64 bits. -/
def ofBits (bits : Nat) : Binary64 :=
  ⟨bits / codeCount % 2 == 1, bits % codeCount, Nat.mod_lt _ (by decide)⟩

/-- The word of 64 bits that stands for a number. -/
def toBits (x : Binary64) : Nat :=
  x.negative.toNat * codeCount + x.code

theorem toBits_lt (x : Binary64) : x.toBits < 2 * codeCount := by
  have hcode := x.code_lt
  have hsign := x.negative.toNat_le
  unfold toBits codeCount at *
  omega

@[simp] theorem ofBits_toBits (x : Binary64) : ofBits x.toBits = x := by
  obtain ⟨negative, code, code_lt⟩ := x
  have hcode : (negative.toNat * codeCount + code) % codeCount = code := by
    unfold codeCount at *
    omega
  have hsign : (negative.toNat * codeCount + code) / codeCount = negative.toNat := by
    unfold codeCount at *
    omega
  simp only [ofBits, toBits, hcode, hsign, mk.injEq, and_true]
  cases negative <;> rfl

theorem toBits_ofBits {bits : Nat} (h : bits < 2 * codeCount) : (ofBits bits).toBits = bits := by
  have hsign : (bits / codeCount % 2 == 1).toNat = bits / codeCount := by
    obtain hq | hq : bits / codeCount = 0 ∨ bits / codeCount = 1 := by
      unfold codeCount at *
      omega
    · rw [hq]; rfl
    · rw [hq]; rfl
  simp only [ofBits, toBits, hsign]
  exact Nat.div_add_mod' ..

end Binary64

end Loxeme
