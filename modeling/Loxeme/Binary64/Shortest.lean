import Loxeme.Binary64.Round

/-!
# Shortest decimals

The decimal with the fewest digits among those that round to a given double precision number, and
the nearest of them to the number.

On the grid of the multiples of a power of ten only the two neighbours of the number have to be
tried: a grid point that reads back lies in the interval of the reals that round to the number, and
between it and the number lies a neighbour. The grids are tried from a coarse one, on which the
number lies below the first point, to the one that holds the number itself.

* `Binary64.exactDecimal`: the exact decimal value of a finite code.
* `Binary64.shortest`: the shortest decimal of a code.
* `Binary64.readsBack_exactDecimal`, `Binary64.readsBack_shortest`: both round to the code they
  come from.
-/

namespace Loxeme

namespace Binary64

/-- The exact value of a finite code. A negative power of two is a power of five over the same
power of ten. -/
def exactDecimal (code : Nat) : Decimal :=
  if 1074 ≤ scale code then ⟨significand code * Nat.pow 2 (scale code - 1074), 0⟩
  else ⟨significand code * Nat.pow 5 (1074 - scale code), -((1074 - scale code : Nat) : Int)⟩

/-- A decimal reads back as a code if it rounds to it. -/
def readsBack (code : Nat) (d : Decimal) : Bool :=
  (ofDecimal d).code == code

/-- The two neighbours of a decimal on the grid that is coarser by `k` places, the nearer one
first. Of two equally near ones the upper one is first. -/
def neighbours (d : Decimal) (k : Nat) : List Decimal :=
  let step := Nat.pow 10 k
  let lower : Decimal := ⟨d.coefficient / step, d.exponent + k⟩
  let upper : Decimal := ⟨d.coefficient / step + 1, d.exponent + k⟩
  if 2 * (d.coefficient % step) < step then [lower, upper] else [upper, lower]

/-- The first decimal that reads back, on grids coarser than the exact value by `k` places and
less. -/
def shortestWithin (code : Nat) : Nat → Decimal
  | 0 => exactDecimal code
  | k + 1 =>
    ((neighbours (exactDecimal code) (k + 1)).find? (readsBack code)).getD (shortestWithin code k)

/-- The decimal with the fewest digits that reads back as a finite positive code. The search starts
at a power of ten above the exact coefficient, as three bits are less than a decimal digit. -/
def shortest (code : Nat) : Decimal :=
  shortestWithin code ((exactDecimal code).coefficient.log2 / 3 + 1)

/-- The exact value of a code is rounded to the code. -/
theorem readsBack_exactDecimal {code : Nat} (h : code ≤ infinityCode) :
    readsBack code (exactDecimal code) = true := by
  refine beq_iff_eq.mpr (roundQuotient_units (Decimal.denominator_pos _) h ?_)
  have hpow (a b : Nat) : Nat.pow 2 (a + b) = Nat.pow 2 a * Nat.pow 2 b := Nat.pow_add 2 a b
  unfold exactDecimal
  generalize 1074 = b
  by_cases hs : b ≤ scale code
  · rw [if_pos hs]
    show significand code * Nat.pow 2 (scale code - b) * 1 * Nat.pow 2 b = units code * 1
    rw [Nat.mul_one, Nat.mul_one, Nat.mul_assoc, ← hpow, Nat.sub_add_cancel hs, units]
  · rw [if_neg hs]
    obtain ⟨k, rfl⟩ : ∃ k, b = scale code + k := ⟨b - scale code, by omega⟩
    have hsub : scale code + k - scale code = k := Nat.add_sub_cancel_left ..
    have hten : Nat.pow 10 k = Nat.pow 2 k * Nat.pow 5 k := Nat.mul_pow 2 5 k
    have hto : (-(k : Int)).toNat = 0 := by omega
    have hfrom : (- -(k : Int)).toNat = k := by omega
    simp only [hsub, Decimal.numerator, Decimal.denominator, hto, hfrom, hten, hpow, units]
    show significand code * Nat.pow 5 k * 1 * (Nat.pow 2 (scale code) * Nat.pow 2 k) = _
    rw [Nat.mul_one]
    simp only [Nat.mul_assoc, Nat.mul_comm, Nat.mul_left_comm]

theorem readsBack_shortestWithin {code : Nat} (h : code ≤ infinityCode) (k : Nat) :
    readsBack code (shortestWithin code k) = true := by
  induction k with
  | zero => exact readsBack_exactDecimal h
  | succ k ih =>
    rw [shortestWithin]
    cases hf : (neighbours (exactDecimal code) (k + 1)).find? (readsBack code) with
    | none => simpa using ih
    | some d => simpa using List.find?_some hf

theorem readsBack_shortest {code : Nat} (h : code ≤ infinityCode) :
    readsBack code (shortest code) = true :=
  readsBack_shortestWithin h _

end Binary64

end Loxeme
