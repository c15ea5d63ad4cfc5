import Loxeme.Alphabet.Basic
import Loxeme.Source.Run

/-!
# Decimal numerals

A decimal is an integer coefficient times a power of ten, the exact value of a numeral of any
length. A numeral is a run of digits, with or without a point and a further run of digits.

* `Decimal.read?`: the exact value of a numeral, and nothing of any other text.
* `Decimal.read?_whole`, `Decimal.read?_fraction`: the value of the two forms of a numeral.
-/

namespace Loxeme

/-- The number `coefficient * 10 ^ exponent`. -/
structure Decimal where
  coefficient : Nat
  exponent : Int
  deriving DecidableEq, Repr

namespace Decimal

/-- Numerator of the value as a quotient of natural numbers. -/
def numerator (d : Decimal) : Nat :=
  d.coefficient * Nat.pow 10 d.exponent.toNat

/-- Denominator of the value as a quotient of natural numbers, a power of ten. -/
def denominator (d : Decimal) : Nat :=
  Nat.pow 10 (-d.exponent).toNat

theorem denominator_pos (d : Decimal) : 0 < d.denominator :=
  Nat.pow_pos (by decide)

/-- The number that a digit stands for. -/
def digitValue (c : Char) : Nat :=
  c.toNat - '0'.toNat

/-- The number that a run of digits stands for, the most significant digit first. -/
def digitsValue (digits : List Char) : Nat :=
  digits.foldl (fun n c => 10 * n + digitValue c) 0

/-- The value of a run of digits and of the digits behind its point. -/
def ofDigits (whole fraction : List Char) : Decimal :=
  ⟨digitsValue (whole ++ fraction), -(fraction.length : Int)⟩

/-- The value of a numeral: digits, or digits, a point and digits. Each run of digits holds at
least one. -/
def read? (numeral : List Char) : Option Decimal :=
  let whole := numeral.takeWhile isDigit
  if whole.isEmpty then none
  else match numeral.dropWhile isDigit with
    | [] => some (ofDigits whole [])
    | '.' :: fraction =>
      if fraction.isEmpty || !fraction.all isDigit then none
      else some (ofDigits whole fraction)
    | _ => none

/-! ## The two forms -/

theorem read?_whole {whole : List Char} (hne : whole ≠ []) (h : ∀ c ∈ whole, isDigit c = true) :
    read? whole = some (ofDigits whole []) := by
  have htake := takeWhile_eq_self h
  have hdrop := dropWhile_eq_nil h
  have he : whole.isEmpty = false := by cases whole <;> trivial
  simp only [read?, htake, hdrop, he, Bool.false_eq_true, if_false]

theorem read?_fraction {whole fraction : List Char} (hw : whole ≠ [])
    (hwd : ∀ c ∈ whole, isDigit c = true) (hf : fraction ≠ [])
    (hfd : ∀ c ∈ fraction, isDigit c = true) :
    read? (whole ++ '.' :: fraction) = some (ofDigits whole fraction) := by
  have hpoint : ∀ c ∈ ('.' :: fraction).head?, isDigit c = false := by
    rintro c ⟨⟩
    decide
  have htake := takeWhile_run hwd hpoint
  have hdrop := dropWhile_run hwd hpoint
  have hwe : whole.isEmpty = false := by cases whole <;> trivial
  have hfe : fraction.isEmpty = false := by cases fraction <;> trivial
  have hall : fraction.all isDigit = true := List.all_eq_true.mpr hfd
  simp only [read?, htake, hdrop, hwe, hfe, hall, Bool.not_true, Bool.or_self, Bool.false_eq_true,
    if_false]

end Decimal

end Loxeme
