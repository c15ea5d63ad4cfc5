import Loxeme.Binary64.Text

/-!
# Literal values

The value that the token of a number or of a string carries.

* `Literal.toText`: a number is written in its shortest form, a string as it is.
* `Literal.agrees`: equality with the numbers compared as numbers.
-/

namespace Loxeme

/-- The value of a number or of a string without its quotes. -/
inductive Literal
  | number (value : Binary64)
  | text (value : String)
  deriving DecidableEq, Repr

namespace Literal

/-- Numbers from 0.0001 to below 1e16 are written with a point and at least one digit on either
side of it, all others with an exponent. -/
def layout : Binary64.Layout where
  least := -4
  greatest := 15

/-- The text of a value. -/
def toText : Literal → String
  | .number value => String.ofList (value.toText layout)
  | .text value => value

example : (number (.ofBits 0x4045000000000000)).toText = "42.0" := by decide +kernel

example : (number (.ofBits 0x8000000000000000)).toText = "-0.0" := by decide +kernel

example : (number (.ofBits 0x3F1A36E2EB1C432D)).toText = "0.0001" := by decide +kernel

example : (number (.ofBits 0x3EF4F8B588E368F1)).toText = "2e-5" := by decide +kernel

example : (number (.ofBits 0x4341C37937E08000)).toText = "1e16" := by decide +kernel

example : (number (.ofBits 1)).toText = "5e-324" := by decide +kernel

/-- The number, if the value is one. -/
def number? : Literal → Option Binary64
  | .number value => some value
  | .text _ => none

/-- The text, if the value is one. -/
def text? : Literal → Option String
  | .number _ => none
  | .text value => some value

/-- Equality of two values, with numbers compared as IEEE 754 has it. -/
def agrees : Literal → Literal → Bool
  | .number x, .number y => x.agrees y
  | .text s, .text t => s == t
  | _, _ => false

/-- Equality of two values that may be missing. -/
def agrees? : Option Literal → Option Literal → Bool
  | some x, some y => x.agrees y
  | none, none => true
  | _, _ => false

end Literal

end Loxeme
