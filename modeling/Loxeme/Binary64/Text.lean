import Loxeme.Binary64.Shortest

/-!
# Written numbers

A double precision number is written with its shortest digits, in one of two layouts. A positional
text has a point with at least one digit on each side; a scientific text has one digit, the others
behind a point if there are any, and the exponent of ten of the first digit. Which layout is taken
depends on that exponent alone.

* `Binary64.Layout`: the span of exponents that are written positionally.
* `Binary64.toText`: the text of a number.
-/

namespace Loxeme

namespace Binary64

/-- The exponents of the leading digit for which a number is written positionally, both ends
included. -/
structure Layout where
  least : Int
  greatest : Int
  deriving DecidableEq, Repr

/-- The decimal digits of a natural number, the most significant first. -/
def figures (n : Nat) : List Char :=
  Nat.toDigits 10 n

/-- The exponent of ten of the leading digit of a decimal whose coefficient is written with
`digits`. -/
def leadingExponent (digits : List Char) (exponent : Int) : Int :=
  digits.length + exponent - 1

/-- Digits with a point so that the first one has the place `10 ^ lead`, filled up with zeros on
either side of the point where it has no digit. -/
def positional (digits : List Char) (lead : Int) : List Char :=
  if lead < 0 then '0' :: '.' :: (List.replicate (-lead - 1).toNat '0' ++ digits)
  else
    let wholeCount := lead.toNat + 1
    let whole := digits.take wholeCount ++ List.replicate (wholeCount - digits.length) '0'
    let fraction := digits.drop wholeCount
    whole ++ '.' :: (if fraction.isEmpty then ['0'] else fraction)

/-- The text of an integer: a minus sign if it is negative, then the digits of its magnitude. -/
def signedFigures (n : Int) : List Char :=
  if n < 0 then '-' :: figures n.natAbs else figures n.natAbs

/-- One digit, a point and the other digits unless there are none, and the exponent. -/
def scientific (digits : List Char) (lead : Int) : List Char :=
  let tail := digits.drop 1
  digits.take 1 ++ (if tail.isEmpty then [] else '.' :: tail) ++ 'e' :: signedFigures lead

/-- Digits in the layout that their leading exponent calls for. -/
def Layout.write (layout : Layout) (d : Decimal) : List Char :=
  let digits := figures d.coefficient
  let lead := leadingExponent digits d.exponent
  if layout.least ≤ lead ∧ lead ≤ layout.greatest then positional digits lead
  else scientific digits lead

/-- The text of a magnitude: zero has a digit on each side of the point, and the infinite magnitude
is a word. -/
def Layout.magnitude (layout : Layout) (code : Nat) : List Char :=
  if code == infinityCode then ['i', 'n', 'f']
  else if code == 0 then ['0', '.', '0']
  else layout.write (shortest code)

/-- The text of a number. What is no number has no sign. -/
def toText (layout : Layout) (x : Binary64) : List Char :=
  if x.isNaN then ['N', 'a', 'N']
  else if x.negative then '-' :: layout.magnitude x.code
  else layout.magnitude x.code

end Binary64

end Loxeme
