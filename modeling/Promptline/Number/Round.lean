import Promptline.Number.Decimal

/-!
# Rounding decimals

Rounding to a number of decimal places, ties to the even neighbour, with a bound on the digits
of the result.
-/

namespace Promptline.Number

/-- The quotient of two numbers rounded to the nearest integer, ties to the even one. -/
def divideToEven (top bottom : Nat) : Nat :=
  let quotient := top / bottom
  let rest := 2 * (top % bottom)
  if rest < bottom ∨ (rest = bottom ∧ quotient % 2 = 0) then quotient else quotient + 1

namespace Decimal

/-- Round to a multiple of `10 ^ -places`, or to nothing if its digits down to the last place
would be more than `precision`. A number that is such a multiple already stays as it is. The range
of exponents is not checked: no double comes near an end of it. -/
def quantize? (precision places : Nat) (d : Decimal) : Option Decimal :=
  if d.coefficient = 0 then some d
  else if -(places : Int) ≤ d.exponent then
    if d.adjusted + 1 + places ≤ precision then some d else none
  else
    let shift := (-(places : Int) - d.exponent).toNat
    let rounded := divideToEven d.coefficient (Nat.pow 10 shift)
    if rounded < Nat.pow 10 precision then some ⟨d.negative, rounded, -(places : Int)⟩ else none

/-- The precision that rounding to `places` places works with. -/
def workingPrecision (places : Int) (d : Decimal) : Int :=
  max 28 (d.adjusted + places + 2)

end Decimal

end Promptline.Number
