import Promptline.Number.Double

/-!
# Decimal numbers

A decimal number is a signed coefficient times a power of ten. `Decimal.shortest?` finds the
decimal with the fewest digits that reads back as a given double.
-/

namespace Promptline.Number

/-- The number `coefficient * 10 ^ exponent` with a sign; zero has a sign too. -/
structure Decimal where
  /-- Whether the number carries a minus sign. -/
  negative : Bool
  /-- Digits, read as one natural number. -/
  coefficient : Nat
  /-- Power of ten that the coefficient counts. -/
  exponent : Int
  deriving DecidableEq, Repr

namespace Decimal

/-- Number of decimal digits of a natural number; zero has one. -/
def digitCount (n : Nat) : Nat :=
  (Nat.toDigits 10 n).length

/-- Exponent of the leading digit. -/
def adjusted (d : Decimal) : Int :=
  d.exponent + digitCount d.coefficient - 1

/-- Nearest double. Numbers far beyond either end of the range need no arithmetic. -/
def toFloat (d : Decimal) : Float :=
  if d.coefficient = 0 ∨ d.adjusted < -400 then withSign d.negative 0.0
  else if d.adjusted > 400 then infinity d.negative
  else withSign d.negative (Float.ofScientific d.coefficient (d.exponent < 0) d.exponent.natAbs)

/-- Move trailing zeros of the coefficient into the exponent, at most `fuel` of them. -/
def dropZeros : Nat → Nat → Int → Nat × Int
  | 0, coefficient, exponent => (coefficient, exponent)
  | fuel + 1, coefficient, exponent =>
      if coefficient % 10 = 0 then dropZeros fuel (coefficient / 10) (exponent + 1)
      else (coefficient, exponent)

/-- Exponent of the leading digit of the positive fraction `top / bottom`. -/
def leadingExponent (top bottom : Nat) : Int :=
  if bottom ≤ top then digitCount (top / bottom) - 1
  else -digitCount ((bottom - 1) / top)

/-- The multiple of `10 ^ exponent` at or just below the fraction `top / bottom`. -/
def gridFloor (top bottom : Nat) (exponent : Int) : Nat :=
  if 0 ≤ exponent then top / (bottom * Nat.pow 10 exponent.toNat)
  else top * Nat.pow 10 exponent.natAbs / bottom

/-- Both sides of the comparison of `coefficient * 10 ^ exponent` with `top / bottom`, over a
common denominator. -/
def scaled (coefficient : Nat) (exponent : Int) (top bottom : Nat) : Nat × Nat :=
  if 0 ≤ exponent then (coefficient * Nat.pow 10 exponent.toNat * bottom, top)
  else (coefficient * bottom, top * Nat.pow 10 exponent.natAbs)

/-- The numbers that read back as one double, as fractions over `bottom`. -/
structure Basin where
  /-- Least numerator. -/
  low : Nat
  /-- Numerator of the double itself. -/
  value : Nat
  /-- Greatest numerator. -/
  high : Nat
  /-- Common denominator. -/
  bottom : Nat
  /-- Whether both ends still read back. -/
  closed : Bool

namespace Basin

/-- Half the distance to either neighbour, ends included for an even mantissa. -/
def ofDouble (d : Double) : Basin where
  low := 4 * d.magnitude - (if d.atBinade then 1 else 2) * Nat.pow 2 d.shift
  value := 4 * d.magnitude
  high := 4 * d.magnitude + 2 * Nat.pow 2 d.shift
  bottom := 4 * unitsPerOne
  closed := d.mantissa % 2 == 0

/-- Whether a decimal reads back as the double. -/
def contains (basin : Basin) (coefficient : Nat) (exponent : Int) : Bool :=
  let (low, lowTop) := scaled coefficient exponent basin.low basin.bottom
  let (high, highTop) := scaled coefficient exponent basin.high basin.bottom
  if basin.closed then lowTop ≤ low && high ≤ highTop else lowTop < low && high < highTop

/-- Distance of a decimal from the double, over a denominator that depends on the exponent. -/
def distance (basin : Basin) (coefficient : Nat) (exponent : Int) : Nat :=
  let (here, there) := scaled coefficient exponent basin.value basin.bottom
  (here - there) + (there - here)

/-- The neighbour of the double on the grid of `exponent` that reads back; the nearer one if
both do, and the even one of two that are equally near. -/
def nearest? (basin : Basin) (exponent : Int) : Option Nat :=
  let floor := gridFloor basin.value basin.bottom exponent
  match basin.contains floor exponent, basin.contains (floor + 1) exponent with
  | false, false => none
  | true, false => some floor
  | false, true => some (floor + 1)
  | true, true =>
      let below := basin.distance floor exponent
      let above := basin.distance (floor + 1) exponent
      if below < above then some floor
      else if above < below then some (floor + 1)
      else if floor % 2 = 0 then some floor else some (floor + 1)

/-- The first of the grids with `digits`, `digits + 1`, … digits that has a hit. -/
def search (basin : Basin) (leading : Int) : Nat → Nat → Nat × Int
  | 0, digits => (gridFloor basin.value basin.bottom (leading - digits + 1), leading - digits + 1)
  | fuel + 1, digits =>
      let exponent := leading - digits + 1
      match basin.nearest? exponent with
      | some coefficient => (coefficient, exponent)
      | none => search basin leading fuel (digits + 1)

end Basin

/-- The decimal with the fewest digits that reads back as the double, and of those the nearest
to it. Seventeen digits are always enough. Zero has one decimal place. -/
def ofDouble (d : Double) : Decimal :=
  if d.mantissa = 0 then ⟨d.negative, 0, -1⟩
  else
    let basin := Basin.ofDouble d
    let leading := leadingExponent basin.value basin.bottom
    let (coefficient, exponent) := basin.search leading 17 1
    let (coefficient, exponent) := dropZeros 17 coefficient exponent
    ⟨d.negative, coefficient, exponent⟩

/-- The shortest decimal of a finite double. -/
def shortest? (x : Float) : Option Decimal :=
  (Double.ofFloat? x).map ofDouble

end Decimal

end Promptline.Number
