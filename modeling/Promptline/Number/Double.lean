/-!
# Finite doubles as integers

Every finite double is a whole number of units of `2 ^ -1074`, the least positive double. The
order of numbers, their truncation and their shortest text are all computed exactly on these
units.
-/

namespace Promptline.Number

/-- Exponent of the least positive double. -/
def unitShift : Nat := 1074

/-- Units in the number one. -/
def unitsPerOne : Nat := Nat.pow 2 unitShift

/-- A finite double taken apart: its magnitude is `mantissa * 2 ^ shift` units. -/
structure Double where
  /-- Whether the sign bit is set. -/
  negative : Bool
  /-- Significand, the hidden bit included. -/
  mantissa : Nat
  /-- Exponent, counted from that of the least positive double. -/
  shift : Nat
  /-- Whether the doubles just below lie half as far apart as those just above. -/
  atBinade : Bool
  deriving DecidableEq, Repr

namespace Double

/-- Take a double apart; infinities and NaN have no parts. -/
def ofFloat? (x : Float) : Option Double :=
  let bits := x.toBits.toNat
  let fraction := bits % Nat.pow 2 52
  let biased := bits / Nat.pow 2 52 % Nat.pow 2 11
  let negative := bits / Nat.pow 2 63 == 1
  if biased = 2047 then none
  else if biased = 0 then some ⟨negative, fraction, 0, false⟩
  else some ⟨negative, fraction + Nat.pow 2 52, biased - 1, fraction == 0 && biased > 1⟩

/-- Magnitude in units. -/
def magnitude (d : Double) : Nat :=
  d.mantissa * Nat.pow 2 d.shift

/-- Signed number of units. -/
def units (d : Double) : Int :=
  if d.negative then -d.magnitude else d.magnitude

/-- Whether the value is a whole number. -/
def isWhole (d : Double) : Bool :=
  d.magnitude % unitsPerOne == 0

/-- The value without its fraction. -/
def truncate (d : Double) : Int :=
  d.units.tdiv unitsPerOne

end Double

/-- Where a number lies on the extended line. -/
inductive Place
  /-- Negative infinity. -/
  | below
  /-- A whole number of units. -/
  | at (units : Int)
  /-- Positive infinity. -/
  | above
  deriving DecidableEq, Repr

namespace Place

/-- The order of the extended line. -/
def compare : Place → Place → Ordering
  | below, below => .eq
  | below, _ => .lt
  | _, below => .gt
  | above, above => .eq
  | above, _ => .gt
  | _, above => .lt
  | .at m, .at n => Ord.compare m n

/-- Place of an integer. -/
def ofInt (n : Int) : Place :=
  .at (n * unitsPerOne)

/-- Place of a double; NaN has none. -/
def ofFloat? (x : Float) : Option Place :=
  match Double.ofFloat? x with
  | some d => some (.at d.units)
  | none =>
      if x.isNaN then none
      else if x < 0 then some below
      else some above

end Place

/-- Whether a double is a whole number. -/
def isWhole (x : Float) : Bool :=
  match Double.ofFloat? x with
  | some d => d.isWhole
  | none => false

/-- A finite double without its fraction; infinities and NaN have no such integer. -/
def truncate? (x : Float) : Option Int :=
  (Double.ofFloat? x).map Double.truncate

/-- Negative infinity for a set sign, positive infinity otherwise. -/
def infinity (negative : Bool) : Float :=
  if negative then -1.0 / 0.0 else 1.0 / 0.0

/-- The double that is not a number. -/
def notANumber : Float :=
  0.0 / 0.0

/-- Change the sign if asked to. -/
def withSign (negative : Bool) (x : Float) : Float :=
  if negative then -x else x

/-- Nearest double of an integer, ties to even; integers beyond the largest double have none. -/
def ofInt? (n : Int) : Option Float :=
  let x := withSign (n < 0) (Float.ofScientific n.natAbs false 0)
  if x.isInf then none else some x

end Promptline.Number
