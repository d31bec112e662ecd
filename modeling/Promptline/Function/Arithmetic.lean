import Promptline.Function.Operand
import Promptline.Number.Round

/-!
# Arithmetic functions

Sums, differences and products stay integers as long as both operands are integers. Division
is always a division of doubles, and the remainder takes the sign of the dividend.
-/

namespace Promptline.Arithmetic

/-- Apply an operation to two numbers, on integers if both are integers. -/
def combine (function : String) (ofInts : Int → Int → Int) (ofFloats : Float → Float → Float)
    (a b : Value) : Except Fault Value := do
  match ← a.asNumber function, ← b.asNumber function with
  | .int m, .int n => .ok (.int (ofInts m n))
  | x, y => .ok (.float (ofFloats (← x.toFloat) (← y.toFloat)))

/-- Sum. -/
def add : Value → Value → Except Fault Value :=
  combine "add" (· + ·) (· + ·)

/-- Difference. -/
def sub : Value → Value → Except Fault Value :=
  combine "sub" (· - ·) (· - ·)

/-- Product. -/
def mul : Value → Value → Except Fault Value :=
  combine "mul" (· * ·) (· * ·)

/-- Quotient of doubles; a zero divisor yields an infinity or NaN. -/
def div (a b : Value) : Except Fault Value := do
  let dividend ← a.asFloat "div"
  let divisor ← b.asFloat "div"
  .ok (.float (dividend / divisor))

/-- Remainder of the division that truncates toward zero. -/
def mod (a b : Value) : Except Fault Value := do
  let dividend ← a.asInteger "mod"
  let divisor ← b.asInteger "mod"
  if divisor = 0 then .error .zeroDivisor else .ok (.int (dividend.tmod divisor))

/-- Largest working precision of decimal rounding. -/
def precisionRange : Int := 999999999999999999

/-- Greatest integer of a machine word. -/
def wordRange : Int := 9223372036854775807

/-- Greatest number of places that a decimal unit can be scaled down by. -/
def placeRange : Int := 2000054

/-- Round half to even at a number of decimal places. What is rounded is the shortest decimal
of the number, not its binary value. -/
def roundFloat (x : Float) (places : Int) : Except Fault Float :=
  if places < 0 then
    .error (if Number.isTooLong places then .tooLong .writing else .negativePrecision places)
  else match Number.Decimal.shortest? x with
    | none => .ok x
    | some exact =>
        let precision := exact.workingPrecision places
        if wordRange < precision then .error .precisionBeyondWord
        else if precisionRange < precision then .error .precisionBeyondRange
        else if placeRange < places then .error .placeOutOfReach
        else match exact.quantize? precision.toNat places.toNat with
          | some rounded => .ok rounded.toFloat
          | none => .error .placeOutOfReach

/-- Round a number to a number of places. -/
def round (a b : Value) : Except Fault Value := do
  let x ← a.asFloat "round"
  let places ← b.asInteger "round"
  .ok (.float (← roundFloat x places))

/-- Read a text as a double. -/
def readDouble (text : String) : Except Fault Float :=
  match Number.readFloat? (Text.trimBlank text.toList) with
  | some x => .ok x
  | none => .error (.notANumber text)

/-- Convert to a double; texts are read. -/
def float64 : Value → Except Fault Value
  | .string s => do .ok (.float (← readDouble s))
  | value => do .ok (.float (← value.asFloat "float64"))

/-- A double without its fraction. -/
def wholePart (x : Float) : Except Fault Int :=
  match Number.truncate? x with
  | some n => .ok n
  | none => .error (.notFinite x)

/-- Convert to an integer, toward zero; texts are read. -/
def int : Value → Except Fault Value
  | .string s =>
      match Number.readInteger (Text.trimBlank s.toList) with
      | .ok n => .ok (.int n)
      | .error _ => do .ok (.int (← wholePart (← readDouble (Text.trim s))))
  | value => do
      match ← value.asNumber "int" with
      | .int n => .ok (.int n)
      | .float x => .ok (.int (← wholePart x))

end Promptline.Arithmetic
