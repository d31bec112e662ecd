import Promptline.Function.Fault
import Promptline.Number.Read

/-!
# Operands

How functions take their arguments: as numbers, whole numbers or texts. Nil and missing values
stand for zero and for the empty text.
-/

namespace Promptline

/-- A numeric operand. -/
inductive Numeric
  /-- An integer of any size. -/
  | int (n : Int)
  /-- A double. -/
  | float (x : Float)

namespace Numeric

/-- The operand as a value. -/
def toValue : Numeric → Value
  | int n => .int n
  | float x => .float x

/-- The operand as a double. -/
def toFloat : Numeric → Except Fault Float
  | float x => .ok x
  | int n =>
      match Number.ofInt? n with
      | some x => .ok x
      | none => .error .beyondDoubles

/-- Where the operand lies on the extended line; NaN lies nowhere. -/
def place? : Numeric → Option Number.Place
  | int n => some (.ofInt n)
  | float x => Number.Place.ofFloat? x

end Numeric

namespace Value

/-- Take an argument as a number. -/
def asNumber (function : String) : Value → Except Fault Numeric
  | missing => .ok (.int 0)
  | nil => .ok (.int 0)
  | int n => .ok (.int n)
  | float x => .ok (.float x)
  | value => .error (.expectedNumber function value.typeName)

/-- Take an argument as a whole number. -/
def asInteger (function : String) (value : Value) : Except Fault Int := do
  match ← value.asNumber function with
  | .int n => .ok n
  | .float x =>
      match Number.Double.ofFloat? x with
      | some d => if d.isWhole then .ok d.truncate else .error (.expectedInteger function x)
      | none => .error (.expectedInteger function x)

/-- Take an argument as a double. -/
def asFloat (function : String) (value : Value) : Except Fault Float := do
  (← value.asNumber function).toFloat

/-- Take an argument as a text. -/
def asText (function : String) : Value → Except Fault String
  | missing => .ok ""
  | nil => .ok ""
  | string s => .ok s
  | value => .error (.expectedString function value.typeName)

end Value

end Promptline
