import Promptline.Text.Quoted
import Promptline.Value

/-!
# Function faults

Why a template function rejects its arguments.
-/

namespace Promptline

/-- A reason for which a template function fails. -/
inductive Fault
  /-- An argument had to be a number. -/
  | expectedNumber (function got : String)
  /-- An argument had to be a whole number. -/
  | expectedInteger (function : String) (got : Float)
  /-- An argument had to be a text. -/
  | expectedString (function got : String)
  /-- An integer is larger than every double. -/
  | beyondDoubles
  /-- A number of places below zero. -/
  | negativePrecision (places : Int)
  /-- A number of places that does not fit a machine word. -/
  | precisionBeyondWord
  /-- A number of places beyond the largest working precision. -/
  | precisionBeyondRange
  /-- Rounding at a place that decimals do not reach. -/
  | placeOutOfReach
  /-- A division of integers by zero. -/
  | zeroDivisor
  /-- A text that is no number. -/
  | notANumber (text : String)
  /-- An infinity or NaN in place of an integer. -/
  | notFinite (got : Float)
  /-- Two values of kinds that do not compare. -/
  | incomparable (function left right : String)
  /-- Truth values have no order. -/
  | unordered (function : String)
  /-- A value that has no length. -/
  | noLength (got : String)
  /-- An integer is too long to be written. -/
  | tooLong (limit : DigitLimit)

namespace Fault

/-- Broad classes of faults. -/
inductive Kind
  /-- An argument of the wrong kind. -/
  | type
  /-- An argument of the right kind that cannot be used. -/
  | value
  /-- A number too large for its destination. -/
  | overflow
  /-- A decimal operation without a result. -/
  | decimal
  deriving DecidableEq, Repr

/-- The class of a fault. -/
def kind : Fault → Kind
  | expectedNumber .. => .type
  | expectedInteger .. => .value
  | expectedString .. => .type
  | beyondDoubles => .overflow
  | negativePrecision _ => .value
  | precisionBeyondWord => .overflow
  | precisionBeyondRange => .value
  | placeOutOfReach => .decimal
  | zeroDivisor => .value
  | notANumber _ => .value
  | notFinite _ => .value
  | incomparable .. => .type
  | unordered _ => .type
  | noLength _ => .type
  | tooLong _ => .value

/-- Text of a fault. -/
def message : Fault → String
  | expectedNumber function got => function ++ ": expected number, got " ++ got
  | expectedInteger function got =>
      function ++ ": expected integer, got " ++ Number.floatText got
  | expectedString function got => function ++ ": expected string, got " ++ got
  | beyondDoubles => "int too large to convert to float"
  | negativePrecision places =>
      "round: precision must be non-negative, got " ++ Number.intText places
  | precisionBeyondWord => "Python int too large to convert to C ssize_t"
  | precisionBeyondRange => "valid range for prec is [1, MAX_PREC]"
  | placeOutOfReach => "[<class 'decimal.InvalidOperation'>]"
  | zeroDivisor => "mod: integer division by zero"
  | notANumber text => "float64: cannot convert " ++ Text.quoted text ++ " to a number"
  | notFinite got => "int: cannot convert " ++ Number.floatText got ++ " to an integer"
  | incomparable function left right =>
      function ++ ": incompatible types for comparison: " ++ left ++ " and " ++ right
  | unordered function => function ++ ": invalid type for comparison: bool"
  | noLength got => "len: invalid type " ++ got
  | tooLong limit => limit.message

end Fault

end Promptline
