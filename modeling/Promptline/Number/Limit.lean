/-!
# Length of decimal integers

Decimal integers are limited in length, both when they are read and when they are written.
-/

namespace Promptline

/-- An integer whose decimal text would be, or is, longer than allowed. -/
inductive DigitLimit
  /-- A text of this many digits was to be read. -/
  | reading (digits : Nat)
  /-- A number was to be written. -/
  | writing
  deriving DecidableEq, Repr

namespace DigitLimit

/-- Text of the problem. -/
def message : DigitLimit → String
  | reading digits =>
      "Exceeds the limit (4300 digits) for integer string conversion: value has " ++
        toString digits ++ " digits; use sys.set_int_max_str_digits() to increase the limit"
  | writing =>
      "Exceeds the limit (4300 digits) for integer string conversion; " ++
        "use sys.set_int_max_str_digits() to increase the limit"

end DigitLimit

namespace Number

/-- Most decimal digits that an integer's text may have. -/
def digitLimit : Nat := 4300

/-- Whether an integer is too long to be written. -/
def isTooLong (n : Int) : Bool :=
  Nat.pow 10 digitLimit ≤ n.natAbs

end Number

end Promptline
