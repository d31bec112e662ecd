import Promptline.Number.Decimal
import Promptline.Text.Pieces

/-!
# Number notation

How a double is written. A `FloatStyle` fixes the range of positional notation and the form of
an exponent; the digits are always the fewest that read back.
-/

namespace Promptline.Number

/-- Decisions of a notation for finite doubles. -/
structure FloatStyle where
  /-- Least position of the decimal point, counted from the first digit, written positionally. -/
  lowest : Int
  /-- Greatest position of the decimal point written positionally. -/
  highest : Int
  /-- Whether a non-negative exponent has a plus sign. -/
  plusSign : Bool
  /-- Least number of exponent digits. -/
  exponentWidth : Nat
  deriving DecidableEq, Repr

namespace FloatStyle

/-- Messages write doubles positionally below `10 ^ 16` and down to `10 ^ -4`, and give an
exponent a sign and two digits. -/
def message : FloatStyle := ⟨-3, 16, true, 2⟩

/-- JSON output writes doubles positionally below `10 ^ 16` and down to `10 ^ -5`, with plain
exponents. -/
def json : FloatStyle := ⟨-4, 16, false, 1⟩

/-- Digits with a decimal point after the first `point` of them; a whole number ends in `.0`. -/
def positional (digits : List Char) (point : Int) : List Char :=
  if point ≤ 0 then '0' :: '.' :: List.replicate point.natAbs '0' ++ digits
  else if digits.length ≤ point.toNat then
    digits ++ List.replicate (point.toNat - digits.length) '0' ++ ['.', '0']
  else digits.take point.toNat ++ '.' :: digits.drop point.toNat

/-- An exponent with its sign. -/
def exponentText (style : FloatStyle) (exponent : Int) : List Char :=
  let sign := if exponent < 0 then ['-'] else if style.plusSign then ['+'] else []
  'e' :: sign ++ Text.padLeft style.exponentWidth '0' (Nat.toDigits 10 exponent.natAbs)

/-- One digit, the others after a point, and an exponent. -/
def scientific (style : FloatStyle) (digits : List Char) (point : Int) : List Char :=
  let lead := match digits with
    | first :: more@(_ :: _) => first :: '.' :: more
    | short => short
  lead ++ style.exponentText (point - 1)

/-- Text of a decimal number. -/
def decimalText (style : FloatStyle) (d : Decimal) : List Char :=
  let digits := Nat.toDigits 10 d.coefficient
  let point := d.exponent + digits.length
  let body :=
    if style.lowest ≤ point ∧ point ≤ style.highest then positional digits point
    else style.scientific digits point
  if d.negative then '-' :: body else body

end FloatStyle

/-- A double as messages show it. -/
def floatText (x : Float) : String :=
  match Decimal.shortest? x with
  | some d => String.ofList (FloatStyle.message.decimalText d)
  | none => if x.isNaN then "nan" else if x < 0 then "-inf" else "inf"

/-- A double as JSON output writes it; infinities and NaN are null there. -/
def floatJson (x : Float) : String :=
  match Decimal.shortest? x with
  | some d => String.ofList (FloatStyle.json.decimalText d)
  | none => "null"

/-- Decimal text of an integer. -/
def intText (n : Int) : String :=
  let digits := Nat.toDigits 10 n.natAbs
  String.ofList (if n < 0 then '-' :: digits else digits)

end Promptline.Number
