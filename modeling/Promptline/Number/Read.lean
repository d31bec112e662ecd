import Promptline.Number.Decimal
import Promptline.Number.Limit
import Promptline.Text.Blank
import Promptline.Text.Digit

/-!
# Reading numbers

Integers and doubles as people write them: digits of any script, single underscores between
digits, surrounding white space. Decimal integers are limited in length.
-/

namespace Promptline.Number

/-- The number that digits of a base stand for, the first one being the most significant. -/
def ofDigits (base : Nat) (digits : List Nat) : Nat :=
  digits.foldl (fun n digit => n * base + digit) 0

/-- The digits that continue a number, each after at most one underscore, and the rest. -/
def moreDigits : List Char → List Nat × List Char
  | [] => ([], [])
  | '_' :: c :: cs =>
      match Text.digitValue? c with
      | some digit =>
          let (digits, rest) := moreDigits cs
          (digit :: digits, rest)
      | none => ([], '_' :: c :: cs)
  | c :: cs =>
      match Text.digitValue? c with
      | some digit =>
          let (digits, rest) := moreDigits cs
          (digit :: digits, rest)
      | none => ([], c :: cs)

/-- The digits at the front, with single underscores between them, and the rest. -/
def takeDigits : List Char → List Nat × List Char
  | [] => ([], [])
  | c :: cs =>
      match Text.digitValue? c with
      | some digit =>
          let (digits, rest) := moreDigits cs
          (digit :: digits, rest)
      | none => ([], c :: cs)

/-- Why a text is not an integer. -/
inductive IntegerFault
  /-- The text is no decimal integer. -/
  | malformed
  /-- The integer has more digits than the limit. -/
  | tooLong (digits : Nat)
  deriving DecidableEq, Repr

/-- Take a sign off the front; the flag is set for a minus sign. -/
def takeSign : List Char → Bool × List Char
  | '-' :: cs => (true, cs)
  | '+' :: cs => (false, cs)
  | cs => (false, cs)

/-- Read a decimal integer. -/
def readInteger (cs : List Char) : Except IntegerFault Int :=
  let (negative, body) := takeSign (Text.trimPadding cs)
  match takeDigits body with
  | ([], _) => .error .malformed
  | (digits, []) =>
      if digits.length > digitLimit then .error (.tooLong digits.length)
      else
        let n := ofDigits 10 digits
        .ok (if negative then -n else n)
  | (_, _ :: _) => .error .malformed

/-- Read an exponent, or nothing at all, up to the end of the text. -/
def readExponent? : List Char → Option Int
  | [] => some 0
  | c :: cs =>
      if c = 'e' ∨ c = 'E' then
        let (negative, body) := takeSign cs
        match takeDigits body with
        | (digits@(_ :: _), []) =>
            let n := ofDigits 10 digits
            some (if negative then -n else n)
        | _ => none
      else none

/-- Read an unsigned decimal number with an optional fraction and exponent. -/
def readDecimal? (negative : Bool) (cs : List Char) : Option Decimal :=
  let (whole, afterWhole) := takeDigits cs
  let (fraction, afterFraction) := match afterWhole with
    | '.' :: cs' => takeDigits cs'
    | _ => ([], afterWhole)
  if whole.isEmpty && fraction.isEmpty then none
  else (readExponent? afterFraction).map fun exponent =>
    ⟨negative, ofDigits 10 (whole ++ fraction), exponent - fraction.length⟩

/-- Read a double: a decimal number, an infinity or a NaN, in any case. -/
def readFloat? (cs : List Char) : Option Float :=
  let (negative, body) := takeSign (Text.trimPadding cs)
  let word := body.map Char.toLower
  if word = ['i', 'n', 'f'] ∨ word = ['i', 'n', 'f', 'i', 'n', 'i', 't', 'y'] then
    some (infinity negative)
  else if word = ['n', 'a', 'n'] then some notANumber
  else (readDecimal? negative body).map Decimal.toFloat

end Promptline.Number
