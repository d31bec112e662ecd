import Promptline.Document
import Promptline.Document.Fault
import Promptline.Number.Read
import Promptline.Text.Case
import Promptline.Text.Pieces

/-!
# Scalars of YAML

The kind of an untagged plain text is told from its look: truth values, doubles, integers, null,
dates and times; anything else is a text. Numbers may have underscores, and parts in base sixty
with colons between them.
-/

namespace Promptline.Yaml

/-- Kinds of scalars. -/
inductive ScalarKind
  /-- No value. -/
  | null
  /-- A truth value. -/
  | truth
  /-- An integer. -/
  | integer
  /-- A double. -/
  | float
  /-- Bytes in base sixty-four. -/
  | binary
  /-- A date, alone or with a time of day. -/
  | timestamp
  /-- A text. -/
  | text
  /-- The key that merges a table into the one that holds it. -/
  | merge
  /-- The key that stands for a table's own value. -/
  | self
  deriving DecidableEq, Repr

namespace Scalar

/-- Words for truth values, in lower case. -/
def truthWords : List (String × Bool) :=
  [("yes", true), ("no", false), ("true", true), ("false", false), ("on", true), ("off", false)]

/-- Whether a text is a word in lower case, in upper case, or with a capital. -/
def isWordForm (word : String) (cs : List Char) : Bool :=
  let lower := word.toList
  let upper := lower.map Char.toUpper
  cs == lower || cs == upper || cs == upper.take 1 ++ lower.drop 1

/-- Whether a plain text is a truth value. -/
def isTruth (cs : List Char) : Bool :=
  truthWords.any fun entry => isWordForm entry.1 cs

/-- Whether a plain text means nothing. -/
def isNull (cs : List Char) : Bool :=
  cs.isEmpty || cs == ['~'] || isWordForm "null" cs

/-- Whether a character is a digit or an underscore. -/
def isDigitMark (c : Char) : Bool :=
  c.isDigit || c == '_'

/-- Whether a text is one or more parts below sixty, each after a colon. -/
def isSixties (cs : List Char) : Bool :=
  match Text.splitOn ':' cs with
  | [] :: first :: rest => (first :: rest).all fun part =>
      (part.length == 1 || (part.length == 2 && part.head?.any fun c => '0' ≤ c && c ≤ '5')) &&
        part.all Char.isDigit
  | _ => false

/-- Whether a text is a signed exponent, or nothing. -/
def isExponent : List Char → Bool
  | [] => true
  | e :: sign :: digits =>
      (e == 'e' || e == 'E') && (sign == '+' || sign == '-') && !digits.isEmpty &&
        digits.all Char.isDigit
  | _ => false

/-- Whether a plain text is a double. -/
def isFloat (cs : List Char) : Bool :=
  let body := (Number.takeSign cs).2
  let whole := body.takeWhile isDigitMark
  let startsDigit (cs : List Char) : Bool := cs.head?.any Char.isDigit
  let afterWhole := body.drop whole.length
  let sixties := afterWhole.takeWhile fun c => c == ':' || c.isDigit
  (match body with
    | '.' :: word => isWordForm "inf" word
    | _ => false) ||
  (match cs with
    | '.' :: rest =>
        rest == "nan".toList || rest == "NaN".toList || rest == "NAN".toList ||
          (startsDigit rest && isExponent (rest.dropWhile isDigitMark))
    | _ => false) ||
  (startsDigit whole && match afterWhole with
    | '.' :: rest => isExponent (rest.dropWhile isDigitMark)
    | _ => isSixties sixties && match afterWhole.drop sixties.length with
      | '.' :: rest => rest.all isDigitMark
      | _ => false)

/-- Whether a plain text is an integer. -/
def isInteger (cs : List Char) : Bool :=
  match (Number.takeSign cs).2 with
  | ['0'] => true
  | '0' :: 'b' :: digits =>
      !digits.isEmpty && digits.all fun c => c == '0' || c == '1' || c == '_'
  | '0' :: 'x' :: digits => !digits.isEmpty && digits.all fun c => Text.isHexDigit c || c == '_'
  | '0' :: digits => digits.all fun c => ('0' ≤ c && c ≤ '7') || c == '_'
  | c :: rest =>
      c.isDigit && match rest.dropWhile isDigitMark with
        | [] => true
        | sixties => isSixties sixties
  | [] => false

/-- A date with a time of day, or a date alone. -/
structure Stamp where
  /-- Year, month and day. -/
  date : Nat × Nat × Nat
  /-- Hour, minute, second and microsecond, and the zone. -/
  time : Option ((Nat × Nat × Nat × Nat) × Option Zone)

/-- A number of so many digits, and the text after it. -/
def digits? (least most : Nat) (cs : List Char) : Option (Nat × List Char) :=
  let digits := (cs.take most).takeWhile Char.isDigit
  if digits.length < least then none
  else some (Number.ofDigits 10 (digits.filterMap Text.digitValue?), cs.drop digits.length)

/-- A fixed character. -/
def mark? (mark : Char) : List Char → Option (List Char)
  | c :: cs => if c = mark then some cs else none
  | [] => none

/-- A zone, or nothing, up to the end of the text. -/
def zone? (cs : List Char) : Option (Option Zone) := do
  match cs.dropWhile fun c => c == ' ' || c == '\t' with
  | [] => if cs.isEmpty then some none else none
  | ['Z'] => some (some Zone.universal)
  | sign :: rest =>
      if sign = '+' ∨ sign = '-' then
        let (hours, rest) ← digits? 1 2 rest
        let minutes ← match rest with
          | [] => some 0
          | _ => do
              let (minutes, rest) ← digits? 2 2 (← mark? ':' rest)
              if rest.isEmpty then some minutes else none
        let seconds : Int := (hours * 60 + minutes) * 60
        some (some (Zone.fixed (if sign = '-' then -seconds else seconds)))
      else none

/-- The fraction of a second, in microseconds, and the text after it. -/
def fraction (cs : List Char) : Nat × List Char :=
  match cs with
  | '.' :: rest =>
      let digits := rest.takeWhile Char.isDigit
      let six := digits.take 6 ++ List.replicate (6 - digits.length) '0'
      (Number.ofDigits 10 (six.filterMap Text.digitValue?), rest.drop digits.length)
  | _ => (0, cs)

/-- What separates a date from a time of day. -/
def afterDateMark? : List Char → Option (List Char)
  | c :: cs =>
      if c = 'T' ∨ c = 't' then some cs
      else if c = ' ' ∨ c = '\t' then some (cs.dropWhile fun c => c == ' ' || c == '\t')
      else none
  | [] => none

/-- Read a date, alone or with a time of day. Month and day may have a single digit. -/
def stamp? (cs : List Char) : Option Stamp := do
  let (year, rest) ← digits? 4 4 cs
  let (month, rest) ← digits? 1 2 (← mark? '-' rest)
  let (day, rest) ← digits? 1 2 (← mark? '-' rest)
  if rest.isEmpty then some ⟨(year, month, day), none⟩
  else
    let (hour, rest) ← digits? 1 2 (← afterDateMark? rest)
    let (minute, rest) ← digits? 2 2 (← mark? ':' rest)
    let (second, rest) ← digits? 2 2 (← mark? ':' rest)
    let (micro, rest) := fraction rest
    let zone ← zone? rest
    some ⟨(year, month, day), some ((hour, minute, second, micro), zone)⟩

/-- Whether a plain text is a date or a moment. A date alone has all its digits. -/
def isStamp (cs : List Char) : Bool :=
  (stamp? cs).any fun stamp => stamp.time.isSome || cs.length == 10

/-- The kind of a plain text, told from its look. -/
def kindOf (text : String) : ScalarKind :=
  let cs := text.toList
  if isTruth cs then .truth
  else if isFloat cs then .float
  else if isInteger cs then .integer
  else if text = "<<" then .merge
  else if isNull cs then .null
  else if isStamp cs then .timestamp
  else if text = "=" then .self
  else .text

/-- Kinds by the last part of their standard tags. -/
def kinds : List (String × ScalarKind) := [
  ("null", .null), ("bool", .truth), ("int", .integer), ("float", .float), ("binary", .binary),
  ("timestamp", .timestamp), ("str", .text), ("merge", .merge), ("value", .self)]

/-- Remove underscores. -/
def withoutUnderscores (cs : List Char) : List Char :=
  cs.filter (· != '_')

/-- The number that digits stand for in a base; all of them have to be digits of the base. -/
def inBase? (base : Nat) (cs : List Char) : Option Int :=
  let digits := cs.filterMap Text.hexValue?
  if cs.isEmpty || digits.length != cs.length || digits.any (base ≤ ·) then none
  else some (Number.ofDigits base digits)

/-- Whether there is a sign that makes a number negative, and the text after the sign. -/
def signed (sign : Bool) (n : Int) : Int := if sign then -n else n

/-- A decimal integer. -/
def decimal (cs : List Char) : Except DecodeFault Int :=
  match Number.readInteger cs with
  | .ok n => .ok n
  | .error (.tooLong digits) => .error (.tooLong (.reading digits))
  | .error .malformed => .error .malformed

/-- The integer that a text stands for. -/
def integer (text : String) : Except DecodeFault Int :=
  let (negative, cs) := Number.takeSign (withoutUnderscores text.toList)
  let ofOption (n : Option Int) : Except DecodeFault Int :=
    match n with
    | some n => .ok n
    | none => .error .malformed
  let magnitude : Except DecodeFault Int :=
    match cs with
    | [] => .error .malformed
    | ['0'] => .ok 0
    | '0' :: 'b' :: digits => ofOption (inBase? 2 digits)
    | '0' :: 'x' :: digits => ofOption (inBase? 16 digits)
    | '0' :: digits => ofOption (inBase? 8 digits)
    | _ => ((Text.splitOn ':' cs).mapM decimal).map fun parts =>
        parts.foldl (fun n part => n * 60 + part) 0
  magnitude.map (signed negative)

/-- The value of parts in base sixty, added from the last one on. -/
def sixtiesFloat (parts : List Float) : Float :=
  (parts.reverse.foldl (fun (total, base) part =>
    (total + part * Float.ofNat base, base * 60)) ((0.0 : Float), 1)).1

/-- The double that a text stands for. -/
def float? (text : String) : Option Float :=
  let lower := (Text.lower (String.ofList (withoutUnderscores text.toList))).toList
  let (negative, cs) := Number.takeSign lower
  if cs = ".inf".toList then some (Number.infinity negative)
  else if cs = ".nan".toList then some Number.notANumber
  else
    let magnitude :=
      if cs.contains ':' then ((Text.splitOn ':' cs).mapM Number.readFloat?).map sixtiesFloat
      else Number.readFloat? cs
    magnitude.map fun x => if negative then -x else x

/-- The date, and the time of day if there is one; they have to exist. -/
def moment? (text : String) : Option Document := do
  let stamp ← stamp? text.toList
  let (year, month, day) := stamp.date
  if !Calendar.isDate year month day then none
  match stamp.time with
  | none => some (.date year month day)
  | some ((hour, minute, second, micro), zone) =>
      if 23 < hour ∨ 59 < minute ∨ 59 < second ∨ zone.any (86400 ≤ ·.offset.natAbs) then none
      else some (.moment ⟨year, month, day, hour, minute, second, micro, zone, false⟩)

/-- The value of a digit in base sixty-four. -/
def sextet? (c : Char) : Option Nat :=
  if 'A' ≤ c ∧ c ≤ 'Z' then some (c.toNat - 'A'.toNat)
  else if 'a' ≤ c ∧ c ≤ 'z' then some (c.toNat - 'a'.toNat + 26)
  else if c.isDigit then some (c.toNat - '0'.toNat + 52)
  else if c = '+' then some 62
  else if c = '/' then some 63
  else none

/-- Bytes of digits in base sixty-four; a last group may have two or three digits. -/
def octets : List Nat → List Nat
  | a :: b :: c :: d :: rest =>
      [a * 4 + b / 16, b % 16 * 16 + c / 4, c % 4 * 64 + d] ++ octets rest
  | [a, b, c] => [a * 4 + b / 16, b % 16 * 16 + c / 4]
  | [a, b] => [a * 4 + b / 16]
  | _ => []

/-- Bytes in base sixty-four. Other characters do not count; the padding has to be complete. -/
def binary? (text : String) : Option Document :=
  let cs := text.toList
  let digits := (cs.takeWhile (· != '=')).filterMap sextet?
  let padding := (cs.dropWhile (· != '=')).filter (· == '=')
  if cs.any (127 < ·.toNat) || digits.length % 4 == 1 ||
      (digits.length % 4 != 0 && decide (padding.length < 4 - digits.length % 4)) then none
  else some (.bytes (octets digits))

/-- The value of a text of a kind. -/
def value (kind : ScalarKind) (text : String) : Except DecodeFault Document :=
  let ofOption (d : Option Document) : Except DecodeFault Document :=
    match d with
    | some d => .ok d
    | none => .error .malformed
  match kind with
  | .null => .ok .null
  | .truth => ofOption ((truthWords.find? (·.1 == Text.lower text)).map fun entry => .bool entry.2)
  | .integer => (integer text).map .int
  | .float => ofOption ((float? text).map .float)
  | .binary => ofOption (binary? text)
  | .timestamp => ofOption (moment? text)
  | .text => .ok (.string text)
  | .merge => .error .malformed
  | .self => .error .malformed

end Scalar

end Promptline.Yaml
