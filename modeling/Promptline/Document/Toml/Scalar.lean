import Promptline.Document.Toml.Text
import Promptline.Document
import Promptline.Number.Read

/-!
# Scalars of TOML

Truth values, dates and times, and numbers, in the order in which they are tried.
-/

namespace Promptline.Toml

/-- A number of exactly so many digits within bounds. -/
def field? (width low high : Nat) (cs : List Char) : Option (Nat × List Char) :=
  let digits := cs.take width
  if digits.length = width ∧ digits.all Char.isDigit then
    let n := Number.ofDigits 10 (digits.filterMap Text.digitValue?)
    if low ≤ n ∧ n ≤ high then some (n, cs.drop width) else none
  else none

/-- A fixed character. -/
def mark? (p : Char → Bool) : List Char → Option (List Char)
  | c :: cs => if p c then some cs else none
  | [] => none

/-- Microseconds of a fraction of a second; digits after the sixth do not count. -/
def micros (digits : List Char) : Nat :=
  Number.ofDigits 10
    ((digits.take 6 ++ List.replicate (6 - digits.length) '0').filterMap Text.digitValue?)

/-- A fraction of a second, if there is one. -/
def fraction (cs : List Char) : Nat × List Char :=
  match cs with
  | '.' :: rest =>
      let digits := rest.takeWhile Char.isDigit
      if digits.isEmpty then (0, cs) else (micros digits, rest.drop digits.length)
  | _ => (0, cs)

/-- A time of day. -/
structure TimeOfDay where
  /-- Hour. -/
  hour : Nat
  /-- Minute. -/
  minute : Nat
  /-- Second. -/
  second : Nat
  /-- Microsecond. -/
  micro : Nat

/-- Read a time of day. -/
def time? (cs : List Char) : Option (TimeOfDay × List Char) := do
  let (hour, rest) ← field? 2 0 23 cs
  let (minute, rest) ← field? 2 0 59 (← mark? (· == ':') rest)
  let (second, rest) ← field? 2 0 59 (← mark? (· == ':') rest)
  let (micro, rest) := fraction rest
  some (⟨hour, minute, second, micro⟩, rest)

/-- Read an offset from universal time. -/
def offset? : List Char → Option (Zone × List Char)
  | [] => none
  | c :: cs =>
      if c = 'Z' ∨ c = 'z' then some (Zone.universal, cs)
      else if c = '+' ∨ c = '-' then do
        let (hours, rest) ← field? 2 0 23 cs
        let (minutes, rest) ← field? 2 0 59 (← mark? (· == ':') rest)
        let seconds : Int := (hours * 60 + minutes) * 60
        some (Zone.fixed (if c = '-' then -seconds else seconds), rest)
      else none

/-- Read a date, which need not exist. -/
def date? (cs : List Char) : Option ((Nat × Nat × Nat) × List Char) := do
  let (year, rest) ← field? 4 0 9999 cs
  let (month, rest) ← field? 2 1 12 (← mark? (· == '-') rest)
  let (day, rest) ← field? 2 1 31 (← mark? (· == '-') rest)
  some ((year, month, day), rest)

/-- Whether a character separates a date from a time of day. -/
def isDateMark (c : Char) : Bool :=
  c == 'T' || c == 't' || c == ' '

/-- A date, alone or with a time of day and perhaps an offset, if the text starts with one. -/
def moment? (cs : List Char) : Option (Except DecodeFault (Document × List Char)) := do
  let ((year, month, day), afterDate) ← date? cs
  let exists? := Calendar.isDate year month day
  match (mark? isDateMark afterDate).bind time? with
  | none =>
      some (if exists? then .ok (.date year month day, afterDate) else malformed)
  | some (t, afterTime) =>
      let (zone, rest) := match offset? afterTime with
        | some (zone, rest) => (some zone, rest)
        | none => (none, afterTime)
      some (if exists? then
        .ok (.moment ⟨year, month, day, t.hour, t.minute, t.second, t.micro, zone, false⟩, rest)
      else malformed)

/-- A time of day, if the text starts with one. -/
def clock? (cs : List Char) : Option (Except DecodeFault (Document × List Char)) :=
  (time? cs).map fun (t, rest) => .ok (.clock t.hour t.minute t.second t.micro, rest)

/-- Length of digits of a class with single underscores between them, or zero. -/
def digitsLength (p : Char → Bool) : List Char → Nat
  | [] => 0
  | '_' :: _ => 0
  | [c] => if p c then 1 else 0
  | c :: '_' :: d :: cs =>
      if p c then if p d then 2 + digitsLength p (d :: cs) else 1 else 0
  | c :: cs => if p c then 1 + digitsLength p cs else 0

/-- The number that hexadecimal digits stand for in a base. -/
def valueOf (base : Nat) (digits : List Char) : Int :=
  Number.ofDigits base (digits.filterMap Text.hexValue?)

/-- An integer in another base, after its mark. -/
def based? (base : Nat) (p : Char → Bool) (cs : List Char) :
    Option (Except DecodeFault (Document × List Char)) :=
  let length := digitsLength p cs
  if length = 0 then none else some (.ok (.int (valueOf base (cs.take length)), cs.drop length))

/-- Length of the whole part of a number: one zero, or digits that do not start with one. -/
def wholeLength : List Char → Nat
  | '0' :: _ => 1
  | cs => digitsLength Char.isDigit cs

/-- Length of a fraction, or zero. -/
def fractionLength : List Char → Nat
  | '.' :: cs =>
      let digits := digitsLength Char.isDigit cs
      if digits = 0 then 0 else 1 + digits
  | _ => 0

/-- Length of an exponent, or zero. -/
def exponentLength : List Char → Nat
  | c :: cs =>
      if c = 'e' ∨ c = 'E' then
        let sign := Text.signLength cs
        let digits := digitsLength Char.isDigit (cs.drop sign)
        if digits = 0 then 0 else 1 + sign + digits
      else 0
  | [] => 0

/-- A decimal number, if the text starts with one. -/
def decimal? (cs : List Char) : Option (Except DecodeFault (Document × List Char)) :=
  let sign := Text.signLength cs
  let whole := wholeLength (cs.drop sign)
  let fraction := fractionLength (cs.drop (sign + whole))
  let exponent := exponentLength (cs.drop (sign + whole + fraction))
  let length := sign + whole + fraction + exponent
  let text := cs.take length
  let rest := cs.drop length
  if whole = 0 then none
  else if 0 < fraction + exponent then
    some (match Number.readFloat? text with
      | some x => .ok (.float x, rest)
      | none => malformed)
  else some (match Number.readInteger text with
    | .ok n => .ok (.int n, rest)
    | .error (.tooLong digits) => .error (.tooLong (.reading digits))
    | .error .malformed => malformed)

/-- A number in any base, if the text starts with one. -/
def number? : List Char → Option (Except DecodeFault (Document × List Char))
  | '0' :: c :: cs =>
      let based := match c with
        | 'x' => based? 16 Text.isHexDigit cs
        | 'b' => based? 2 (fun d => d == '0' || d == '1') cs
        | 'o' => based? 8 (fun d => '0' ≤ d && d ≤ '7') cs
        | _ => none
      based.orElse fun _ => decimal? ('0' :: c :: cs)
  | cs => decimal? cs

/-- An infinity or NaN, if the text starts with one. -/
def special? (cs : List Char) : Option (Except DecodeFault (Document × List Char)) :=
  let length := Text.signLength cs + 3
  let word := (cs.take length).drop (Text.signLength cs)
  if word = ['i', 'n', 'f'] ∨ word = ['n', 'a', 'n'] then
    (Number.readFloat? (cs.take length)).map fun x => .ok (.float x, cs.drop length)
  else none

/-- A truth value, if the text starts with one. -/
def truth? : List Char → Option (Except DecodeFault (Document × List Char))
  | 't' :: 'r' :: 'u' :: 'e' :: rest => some (.ok (.bool true, rest))
  | 'f' :: 'a' :: 'l' :: 's' :: 'e' :: rest => some (.ok (.bool false, rest))
  | _ => none

/-- A value that is neither a list nor a table. -/
def scalar (cs : List Char) : Except DecodeFault (Document × List Char) :=
  let text := (string? cs).map fun (reading : Except DecodeFault (List Char × List Char)) =>
    reading.map fun (s, rest) => (Document.string (String.ofList s), rest)
  ((((((text.orElse fun _ => truth? cs).orElse fun _ => moment? cs).orElse fun _ =>
    clock? cs).orElse fun _ => number? cs).orElse fun _ => special? cs)).getD malformed

end Promptline.Toml
