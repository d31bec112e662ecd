import Promptline.Moment.Strict
import Promptline.Number.Read
import Promptline.Validation.Checked

/-!
# Checking single values

Lenient reading of texts, numbers, truth values, choices and moments from decoded data. Bytes stand
for the text that they are the encoding of.
-/

namespace Promptline.Checked

/-- A text; bytes are converted. -/
def text (d : Document) : Checked String :=
  match d with
  | .string s => valid s
  | .bytes octets =>
      match Document.decode? octets with
      | some s => valid s
      | none =>
          fail "Input should be a valid string, unable to parse raw data as a unicode string" d
  | _ => fail "Input should be a valid string" d

/-- A text of at least one character. -/
def nonEmptyText (d : Document) : Checked String :=
  match text d with
  | valid s => if s = "" then fail "String should have at least 1 character" d else valid s
  | invalid problems => invalid problems

/-- Drop underscores if they stand single and inside. -/
def dropUnderscores (cs : List Char) : Option (List Char) :=
  if cs.head? = some '_' ∨ cs.getLast? = some '_' ∨ !cs.contains '_' ∨
      Text.occursIn ['_', '_'] cs then none
  else some (cs.filter (· != '_'))

/-- Drop the zeros, and underscores among them, that lead an integer; one zero stays before a
point and at the end. -/
def dropLeadingZeros : List Char → Option (List Char)
  | '0' :: cs =>
      let zeros := cs.takeWhile fun c => c == '0' || c == '_'
      match cs.dropWhile fun c => c == '0' || c == '_' with
      | [] => some [('0' :: zeros).getLast?.getD '0']
      | '.' :: rest => some (('0' :: zeros).getLast?.getD '0' :: '.' :: rest)
      | c :: rest => if c.isDigit then some (c :: rest) else none
  | c :: cs => if c.isDigit || c == '-' then some (c :: cs) else none
  | [] => none

/-- Drop a point that only zeros follow. -/
def dropZeroFraction (cs : List Char) : List Char :=
  match cs.dropWhile (· != '.') with
  | '.' :: fraction =>
      if fraction.all (· == '0') then cs.takeWhile (· != '.') else cs
  | _ => cs

/-- An optional minus sign and ASCII digits. -/
def plainInteger? (cs : List Char) : Option Int :=
  let (negative, digits) := match cs with
    | '-' :: digits => (true, digits)
    | '+' :: digits => (false, digits)
    | digits => (false, digits)
  if digits.isEmpty || !digits.all Char.isDigit then none
  else
    let n : Int := Number.ofDigits 10 (digits.filterMap Text.digitValue?)
    some (if negative then -n else n)

/-- An integer in text form: padding, a plus sign, leading zeros, single underscores and a zero
fraction are allowed. -/
def integerOfText? (s : String) : Option Int := do
  let cs := Text.trimPadding s.toList
  let cs ← match cs with
    | '+' :: '-' :: _ => none
    | '+' :: cs => some cs
    | cs => some cs
  let cs := dropZeroFraction (← dropLeadingZeros cs)
  plainInteger? ((dropUnderscores cs).getD cs)

/-- Refuse an integer because of its size. -/
def oversized {α : Type} (d : Document) : Checked α :=
  fail "Unable to parse input string as an integer, exceeded maximum size" d

/-- A number whose magnitude a signed word of 64 bits has room for. -/
def fitsWord (n : Int) : Bool :=
  n.natAbs < Nat.pow 2 63

/-- An integer in the form of a text. -/
def integerFrom (d : Document) : Checked Int :=
  match d.text?.bind integerOfText? with
  | some n => if n.natAbs < Nat.pow 10 Number.digitLimit then valid n else oversized d
  | none => fail "Input should be a valid integer, unable to parse string as an integer" d

/-- An integer; truth values, whole doubles in the range of a 64-bit word, texts and bytes are
converted. -/
def integer (d : Document) : Checked Int :=
  match d with
  | .int n => valid n
  | .bool b => valid (if b then 1 else 0)
  | .float x =>
      match Number.Double.ofFloat? x with
      | none => fail "Input should be a finite number" d
      | some parts =>
          if !parts.isWhole then
            fail "Input should be a valid integer, got a number with a fractional part" d
          else if fitsWord parts.truncate then valid parts.truncate
          else oversized d
  | .string _ => integerFrom d
  | .bytes _ => integerFrom d
  | _ => fail "Input should be a valid integer" d

/-- An integer that is not negative. -/
def natural (d : Document) : Checked Int :=
  match integer d with
  | valid n => if n < 0 then fail "Input should be greater than or equal to 0" d else valid n
  | invalid problems => invalid problems

/-- A decimal number in ASCII digits, an infinity or NaN, without underscores. -/
def plainFloat? (cs : List Char) : Option Float :=
  if cs.contains '_' || cs.any (fun c => 127 < c.toNat) || cs.head?.any Text.isBlank ||
      cs.getLast?.any Text.isBlank then none
  else Number.readFloat? cs

/-- A double in text form. -/
def floatOfText? (s : String) : Option Float :=
  match plainFloat? (Text.trimPadding s.toList) with
  | some x => some x
  | none => (dropUnderscores s.toList).bind plainFloat?

/-- A double in the form of a text. -/
def floatFrom (d : Document) : Checked Float :=
  match d.text?.bind floatOfText? with
  | some x => valid x
  | none => fail "Input should be a valid number, unable to parse string as a number" d

/-- A double; integers, truth values, texts and bytes are converted. -/
def number (d : Document) : Checked Float :=
  match d with
  | .float x => valid x
  | .bool b => valid (if b then 1.0 else 0.0)
  | .int n =>
      match Number.ofInt? n with
      | some x => valid x
      | none => fail "Input should be a valid number" d
  | .string _ => floatFrom d
  | .bytes _ => floatFrom d
  | _ => fail "Input should be a valid number" d

/-- Words for a truth value that does not hold, in lower case. -/
def falseWords : List String := ["0", "off", "f", "false", "n", "no"]

/-- Words for a truth value that holds, in lower case. -/
def trueWords : List String := ["1", "on", "t", "true", "y", "yes"]

/-- A text with its ASCII letters in lower case. -/
def lowerAscii (s : String) : String :=
  String.ofList (s.toList.map Char.toLower)

/-- Refuse what might have been meant for a truth value. -/
def unclear (d : Document) : Checked Bool :=
  fail "Input should be a valid boolean, unable to interpret input" d

/-- A truth value in the form of an integer. -/
def truthOfInt (n : Int) (d : Document) : Checked Bool :=
  if n = 0 then valid false else if n = 1 then valid true else unclear d

/-- A truth value in the form of a text. -/
def truthFrom (d : Document) : Checked Bool :=
  match d.text?.map lowerAscii with
  | some word =>
      if falseWords.contains word then valid false
      else if trueWords.contains word then valid true
      else unclear d
  | none => unclear d

/-- A truth value; zero, one and some words are converted. Numbers that a 64-bit word has no room
for are refused like any other data. -/
def truth (d : Document) : Checked Bool :=
  let refused : Checked Bool := fail "Input should be a valid boolean" d
  match d with
  | .bool b => valid b
  | .int n => if fitsWord n || n == -Nat.pow 2 63 then truthOfInt n d else refused
  | .float x =>
      match Number.Double.ofFloat? x with
      | some parts =>
          if parts.isWhole && fitsWord parts.truncate then truthOfInt parts.truncate d else refused
      | none => refused
  | .string _ => truthFrom d
  | .bytes _ => truthFrom d
  | _ => refused

/-- Quoted names, with commas between them and an "or" before the last one. -/
def alternatives : List String → String
  | [] => ""
  | [last] => "'" ++ last ++ "'"
  | [first, last] => "'" ++ first ++ "' or '" ++ last ++ "'"
  | first :: rest => "'" ++ first ++ "', " ++ alternatives rest

/-- One of a few named values. -/
def choice {α : Type} (options : List (String × α)) (d : Document) : Checked α :=
  let expected := alternatives (options.map (·.1))
  let refused : Checked α :=
    invalid [⟨[], "Input should be " ++ expected, some expected, d⟩]
  match d with
  | .string s => ((options.lookup s).map valid).getD refused
  | _ => refused

/-- First second of the year 1600, counted from 1970. -/
def earliestUnixTime : Int := -11676096000

/-- Last second of the year 9999, counted from 1970. -/
def latestUnixTime : Int := 253402300799

/-- A moment as a number of seconds, or of milliseconds if it is large, with extra
microseconds. What was expected is named in a refusal. -/
def unixTime (expected : String) (count : Int) (extra : Nat) (d : Document) : Checked Moment :=
  let small : Bool := count.natAbs ≤ 20000000000
  let seconds := if small then count else count.fdiv 1000
  let micro := extra + if small then 0 else (count.fmod 1000).toNat * 1000
  let seconds := seconds + micro / 1000000
  let invalidTime := "Input should be a valid " ++ expected ++ ", "
  if seconds < earliestUnixTime then
    fail (invalidTime ++ "dates before 1600 are not supported as unix timestamps") d
  else if latestUnixTime < seconds then
    fail (invalidTime ++ "dates after 9999 are not supported as unix timestamps") d
  else
    match Moment.ofUnixTime? seconds (micro % 1000000) with
    | some m => valid m
    | none => fail "Input should be a valid datetime" d

/-- The floor of a finite double, and the magnitude of its fraction in microseconds. -/
def unixParts (parts : Number.Double) : Int × Nat :=
  let fraction := parts.magnitude % Number.unitsPerOne
  (parts.units.fdiv Number.unitsPerOne,
    (2 * fraction * 1000000 + Number.unitsPerOne) / (2 * Number.unitsPerOne))

/-- A number in digits with a point behind the first of them, and an optional sign. -/
def pointedNumber? (cs : List Char) : Option Number.Double :=
  let body := (Number.takeSign cs).2
  let digits := body.takeWhile Char.isDigit
  match body.dropWhile Char.isDigit with
  | '.' :: fraction =>
      if digits.isEmpty || !fraction.all Char.isDigit then none
      else (Number.readFloat? cs).bind Number.Double.ofFloat?
  | _ => none

/-- A moment in bytes: a number of seconds, or a moment in the strict notation. -/
def momentOfBytes (octets : List Nat) (d : Document) : Checked Moment :=
  let cs := octets.map Char.ofNat
  let expected := "datetime or date"
  let strictly : Checked Moment :=
    match Moment.readStrict cs with
    | .ok m => valid m
    | .error reason => fail ("Input should be a valid " ++ expected ++ ", " ++ reason) d
  match plainInteger? cs with
  | some n => if fitsWord n then unixTime expected n 0 d else strictly
  | none =>
      match pointedNumber? cs with
      | some parts =>
          let (count, extra) := unixParts parts
          match unixTime expected count extra d with
          | valid m => valid m
          | invalid _ => strictly
      | none => strictly

/-- A moment; texts in moment notation, bytes and numbers of seconds are converted, and a date
stands for its midnight. -/
def moment (d : Document) : Checked Moment :=
  let refused : Checked Moment := fail "Input should be a valid datetime" d
  match d with
  | .moment m => valid m
  | .date year month day => valid { year := year, month := month, day := day }
  | .int n => unixTime "datetime" n 0 d
  | .float x =>
      match Number.Double.ofFloat? x with
      | some parts =>
          let (count, extra) := unixParts parts
          unixTime "datetime" count extra d
      | none =>
          if x.isNaN then fail "Input should be a valid datetime, NaN values not permitted" d
          else unixTime "datetime" (if x < 0 then -(Nat.pow 2 63 : Int) else Nat.pow 2 63 - 1) 0 d
  | .string s =>
      match Moment.read s with
      | some (.moment m) => valid m
      | some _ => refused
      | none => fail ("Value error, Unable to parse string [" ++ s ++ "]") d
  | .bytes octets => momentOfBytes octets d
  | _ => refused

end Promptline.Checked
