import Promptline.Moment
import Promptline.Text.Digit

/-!
# Reading moments

Moments in the international notation: calendar, ordinal and week dates, with or without dashes,
an optional time of day and an optional offset. A second, looser notation has slashes or colons
between the parts of a date.
-/

namespace Promptline.Moment

/-- What a text in moment notation stands for. -/
inductive Reading
  /-- A moment. -/
  | moment (m : Moment)
  /-- A length of time, or the time between two moments. -/
  | duration
  /-- A time of day without a date. -/
  | timeOfDay
  deriving DecidableEq, Repr

/-- The value of exactly `n` ASCII digits, and the rest. -/
def takeNumber : Nat → Nat → List Char → Option (Nat × List Char)
  | 0, value, cs => some (value, cs)
  | _ + 1, _, [] => none
  | n + 1, value, c :: cs =>
      if c.isDigit then takeNumber n (10 * value + (c.toNat - '0'.toNat)) cs else none

/-- Whether a date ends here: at the end of the text or before a time of day. -/
def endsDate : List Char → Bool
  | [] => true
  | c :: _ => c == ' ' || c == 'T'

/-- A date as read, and whether its parts had dashes between them. -/
structure DateText where
  /-- Year. -/
  year : Nat
  /-- Month. -/
  month : Nat
  /-- Day. -/
  day : Nat
  /-- Whether there were dashes. -/
  dashed : Bool

/-- The date with a one-based day of the year; a day before or after the year belongs to the
neighbouring year if that is allowed. -/
def ofDayOfYear (outside : Bool) (year : Nat) (day : Int) (dashed : Bool) : Option DateText :=
  if 1 ≤ day ∧ day ≤ Calendar.daysInYear year then
    let (month, dayOfMonth) := Calendar.monthAndDay year 11 1 (day - 1).toNat
    some ⟨year, month, dayOfMonth, dashed⟩
  else if !outside then none
  else if day < 1 then
    let (month, dayOfMonth) :=
      Calendar.monthAndDay (year - 1) 11 1 (day - 1 + Calendar.daysInYear (year - 1)).toNat
    some ⟨year - 1, month, dayOfMonth, dashed⟩
  else
    let (month, dayOfMonth) :=
      Calendar.monthAndDay (year + 1) 11 1 (day - 1 - Calendar.daysInYear year).toNat
    some ⟨year + 1, month, dayOfMonth, dashed⟩

/-- Whether a year has 53 weeks: it starts or ends on a Thursday. -/
def isLong (year : Nat) : Bool :=
  Calendar.weekday year 1 1 == 3 || Calendar.weekday year 12 31 == 3

/-- The date of a day of a week of a year. -/
def ofWeek (year week day : Nat) (dashed : Bool) : Option DateText :=
  if 53 < week ∨ (52 < week ∧ !isLong year) ∨ 7 < day then none
  else
    let fourth : Int := Calendar.weekday year 1 4 + 1
    ofDayOfYear true year (week * 7 + day - (fourth + 3)) dashed

/-- The part of a dashed date after the year. -/
def dashedDate (year : Nat) : List Char → Option (DateText × List Char)
  | 'W' :: cs => do
      let (week, cs) ← takeNumber 2 0 cs
      if endsDate cs then some (← ofWeek year week 1 true, cs)
      else match cs with
        | '-' :: cs =>
            let (day, cs) ← takeNumber 1 0 cs
            some (← ofWeek year week day true, cs)
        | _ => none
  | cs => do
      let (month, cs) ← takeNumber 2 0 cs
      if endsDate cs then some (⟨year, month, 1, true⟩, cs)
      else match cs with
        | '-' :: cs =>
            let (day, cs) ← takeNumber 2 0 cs
            some (⟨year, month, day, true⟩, cs)
        | cs =>
            let (last, cs) ← takeNumber 1 0 cs
            some (← ofDayOfYear false year (month * 10 + last) true, cs)

/-- The part of a date without dashes after the year. -/
def plainDate (year : Nat) : List Char → Option (DateText × List Char)
  | 'W' :: cs => do
      let (week, cs) ← takeNumber 2 0 cs
      if endsDate cs then some (← ofWeek year week 1 false, cs)
      else
        let (day, cs) ← takeNumber 1 0 cs
        some (← ofWeek year week day false, cs)
  | cs => do
      let (month, cs) ← takeNumber 2 0 cs
      let (first, cs) ← takeNumber 1 0 cs
      if endsDate cs then some (← ofDayOfYear false year (month * 10 + first) false, cs)
      else
        let (last, cs) ← takeNumber 1 0 cs
        some (⟨year, month, first * 10 + last, false⟩, cs)

/-- A date and the text after it. -/
def takeDate (cs : List Char) : Option (DateText × List Char) := do
  let (year, cs) ← takeNumber 4 0 cs
  if endsDate cs then some (⟨year, 1, 1, false⟩, cs)
  else match cs with
    | '-' :: cs => dashedDate year cs
    | cs => plainDate year cs

/-- A time of day, as read. -/
structure ClockText where
  /-- Hour. -/
  hour : Nat := 0
  /-- Minute. -/
  minute : Nat := 0
  /-- Second. -/
  second : Nat := 0
  /-- Microsecond. -/
  micro : Nat := 0

/-- Microseconds of the digits of a fraction; digits after the sixth are dropped. -/
def microOf (digits : List Nat) : Nat :=
  ((digits ++ List.replicate 6 0).take 6).foldl (fun n digit => n * 10 + digit) 0

/-- A fraction of a second, if one follows, and the text after it. -/
def takeFraction : List Char → Option (Nat × List Char)
  | c :: cs =>
      if c = '.' ∨ c = ',' then
        let digits := cs.takeWhile Char.isDigit
        if digits.isEmpty then none
        else some (microOf (digits.map fun d => d.toNat - '0'.toNat), cs.dropWhile Char.isDigit)
      else some (0, c :: cs)
  | [] => some (0, [])

/-- Whether a time of day ends here: at the end of the text or before an offset. -/
def endsClock : List Char → Bool
  | [] => true
  | c :: _ => c == 'Z' || c == '+' || c == '-'

/-- The second after a minute. The flag says whether colons stand between the parts. -/
def takeSecond (colons : Bool) (hour minute : Nat) (cs : List Char) :
    Option (ClockText × List Char) :=
  if endsClock cs then some (⟨hour, minute, 0, 0⟩, cs)
  else do
    let cs ← match colons, cs with
      | true, ':' :: cs => some cs
      | true, _ => none
      | false, cs => some cs
    let (second, cs) ← takeNumber 2 0 cs
    let (micro, cs) ← takeFraction cs
    some (⟨hour, minute, second, micro⟩, cs)

/-- A time of day and the text after it. Colons go with a date that has dashes, and a time
without colons with a date without dashes. -/
def takeClock (dashed : Bool) (cs : List Char) : Option (ClockText × List Char) := do
  let (hour, cs) ← takeNumber 2 0 cs
  if endsClock cs then some (⟨hour, 0, 0, 0⟩, cs)
  else match cs with
    | ':' :: cs =>
        if dashed then
          let (minute, cs) ← takeNumber 2 0 cs
          takeSecond true hour minute cs
        else none
    | cs =>
        if dashed then none
        else
          let (minute, cs) ← takeNumber 2 0 cs
          takeSecond false hour minute cs

/-- The zone at the end of a text; without an offset it is universal time. -/
def readZone : List Char → Option Zone
  | [] => some Zone.universal
  | ['Z'] => some Zone.universal
  | sign :: cs =>
      if sign = '+' ∨ sign = '-' then do
        let (hours, cs) ← takeNumber 2 0 cs
        let cs := match cs with
          | ':' :: cs => cs
          | cs => cs
        let (minutes, cs) ← if cs.isEmpty then some (0, cs) else takeNumber 2 0 cs
        let seconds : Int := hours * 3600 + minutes * 60
        if cs.isEmpty ∧ seconds < 86400 then
          let offset := if sign = '-' then -seconds else seconds
          some ⟨offset, Zone.offsetText offset⟩
        else none
      else none

/-- The moment of a date, a time of day and a zone, if they exist. -/
def assemble (year month day : Nat) (clock : ClockText) (zone : Zone) : Option Moment :=
  if Calendar.isDate year month day ∧ clock.hour < 24 ∧ clock.minute < 60 ∧ clock.second < 60 then
    some ⟨year, month, day, clock.hour, clock.minute, clock.second, clock.micro, some zone, true⟩
  else none

/-- A moment in the international notation. -/
def readIso (cs : List Char) : Option Moment := do
  let (date, cs) ← takeDate cs
  match cs with
  | [] => assemble date.year date.month date.day {} Zone.universal
  | separator :: cs =>
      if separator = 'T' ∨ separator = ' ' then do
        let (clock, cs) ← takeClock date.dashed cs
        assemble date.year date.month date.day clock (← readZone cs)
      else none

/-- Drop a number with an optional fraction and a unit, if the text starts with one. -/
def dropQuantity (unit : Char) (cs : List Char) : List Char :=
  let digits := cs.takeWhile Char.isDigit
  let afterWhole := cs.dropWhile Char.isDigit
  let rest := match afterWhole with
    | c :: more =>
        if (c == '.' || c == ',') && !(more.takeWhile Char.isDigit).isEmpty then
          more.dropWhile Char.isDigit
        else afterWhole
    | [] => []
  match rest with
  | c :: after => if !digits.isEmpty && c == unit then after else cs
  | [] => cs

/-- Whether a text is a length of time: a `P`, then weeks or years, months and days, then after
a `T` hours, minutes and seconds. -/
def isDuration : List Char → Bool
  | 'P' :: cs =>
      let date := ['W', 'Y', 'M', 'D'].foldl (fun cs unit => dropQuantity unit cs) cs
      match date with
      | 'T' :: clock =>
          let rest := ['H', 'M', 'S'].foldl (fun cs unit => dropQuantity unit cs) clock
          rest.isEmpty && !clock.isEmpty
      | rest => rest.isEmpty && !cs.isEmpty
  | _ => false

/-- Whether a text names the time between two moments, or a moment and a length of time. -/
def isInterval (cs : List Char) : Bool :=
  let first := cs.takeWhile (· != '/')
  match cs.dropWhile (· != '/') with
  | _ :: last =>
      let isMoment (part : List Char) := (readIso part).isSome
      !last.contains '/' &&
        ((isDuration first && isMoment last) || (isMoment first && isDuration last) ||
          (isMoment first && isMoment last))
  | [] => false

/-- The value of at least one and at most `most` digits of any script, and the rest. -/
def takeUpTo (most : Nat) (cs : List Char) : Option (List Nat × List Char) :=
  let digits := (cs.take most).takeWhile Text.isDigit
  if digits.isEmpty then none
  else some (digits.filterMap Text.digitValue?, cs.drop digits.length)

/-- The number that a list of digits stands for. -/
def numberOf (digits : List Nat) : Nat :=
  digits.foldl (fun n digit => n * 10 + digit) 0

/-- The value of exactly `n` digits of any script, and the rest. -/
def takeExactly (n : Nat) (cs : List Char) : Option (Nat × List Char) := do
  let (digits, rest) ← takeUpTo n cs
  if digits.length = n then some (numberOf digits, rest) else none

/-- Drop a slash or a colon. -/
def dropSeparator : List Char → List Char
  | '/' :: cs => cs
  | ':' :: cs => cs
  | cs => cs

/-- Month and day after a year in the looser notation. -/
def looseMonthDay (cs : List Char) : Option ((Nat × Nat) × List Char) := do
  let (month, cs) ← takeExactly 2 (dropSeparator cs)
  let (day, cs) ← takeExactly 2 (dropSeparator cs)
  some ((month, day), cs)

/-- A number of one or two digits after a colon, if one follows. -/
def looseColonPart : List Char → Option (Nat × List Char)
  | ':' :: cs => do
      let (digits, rest) ← takeUpTo 2 cs
      some (numberOf digits, rest)
  | _ => none

/-- A time of day that ends the text, in the looser notation. -/
def looseClock (cs : List Char) : Option ClockText := do
  let cs := match cs with
    | ' ' :: cs => cs
    | cs => cs
  let (hour, cs) ← takeUpTo 2 cs
  let (minute, cs) ← looseColonPart cs
  let (second, cs) := (looseColonPart cs).getD (0, cs)
  match cs with
  | [] => some ⟨numberOf hour, minute, second, 0⟩
  | mark :: cs =>
      if mark = '.' ∨ mark = '|' ∨ mark = ',' then do
        let (fraction, rest) ← takeUpTo 9 cs
        if rest.isEmpty then some ⟨numberOf hour, minute, second, microOf fraction⟩ else none
      else none

/-- A moment in the looser notation, which knows no offsets. A line feed may end the text. -/
def readLoose (cs : List Char) : Option Moment := do
  let cs := if cs.getLast? = some '\n' then cs.dropLast else cs
  let (year, rest) ← takeExactly 4 cs
  let ((month, day), rest) := (looseMonthDay rest).getD ((1, 1), rest)
  if rest.isEmpty then assemble year month day {} Zone.universal
  else assemble year month day (← looseClock rest) Zone.universal

/-- What a text stands for, if it is in moment notation at all. The text `now`, which would stand
for the time of reading, is left out. -/
def read (text : String) : Option Reading :=
  let cs := text.toList
  match readIso cs with
  | some m => some (.moment m)
  | none =>
      if isDuration cs || isInterval cs then some .duration
      else (readLoose cs).map .moment

end Promptline.Moment
