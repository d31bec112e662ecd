import Promptline.Text.Pieces

/-!
# Moments

Calendar dates with a time of day and, where known, a zone. The calendar is the Gregorian one,
extended to the years 1 to 9999.
-/

namespace Promptline

/-- A fixed distance from universal time. -/
structure Zone where
  /-- Seconds east of universal time. -/
  offset : Int
  /-- Name shown for the zone. -/
  name : String
  deriving DecidableEq, Repr

/-- A date and a time of day, in a zone or in none. -/
structure Moment where
  /-- Year. -/
  year : Nat
  /-- Month, from one. -/
  month : Nat
  /-- Day of the month, from one. -/
  day : Nat
  /-- Hour of the day. -/
  hour : Nat := 0
  /-- Minute of the hour. -/
  minute : Nat := 0
  /-- Second of the minute. -/
  second : Nat := 0
  /-- Microsecond of the second. -/
  micro : Nat := 0
  /-- Zone, if the moment is tied to one. -/
  zone : Option Zone := none
  /-- Whether the moment was read from text; messages name such moments differently. -/
  fromText : Bool := false
  deriving DecidableEq, Repr

namespace Zone

/-- An offset as sign, hours and minutes, and seconds if there are any. -/
def offsetText (offset : Int) : String :=
  let seconds := offset.natAbs
  let sign := if offset < 0 then "-" else "+"
  let clock := sign ++ Text.zeroPadded 2 (seconds / 3600) ++ ":" ++
    Text.zeroPadded 2 (seconds / 60 % 60)
  if seconds % 60 = 0 then clock else clock ++ ":" ++ Text.zeroPadded 2 (seconds % 60)

/-- Universal time. -/
def universal : Zone := ⟨0, "UTC"⟩

/-- The zone named for its distance from universal time. -/
def fixed (offset : Int) : Zone :=
  if offset = 0 then universal else ⟨offset, "UTC" ++ offsetText offset⟩

end Zone

namespace Calendar

/-- Whether a year has a 29th of February. -/
def isLeap (year : Nat) : Bool :=
  year % 4 == 0 && (year % 100 != 0 || year % 400 == 0)

/-- Days of a month. -/
def daysIn (year month : Nat) : Nat :=
  if month = 2 then if isLeap year then 29 else 28
  else if month = 4 ∨ month = 6 ∨ month = 9 ∨ month = 11 then 30
  else 31

/-- Days of a year. -/
def daysInYear (year : Nat) : Nat :=
  if isLeap year then 366 else 365

/-- Days of all years before the given one, counted from the year 1. -/
def daysBeforeYear (year : Nat) : Nat :=
  let past := year - 1
  past * 365 + past / 4 - past / 100 + past / 400

/-- Days of the year before a month. -/
def daysBeforeMonth (year month : Nat) : Nat :=
  (List.range (month - 1)).foldl (fun days earlier => days + daysIn year (earlier + 1)) 0

/-- Number of a date, the first of January of the year 1 having the number one. -/
def ordinal (year month day : Nat) : Nat :=
  daysBeforeYear year + daysBeforeMonth year month + day

/-- Month and day of a zero-based day of the year, searching from a month on. -/
def monthAndDay (year : Nat) : Nat → Nat → Nat → Nat × Nat
  | 0, month, day => (month, day + 1)
  | fuel + 1, month, day =>
      if day < daysIn year month then (month, day + 1)
      else monthAndDay year fuel (month + 1) (day - daysIn year month)

/-- Date with a given number. -/
def ofOrdinal (number : Nat) : Nat × Nat × Nat :=
  let days := number - 1
  let guess := days / 366 + 1
  let year := (List.range (days / 365 + 2 - guess)).foldl
    (fun best step => if daysBeforeYear (guess + step) ≤ days then guess + step else best) guess
  let (month, day) := monthAndDay year 11 1 (days - daysBeforeYear year)
  (year, month, day)

/-- Whether a date exists. -/
def isDate (year month day : Nat) : Bool :=
  1 ≤ year && year ≤ 9999 && 1 ≤ month && month ≤ 12 && 1 ≤ day && day ≤ daysIn year month

/-- Day of the week, Monday being zero. -/
def weekday (year month day : Nat) : Nat :=
  (ordinal year month day + 6) % 7

end Calendar

namespace Moment

/-- The date, with dashes. -/
def dateText (m : Moment) : String :=
  Text.zeroPadded 4 m.year ++ "-" ++ Text.zeroPadded 2 m.month ++ "-" ++ Text.zeroPadded 2 m.day

/-- The time of day, with colons. -/
def clockText (m : Moment) : String :=
  Text.zeroPadded 2 m.hour ++ ":" ++ Text.zeroPadded 2 m.minute ++ ":" ++
    Text.zeroPadded 2 m.second

/-- The fraction of the second, if there is one. -/
def fractionText (m : Moment) : String :=
  if m.micro = 0 then "" else "." ++ Text.zeroPadded 6 m.micro

/-- Date, time, fraction and offset in the international form. -/
def isoText (m : Moment) : String :=
  m.dateText ++ "T" ++ m.clockText ++ m.fractionText ++
    (m.zone.map fun zone => Zone.offsetText zone.offset).getD ""

/-- Date and time as a placeholder shows them; the year is not padded. -/
def displayText (m : Moment) : String :=
  toString m.year ++ "-" ++ Text.zeroPadded 2 m.month ++ "-" ++ Text.zeroPadded 2 m.day ++ " " ++
    m.clockText

/-- The moment that lies a number of seconds and microseconds after the start of 1970, in
universal time, if it falls into the years 1 to 9999. -/
def ofUnixTime? (seconds : Int) (micro : Nat) : Option Moment :=
  let days := seconds.fdiv 86400 + 719163
  let rest := (seconds.fmod 86400).toNat
  if days < 1 ∨ 3652059 < days then none
  else
    let (year, month, day) := Calendar.ofOrdinal days.toNat
    some {
      year := year, month := month, day := day
      hour := rest / 3600, minute := rest / 60 % 60, second := rest % 60, micro := micro
      zone := some Zone.universal }

end Moment

end Promptline
