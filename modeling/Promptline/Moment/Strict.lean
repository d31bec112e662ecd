import Promptline.Moment.Reading

/-!
# Reading moments in the strict notation

The international notation as bytes have to keep to it: a date with dashes, alone or with a time of
day with colons, and then an optional offset.
-/

namespace Promptline.Moment

/-- A number of exactly `width` digits as a part of a date, and the rest. -/
def takePart (width : Nat) (name : String) (cs : List Char) : Except String (Nat × List Char) :=
  match takeNumber width 0 cs with
  | some taken => .ok taken
  | none => .error ("invalid character in " ++ name)

/-- Drop the dash between two parts of a date. -/
def dropDash : List Char → Except String (List Char)
  | '-' :: cs => .ok cs
  | _ => .error "invalid date separator, expected \x60-\x60"

/-- The date at the front of a text, and the rest, or what is wrong with the date. -/
def takeStrictDate (cs : List Char) : Except String ((Nat × Nat × Nat) × List Char) :=
  if cs.length < 10 then .error "input is too short"
  else do
    let (year, cs) ← takePart 4 "year" cs
    let (month, cs) ← takePart 2 "month" (← dropDash cs)
    let (day, cs) ← takePart 2 "day" (← dropDash cs)
    if month < 1 ∨ 12 < month then .error "month value is outside expected range of 1-12"
    else if day < 1 ∨ Calendar.daysIn year month < day then
      .error "day value is outside expected range"
    else if year < 1 then .error "year 0 is out of range"
    else .ok ((year, month, day), cs)

/-- A time of day and the text after it; the seconds may be left out. -/
def takeStrictClock (cs : List Char) : Option (ClockText × List Char) := do
  let (hour, cs) ← takeNumber 2 0 cs
  match cs with
  | ':' :: cs =>
      let (minute, cs) ← takeNumber 2 0 cs
      match cs with
      | ':' :: cs =>
          let (second, cs) ← takeNumber 2 0 cs
          let (micro, cs) ← takeFraction cs
          some (⟨hour, minute, second, micro⟩, cs)
      | cs => some (⟨hour, minute, 0, 0⟩, cs)
  | _ => none

/-- Take the sign of an offset off the front; a minus sign is also known in its three bytes. -/
def takeOffsetSign : List Char → Option (Int × List Char)
  | '+' :: cs => some (1, cs)
  | '-' :: cs => some (-1, cs)
  | '\xe2' :: '\x88' :: '\x92' :: cs => some (-1, cs)
  | _ => none

/-- The zone at the end of a text, if there is one. -/
def readStrictZone : List Char → Option (Option Zone)
  | [] => some none
  | ['Z'] => some (some Zone.universal)
  | ['z'] => some (some Zone.universal)
  | cs => do
      let (sign, cs) ← takeOffsetSign cs
      let (hours, cs) ← takeNumber 2 0 cs
      let (minutes, cs) ← takeNumber 2 0 (match cs with
        | ':' :: cs => cs
        | cs => cs)
      if cs.isEmpty ∧ hours < 24 ∧ minutes < 60 then
        let offset := sign * (hours * 3600 + minutes * 60)
        some (some (if offset = 0 then Zone.universal else ⟨offset, Zone.offsetText offset⟩))
      else none

/-- What follows a date: a separator, a time of day and a zone. -/
def readStrictRest : List Char → Option (ClockText × Option Zone)
  | separator :: cs =>
      if ['T', 't', ' ', '_'].contains separator then do
        let (clock, cs) ← takeStrictClock cs
        let zone ← readStrictZone cs
        if clock.hour < 24 ∧ clock.minute < 60 ∧ clock.second < 60 then some (clock, zone) else none
      else none
  | [] => some ({}, none)

/-- A moment, or what is wrong with its date; a date stands for its midnight. -/
def readStrict (cs : List Char) : Except String Moment := do
  let ((year, month, day), cs) ← takeStrictDate cs
  match readStrictRest cs with
  | some (clock, zone) =>
      .ok ⟨year, month, day, clock.hour, clock.minute, clock.second, clock.micro, zone, false⟩
  | none => .error "unexpected extra characters at the end of the input"

end Promptline.Moment
