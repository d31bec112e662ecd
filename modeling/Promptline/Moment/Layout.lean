import Promptline.Moment
import Promptline.Text.Blank

/-!
# Time layouts

A layout shows how one reference moment, Monday the second of January 2006 at 15:04:05 in the
zone MST, would be written. Each part of the reference moment in it is replaced by the same part
of the moment to be shown; the longest part counts where several fit.
-/

namespace Promptline.Moment.Layout

/-- A part of the reference moment. -/
inductive Part
  /-- Name of the month. -/
  | monthName
  /-- First three letters of the month. -/
  | monthShort
  /-- Name of the weekday. -/
  | weekdayName
  /-- First three letters of the weekday. -/
  | weekdayShort
  /-- Year with four digits. -/
  | year
  /-- Year with two digits. -/
  | yearShort
  /-- Month with two digits. -/
  | monthPadded
  /-- Month. -/
  | month
  /-- Day with two digits. -/
  | dayPadded
  /-- Day with a blank before one digit. -/
  | dayBlank
  /-- Day. -/
  | day
  /-- Hour of the day with two digits. -/
  | hour
  /-- Hour of the half day with two digits. -/
  | halfHourPadded
  /-- Hour of the half day. -/
  | halfHour
  /-- Minute with two digits. -/
  | minutePadded
  /-- Minute. -/
  | minute
  /-- Second with two digits. -/
  | secondPadded
  /-- Second. -/
  | second
  /-- Half of the day in capitals. -/
  | halfUpper
  /-- Half of the day in small letters. -/
  | halfLower
  /-- Name of the zone. -/
  | zoneName
  /-- Offset with a colon, or `Z` for universal time. -/
  | offsetColonZulu
  /-- Offset without a colon, or `Z` for universal time. -/
  | offsetZulu
  /-- Offset with a colon. -/
  | offsetColon
  /-- Offset without a colon. -/
  | offset
  /-- Hours of the offset. -/
  | offsetHours
  deriving DecidableEq, Repr

/-- The parts as they stand in a layout. A part comes before the parts that it starts with. -/
def spellings : List (String × Part) := [
  ("January", .monthName), ("Jan", .monthShort), ("Monday", .weekdayName), ("Mon", .weekdayShort),
  ("2006", .year), ("MST", .zoneName), ("Z07:00", .offsetColonZulu), ("Z0700", .offsetZulu),
  ("-07:00", .offsetColon), ("-0700", .offset), ("-07", .offsetHours), ("15", .hour),
  ("06", .yearShort), ("01", .monthPadded), ("02", .dayPadded), ("_2", .dayBlank),
  ("03", .halfHourPadded), ("04", .minutePadded), ("05", .secondPadded), ("PM", .halfUpper),
  ("pm", .halfLower)]

/-- The parts of one character, which count only where nothing longer fits. -/
def shortSpellings : List (String × Part) := [
  ("1", .month), ("2", .day), ("3", .halfHour), ("4", .minute), ("5", .second)]

/-- A piece of a layout. -/
inductive Piece
  /-- A character that stands for itself. -/
  | literal (c : Char)
  /-- A part of the reference moment. -/
  | part (part : Part)
  /-- A fraction of a second after its separator; trailing zeros are dropped if it is written
  with nines. -/
  | fraction (separator : Char) (dropZeros : Bool) (digits : Nat)
  deriving DecidableEq, Repr

/-- The first of some parts that a text starts with, and the length of its spelling. -/
def firstPart? (parts : List (String × Part)) (cs : List Char) : Option (Piece × Nat) :=
  (parts.find? fun entry => Text.startsWith entry.1.toList cs).map fun entry =>
    (.part entry.2, entry.1.length)

/-- The fraction that a text starts with: a point or a comma after a five, then zeros or nines. -/
def fraction? (before : Option Char) : List Char → Option (Piece × Nat)
  | separator :: c :: cs =>
      if before = some '5' ∧ (separator = '.' ∨ separator = ',') ∧ (c = '0' ∨ c = '9') then
        let digits := ((c :: cs).takeWhile (· == c)).length
        some (.fraction separator (c == '9') digits, digits + 1)
      else none
  | _ => none

/-- The piece at the front of a text that is not a literal character, and its length. -/
def piece? (before : Option Char) (cs : List Char) : Option (Piece × Nat) :=
  (firstPart? spellings cs).orElse fun _ =>
    (fraction? before cs).orElse fun _ => firstPart? shortSpellings cs

/-- The pieces of a layout after a character, the first `skip` characters passed over. -/
def piecesFrom (before : Option Char) : Nat → List Char → List Piece
  | _, [] => []
  | skip + 1, c :: cs => piecesFrom (some c) skip cs
  | 0, c :: cs =>
      match piece? before (c :: cs) with
      | some (piece, length) => piece :: piecesFrom (some c) (length - 1) cs
      | none => .literal c :: piecesFrom (some c) 0 cs

/-- The pieces of a layout. -/
def pieces (layout : String) : List Piece :=
  piecesFrom none 0 layout.toList

/-- Names of the months. -/
def monthNames : List String := [
  "January", "February", "March", "April", "May", "June", "July", "August", "September",
  "October", "November", "December"]

/-- Names of the weekdays, Monday first. -/
def weekdayNames : List String := [
  "Monday", "Tuesday", "Wednesday", "Thursday", "Friday", "Saturday", "Sunday"]

/-- The first three letters of a name. -/
def short (name : String) : String :=
  String.ofList (name.toList.take 3)

/-- Name of the month. -/
def monthName (m : Moment) : String :=
  monthNames.getD (m.month - 1) ""

/-- Name of the weekday. -/
def weekdayName (m : Moment) : String :=
  weekdayNames.getD (Calendar.weekday m.year m.month m.day) ""

/-- Hour of the half day, from one to twelve. -/
def halfHour (m : Moment) : Nat :=
  if m.hour % 12 = 0 then 12 else m.hour % 12

/-- The offset of a moment, or nothing if it has no zone. -/
def offsetText (separator : String) (zulu minutes : Bool) (m : Moment) : String :=
  match m.zone with
  | none => ""
  | some zone =>
      if zulu && zone.offset == 0 then "Z"
      else
        let total := zone.offset.natAbs / 60
        let hours := (if zone.offset < 0 then "-" else "+") ++ Text.zeroPadded 2 (total / 60)
        if minutes then hours ++ separator ++ Text.zeroPadded 2 (total % 60) else hours

/-- A part of a moment. -/
def Part.text (m : Moment) : Part → String
  | monthName => Layout.monthName m
  | monthShort => short (Layout.monthName m)
  | weekdayName => Layout.weekdayName m
  | weekdayShort => short (Layout.weekdayName m)
  | year => Text.zeroPadded 4 m.year
  | yearShort => Text.zeroPadded 2 (m.year % 100)
  | monthPadded => Text.zeroPadded 2 m.month
  | month => toString m.month
  | dayPadded => Text.zeroPadded 2 m.day
  | dayBlank => String.ofList (Text.padLeft 2 ' ' (Nat.toDigits 10 m.day))
  | day => toString m.day
  | hour => Text.zeroPadded 2 m.hour
  | halfHourPadded => Text.zeroPadded 2 (Layout.halfHour m)
  | halfHour => toString (Layout.halfHour m)
  | minutePadded => Text.zeroPadded 2 m.minute
  | minute => toString m.minute
  | secondPadded => Text.zeroPadded 2 m.second
  | second => toString m.second
  | halfUpper => if 12 ≤ m.hour then "PM" else "AM"
  | halfLower => if 12 ≤ m.hour then "pm" else "am"
  | zoneName => (m.zone.map (·.name)).getD ""
  | offsetColonZulu => offsetText ":" true true m
  | offsetZulu => offsetText "" true true m
  | offsetColon => offsetText ":" false true m
  | offset => offsetText "" false true m
  | offsetHours => offsetText "" false false m

/-- A fraction of a second with at most nine digits. -/
def fractionText (m : Moment) (separator : Char) (dropZeros : Bool) (digits : Nat) : String :=
  let all := (Text.padLeft 6 '0' (Nat.toDigits 10 m.micro) ++ ['0', '0', '0']).take digits
  let kept := if dropZeros then Text.dropEndWhile (· == '0') all else all
  if dropZeros && kept.isEmpty then "" else String.ofList (separator :: kept)

/-- What a piece shows for a moment. -/
def Piece.text (m : Moment) : Piece → String
  | literal c => String.singleton c
  | part p => p.text m
  | fraction separator dropZeros digits => fractionText m separator dropZeros digits

/-- A moment written in a layout. -/
def format (m : Moment) (layout : String) : String :=
  String.join ((pieces layout).map (·.text m))

end Promptline.Moment.Layout
