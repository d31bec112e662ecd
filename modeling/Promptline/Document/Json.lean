import Promptline.Document
import Promptline.Number.Read
import Promptline.Number.Notation
import Promptline.Text.JsonString
import Promptline.Text.Pieces

/-!
# JSON

Reading and writing JSON. Reading is strict; how large an integer may be is a parameter, and
larger ones become doubles. Writing keeps the order of entries.
-/

namespace Promptline.Json

/-- Which integers are kept as such. -/
inductive Integers
  /-- All of them; a number too large for a double is infinite. -/
  | unbounded
  /-- Those of a signed or unsigned machine word; others become doubles, and a number too large
  for a double is refused. -/
  | words
  deriving DecidableEq, Repr

/-- Whether an integer fits a signed or an unsigned machine word. -/
def isWord (n : Int) : Bool :=
  -(Nat.pow 2 63 : Int) ≤ n && n < Nat.pow 2 64

/-- Deepest nesting of lists and tables. -/
def maxDepth : Nat := 1024

/-- White space between tokens. -/
def isSpace (c : Char) : Bool :=
  c == ' ' || c == '\t' || c == '\n' || c == '\r'

/-- Drop white space. -/
def skip (cs : List Char) : List Char :=
  cs.dropWhile isSpace

/-- Length of the digits of an integer: one zero, or digits that do not start with one. -/
def wholeLength : List Char → Nat
  | '0' :: _ => 1
  | cs => Text.extent Char.isDigit cs

/-- Length of a fraction, or zero. -/
def fractionLength : List Char → Nat
  | '.' :: cs =>
      let digits := Text.extent Char.isDigit cs
      if digits = 0 then 0 else 1 + digits
  | _ => 0

/-- Length of an exponent, or zero. -/
def exponentLength : List Char → Nat
  | c :: cs =>
      if c = 'e' ∨ c = 'E' then
        let sign := Text.signLength cs
        let digits := Text.extent Char.isDigit (cs.drop sign)
        if digits = 0 then 0 else 1 + sign + digits
      else 0
  | [] => 0

/-- The double of a number's text, unless it has to be finite and is not. -/
def double? (integers : Integers) (text : List Char) : Option Document :=
  match Number.readFloat? text with
  | some x => if integers = .words ∧ x.isInf then none else some (.float x)
  | none => none

/-- A number and the text after it. -/
def number? (integers : Integers) (cs : List Char) : Option (Document × List Char) :=
  let sign := match cs with
    | '-' :: _ => 1
    | _ => 0
  let whole := wholeLength (cs.drop sign)
  let fraction := fractionLength (cs.drop (sign + whole))
  let exponent := exponentLength (cs.drop (sign + whole + fraction))
  let length := sign + whole + fraction + exponent
  let text := cs.take length
  let rest := cs.drop length
  if whole = 0 then none
  else if 0 < fraction + exponent then (double? integers text).map (·, rest)
  else
    let (negative, digits) := Number.takeSign text
    let magnitude := Number.ofDigits 10 (digits.filterMap Text.digitValue?)
    let n : Int := if negative then -magnitude else magnitude
    if integers = .unbounded ∨ isWord n then some (.int n, rest)
    else (double? integers text).map (·, rest)

/-- A string, whose opening quote has been taken, and the text after it. -/
def string? (cs : List Char) : Option (String × List Char) := do
  let length ← Text.JsonString.closingLength cs
  let inner ← Text.JsonString.decode? (cs.take (length - 1))
  some (String.ofList inner, cs.drop length)

mutual

/-- A value and the text after it. -/
def value? (integers : Integers) : Nat → Nat → List Char → Option (Document × List Char)
  | 0, _, _ => none
  | fuel + 1, depth, cs =>
      match skip cs with
      | 'n' :: 'u' :: 'l' :: 'l' :: rest => some (.null, rest)
      | 't' :: 'r' :: 'u' :: 'e' :: rest => some (.bool true, rest)
      | 'f' :: 'a' :: 'l' :: 's' :: 'e' :: rest => some (.bool false, rest)
      | '"' :: rest => (string? rest).map fun (s, after) => (.string s, after)
      | '[' :: rest =>
          if depth = 0 then none
          else match skip rest with
            | ']' :: after => some (.list [], after)
            | _ => (items? integers fuel (depth - 1) rest).map fun (items, after) =>
                (.list items, after)
      | '{' :: rest =>
          if depth = 0 then none
          else match skip rest with
            | '}' :: after => some (.table [], after)
            | _ => (members? integers fuel (depth - 1) rest).map fun (members, after) =>
                (.ofPairs members, after)
      | other => number? integers other

/-- The items of a list up to its end, and the text after it. -/
def items? (integers : Integers) : Nat → Nat → List Char → Option (List Document × List Char)
  | 0, _, _ => none
  | fuel + 1, depth, cs => do
      let (item, rest) ← value? integers fuel depth cs
      match skip rest with
      | ',' :: rest =>
          let (items, after) ← items? integers fuel depth rest
          some (item :: items, after)
      | ']' :: after => some ([item], after)
      | _ => none

/-- The members of a table up to its end, and the text after it. -/
def members? (integers : Integers) :
    Nat → Nat → List Char → Option (List (String × Document) × List Char)
  | 0, _, _ => none
  | fuel + 1, depth, cs =>
      match skip cs with
      | '"' :: rest => do
          let (name, rest) ← string? rest
          match skip rest with
          | ':' :: rest =>
              let (value, rest) ← value? integers fuel depth rest
              match skip rest with
              | ',' :: rest =>
                  let (members, after) ← members? integers fuel depth rest
                  some ((name, value) :: members, after)
              | '}' :: after => some ([(name, value)], after)
              | _ => none
          | _ => none
      | _ => none

end

/-- Read a JSON text: one value, with white space around it. -/
def read? (integers : Integers) (text : String) : Option Document :=
  let cs := text.toList
  match value? integers (2 * cs.length + 2) maxDepth cs with
  | some (value, rest) => if (skip rest).isEmpty then some value else none
  | none => none

/-- Read a JSON text that is a list or a table and has machine integers. -/
def readStructure? (text : String) : Option Document :=
  match read? .words text with
  | some (.list items) => some (.list items)
  | some (.table entries) => some (.table entries)
  | _ => none

/-- Layout of written JSON. -/
inductive Layout
  /-- No white space. -/
  | compact
  /-- One line, with a blank after each comma and colon. -/
  | spaced
  /-- One entry a line, two blanks for each level. -/
  | indented
  deriving DecidableEq, Repr

namespace Layout

/-- What stands before the first entry and after the last one, at their level of nesting. -/
def edge (layout : Layout) (level : Nat) : String :=
  match layout with
  | compact => ""
  | spaced => ""
  | indented => "\n" ++ String.ofList (List.replicate (2 * level) ' ')

/-- What separates entries at a level of nesting. -/
def comma (layout : Layout) (level : Nat) : String :=
  match layout with
  | compact => ","
  | spaced => ", "
  | indented => "," ++ layout.edge level

/-- What separates a name from its value. -/
def colon : Layout → String
  | compact => ":"
  | spaced => ": "
  | indented => ": "

end Layout

/-- How JSON is written. -/
structure Style where
  /-- Where white space stands. -/
  layout : Layout
  /-- Which integers can be written. Without a limit on them, infinities and NaN go by their
  names. -/
  integers : Integers := .words
  /-- Whether everything but ASCII is escaped. -/
  ascii : Bool := false
  deriving DecidableEq, Repr

namespace Style

/-- Indented output. -/
def indented : Style := ⟨.indented, .words, false⟩

/-- Output without white space. -/
def compact : Style := ⟨.compact, .words, false⟩

/-- Lines of a log. -/
def log : Style := ⟨.spaced, .unbounded, true⟩

/-- Text of a string. -/
def string (style : Style) (s : String) : String :=
  if style.ascii then Text.JsonString.encodeAscii s else Text.JsonString.encode s

/-- Text of a double. -/
def float (style : Style) (x : Float) : String :=
  match style.integers with
  | .words => Number.floatJson x
  | .unbounded =>
      if x.isNaN then "NaN"
      else if x.isInf then if x < 0 then "-Infinity" else "Infinity"
      else Number.floatText x

end Style

/-- Why data cannot be written. -/
inductive WriteFault
  /-- An integer does not fit a machine word. -/
  | beyondWord
  /-- The data has a form that JSON lacks. -/
  | unsupported
  deriving DecidableEq, Repr

namespace WriteFault

/-- Text of the problem. -/
def message : WriteFault → String
  | beyondWord => "Integer exceeds 64-bit range"
  | unsupported => "Type is not JSON serializable"

end WriteFault

mutual

/-- Text of a value at a level of nesting. -/
def writeAt (style : Style) (level : Nat) : Document → Except WriteFault String
  | .null => .ok "null"
  | .bool b => .ok (if b then "true" else "false")
  | .int n =>
      if style.integers = .unbounded ∨ isWord n then .ok (Number.intText n)
      else .error .beyondWord
  | .float x => .ok (style.float x)
  | .string s => .ok (style.string s)
  | .moment m => .ok (style.string m.isoText)
  | .date year month day =>
      .ok (style.string (Moment.dateText { year := year, month := month, day := day }))
  | .clock hour minute second micro =>
      let m : Moment := ⟨1, 1, 1, hour, minute, second, micro, none, false⟩
      .ok (style.string (m.clockText ++ m.fractionText))
  | .bytes _ => .error .unsupported
  | .mapping _ => .error .unsupported
  | .list [] => .ok "[]"
  | .list (item :: items) => do
      let first ← writeAt style (level + 1) item
      let rest ← writeItems style (level + 1) items
      .ok ("[" ++ style.layout.edge (level + 1) ++ first ++ rest ++ style.layout.edge level ++ "]")
  | .table [] => .ok "\x7b\x7d"
  | .table ((name, value) :: entries) => do
      let first ← writeAt style (level + 1) value
      let rest ← writeEntries style (level + 1) entries
      .ok ("\x7b" ++ style.layout.edge (level + 1) ++ style.string name ++ style.layout.colon ++
        first ++ rest ++ style.layout.edge level ++ "\x7d")

/-- Text of the items after the first one. -/
def writeItems (style : Style) (level : Nat) : List Document → Except WriteFault String
  | [] => .ok ""
  | item :: items => do
      let first ← writeAt style level item
      let rest ← writeItems style level items
      .ok (style.layout.comma level ++ first ++ rest)

/-- Text of the entries after the first one. -/
def writeEntries (style : Style) (level : Nat) :
    List (String × Document) → Except WriteFault String
  | [] => .ok ""
  | (name, value) :: entries => do
      let first ← writeAt style level value
      let rest ← writeEntries style level entries
      .ok (style.layout.comma level ++ style.string name ++ style.layout.colon ++ first ++ rest)

end

/-- Write data as JSON. -/
def write (style : Style) (d : Document) : Except WriteFault String :=
  writeAt style 0 d

end Promptline.Json
