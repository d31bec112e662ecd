import Promptline.Entries
import Promptline.Moment
import Promptline.Number.Notation
import Promptline.Text.Quoted

/-!
# Documents

Decoded data: what theme, snapshot and settings files hold, whatever notation they are written
in, and what this program writes as JSON. Texts consist of Unicode scalar values, here and
everywhere else: a lone surrogate cannot be expressed.
-/

namespace Promptline

/-- Decoded data. -/
inductive Document
  /-- No value. -/
  | null
  /-- A truth value. -/
  | bool (b : Bool)
  /-- An integer of any size. -/
  | int (n : Int)
  /-- A double. -/
  | float (x : Float)
  /-- A text. -/
  | string (s : String)
  /-- A sequence. -/
  | list (items : List Document)
  /-- A table with text keys. -/
  | table (entries : List (String × Document))
  /-- A table of which some keys are no texts. -/
  | mapping (entries : List (Document × Document))
  /-- A date with a time of day. -/
  | moment (m : Moment)
  /-- A date alone. -/
  | date (year month day : Nat)
  /-- A time of day alone, with microseconds. -/
  | clock (hour minute second micro : Nat)
  /-- A sequence of bytes. -/
  | bytes (octets : List Nat)
  deriving Inhabited

namespace Document

/-- Entries of a table, and none for anything else. -/
def entries : Document → Entries Document
  | table entries => entries
  | _ => []

/-- The value under a key of a table. -/
def get? (key : String) (d : Document) : Option Document :=
  Entries.get? key d.entries

/-- The value at the end of a path of keys. -/
def getPath? : List String → Document → Option Document
  | [], d => some d
  | key :: keys, d => (d.get? key).bind (getPath? keys)

/-- The text that bytes are the encoding of. -/
def decode? (octets : List Nat) : Option String :=
  String.fromUTF8? ⟨(octets.map UInt8.ofNat).toArray⟩

/-- A text, also one that is given by its bytes. -/
def text? : Document → Option String
  | string s => some s
  | bytes octets => decode? octets
  | _ => none

/-- Text of a key: numbers as they are written, truth values and nothing by their names, bytes
between quotation marks. -/
def keyText : Document → Option String
  | null => some "None"
  | bool b => some (if b then "True" else "False")
  | int n => some (Number.intText n)
  | float x => some (Number.floatText x)
  | string s => some s
  | moment m => some (m.dateText ++ " " ++ m.clockText ++ m.fractionText ++
      (m.zone.map fun zone => Zone.offsetText zone.offset).getD "")
  | date year month day =>
      some (Moment.dateText { year := year, month := month, day := day })
  | bytes octets => some (Text.quotedBytes octets)
  | _ => none

/-- A table read from pairs, in which a later value replaces an earlier one. -/
def ofPairs (pairs : List (String × Document)) : Document :=
  table (Entries.ofPairs pairs)

end Document

end Promptline
