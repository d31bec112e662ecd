import Promptline.Context.Record
import Promptline.Document
import Promptline.Number.Limit

/-!
# Values

What expressions evaluate to, how a value decides a condition, and the text that a placeholder
shows for it.
-/

namespace Promptline

/-- A value of the template language. -/
inductive Value
  /-- The answer of a lookup that found nothing. -/
  | missing
  /-- No value. -/
  | nil
  /-- A truth value. -/
  | bool (b : Bool)
  /-- An integer of any size. -/
  | int (n : Int)
  /-- A double. -/
  | float (x : Float)
  /-- A text. -/
  | string (s : String)
  /-- A date with a time of day. -/
  | moment (m : Moment)
  /-- A section of the context. -/
  | record (r : Record)
  /-- The context that the expression is evaluated in. -/
  | root
  /-- The environment variables. -/
  | environment (environment : Environment)
  /-- Values by name. -/
  | map (entries : List (String × Value))
  /-- A sequence of values. -/
  | list (items : List Value)
  deriving Inhabited

namespace Value

/-- How a value decides a condition: empty texts and collections, zeros, false, nil and missing
values do not hold; everything else does. -/
def isTruthy : Value → Bool
  | missing => false
  | nil => false
  | bool b => b
  | int n => n != 0
  | float x => x != 0
  | string s => s != ""
  | moment _ => true
  | record _ => true
  | root => true
  | environment e => !e.entries.isEmpty
  | map entries => !entries.isEmpty
  | list items => !items.isEmpty

/-- A double as a placeholder shows it: whole numbers below `10 ^ 21` without a fraction, and
nothing for infinities and NaN. -/
def floatText (x : Float) : String :=
  match Number.Double.ofFloat? x with
  | none => ""
  | some d =>
      if d.isWhole && d.truncate.natAbs < Nat.pow 10 21 then Number.intText d.truncate
      else Number.floatText x

/-- The text that a placeholder shows for a value. -/
def text : Value → Except DigitLimit String
  | missing => .ok ""
  | nil => .ok ""
  | bool b => .ok (if b then "true" else "false")
  | int n => if Number.isTooLong n then .error .writing else .ok (Number.intText n)
  | float x => .ok (floatText x)
  | string s => .ok s
  | moment m => .ok m.displayText
  | record r => .ok r.text
  | root => .ok ""
  | environment _ => .ok ""
  | map _ => .ok ""
  | list _ => .ok ""

/-- Name of the kind of value, as messages give it. -/
def typeName : Value → String
  | missing => "_PathMiss"
  | nil => "nil"
  | bool _ => "bool"
  | int _ => "number"
  | float _ => "number"
  | string _ => "string"
  | moment m => if m.fromText then "DateTime" else "datetime"
  | record r => r.typeName
  | root => "Context"
  | environment _ => "map"
  | map _ => "map"
  | list _ => "list"

/-- A missing value counts as no value. -/
def orNil : Value → Value
  | missing => nil
  | value => value

end Value

namespace Git

/-- Template fields of the repository state, in order. -/
def fields (git : Git) : Entries Value :=
  let seen := git.visible
  [ ("Branch", .string seen.branch),
    ("HEAD", .string seen.branch),
    ("IsRepo", .bool seen.isRepo),
    ("Ahead", .int seen.ahead),
    ("Behind", .int seen.behind),
    ("Working", .record (.changes seen.working)),
    ("Staging", .record (.changes seen.staging)),
    ("StashCount", .int seen.stashCount) ]

end Git

namespace System

/-- Template fields of the memory figures, in order. -/
def fields (system : System) : Entries Value :=
  [ ("PhysicalPercentUsed", .float system.percentUsed),
    ("Precision", .int system.precision),
    ("PhysicalTotalMemory", .int system.totalMemory),
    ("PhysicalFreeMemory", .int system.freeMemory) ]

end System

namespace Environment

/-- The value of a variable; unknown names read as the empty text. -/
def lookup (name : String) (environment : Environment) : String :=
  (Entries.get? name environment.entries).getD ""

/-- Set the later variables over the earlier ones. -/
def overlay (earlier : Environment) (later : Entries String) : Environment :=
  ⟨Entries.overlay earlier.entries later⟩

end Environment

namespace Record

/-- Template fields of a record, in order. -/
def fields : Record → Entries Value
  | changes c => [("Changed", .bool c.changed), ("String", .string c.summary)]
  | git g => g.fields
  | system s => s.fields
  | shell s => [("Name", .string s.name)]
  | folders f => [("CurrentDir", .string f.currentDir), ("HomeDir", .string f.homeDir)]
  | clock c => [("Now", .moment c.now)]
  | platform p => [("Platform", .string p.name)]

/-- The value of a field, or the missing value. -/
def lookup (name : String) (r : Record) : Value :=
  (Entries.get? name r.fields).getD .missing

/-- Whether a field is a second name of another one. -/
def isAlias : Record → String → Bool
  | git _, "HEAD" => true
  | _, _ => false

end Record

namespace Changes

/-- The summary as data. -/
def toDocument (changes : Changes) : Document :=
  .table [("Changed", .bool changes.changed), ("String", .string changes.summary)]

end Changes

namespace Value

/-- A value without parts of its own as data; moments become text. -/
def leafDocument : Value → Document
  | bool b => .bool b
  | int n => .int n
  | float x => .float x
  | string s => .string s
  | moment m => .string m.isoText
  | record (.changes c) => c.toDocument
  | environment e => .table (Entries.mapValues .string e.entries)
  | _ => .null

end Value

namespace Record

/-- A record as data: its fields under their first names. -/
def toDocument (r : Record) : Document :=
  .table (Entries.mapValues Value.leafDocument (r.fields.filter fun field => !r.isAlias field.1))

end Record

mutual

/-- A value as data: records and maps become tables, moments become text. -/
def Value.toDocument : Value → Document
  | .record r => r.toDocument
  | .map entries => .table (Value.entriesToDocument entries)
  | .list items => .list (Value.itemsToDocument items)
  | leaf => leaf.leafDocument

/-- Entries of a map as data. -/
def Value.entriesToDocument : List (String × Value) → List (String × Document)
  | [] => []
  | (name, value) :: rest => (name, value.toDocument) :: Value.entriesToDocument rest

/-- Items of a sequence as data. -/
def Value.itemsToDocument : List Value → List Document
  | [] => []
  | value :: rest => value.toDocument :: Value.itemsToDocument rest

end

end Promptline
