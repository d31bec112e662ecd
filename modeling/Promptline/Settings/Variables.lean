import Promptline.Document.Json
import Promptline.Document.Table
import Promptline.Number.Read
import Promptline.Text.Case

/-!
# Settings in environment variables

A variable whose name starts with the program's prefix and has a double underscore further on is
a setting: double underscores separate the levels of nesting.
-/

namespace Promptline.Settings

/-- Texts that mean true, in lower case. -/
def trueTexts : List String := ["true", "1"]

/-- Texts that mean false, in lower case. -/
def falseTexts : List String := ["false", "0"]

/-- The integer that a text stands for, unless it is too long. -/
def integer? (raw : String) : Option Int :=
  match Number.readInteger raw.toList with
  | .ok n => some n
  | .error _ => none

/-- The double that a text with a point in it stands for. -/
def decimal? (raw : String) : Option Float :=
  if raw.toList.contains '.' then Number.readFloat? raw.toList else none

/-- The list or table that a text in brackets or braces stands for. -/
def structured? (raw : String) : Option Document :=
  let cs := raw.toList
  if (cs.head? = some '[' ∧ cs.getLast? = some ']') ∨
      (cs.head? = some '\x7b' ∧ cs.getLast? = some '\x7d') then
    Json.readStructure? raw
  else none

/-- The value of a variable: a truth value, an integer, a decimal number, a list or a table, and
else the text itself. -/
def valueOf (raw : String) : Document :=
  let lowered := Text.lower raw
  if trueTexts.contains lowered then .bool true
  else if falseTexts.contains lowered then .bool false
  else match integer? raw with
    | some n => .int n
    | none => match decimal? raw with
      | some x => .float x
      | none => (structured? raw).getD (.string raw)

/-- What separates the levels of nesting in a name. -/
def separator : List Char := ['_', '_']

/-- The path of the setting that a variable with the given name and prefix holds, if it holds
one: the parts of the name in lower case. A point in a part separates levels as well. -/
def pathOf? (lead name : String) : Option (List String) :=
  match Text.afterPrefix? lead.toList name.toList with
  | some key =>
      if Text.occursIn separator key then
        let lowered := (Text.lower (String.ofList key)).toList
        some ((Text.splitText separator lowered).flatMap fun part =>
          (Text.splitOn '.' part).map String.ofList)
      else none
  | none => none

/-- The settings that variables hold, set one after the other. -/
def ofVariables (lead : String) (environment : List (String × String)) : Table :=
  environment.foldl (fun table entry =>
    match pathOf? lead entry.1 with
    | some path => Table.set (valueOf entry.2) path table
    | none => table) []

end Promptline.Settings
