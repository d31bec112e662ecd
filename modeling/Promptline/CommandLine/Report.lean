import Promptline.CommandLine.Command
import Promptline.Compose
import Promptline.Document.Fault
import Promptline.Document.Json

/-!
# Reports

How a run ends and what it prints. The issues of a resolution are warnings, unless the settings
are strict: then they also decide how the run ends. What is printed as the result depends on
neither.
-/

namespace Promptline.CommandLine

/-- How a run ends. -/
inductive Ending
  /-- All went well. -/
  | success
  /-- Nothing was asked for, or help was: the usage is shown. -/
  | help
  /-- The settings are refused. -/
  | refused
  /-- A file cannot be used. -/
  | unusable
  /-- A theme has the wrong shape. -/
  | invalid
  /-- The arguments are refused. -/
  | misused (fault : ArgumentFault)
  /-- A file is missing. -/
  | missing
  /-- Templates have issues, and the settings are strict. -/
  | issues
  /-- Something breaks the run off. -/
  | broken (breakdown : Breakdown)
  /-- The result cannot be written as JSON. -/
  | unwritable (fault : Json.WriteFault)

namespace Ending

/-- Exit status. -/
def status : Ending → Nat
  | success | help => 0
  | refused | unusable | broken _ | unwritable _ => 1
  | invalid | misused _ => 2
  | missing => 3
  | issues => 6

end Ending

/-- What a command does. -/
structure Report where
  /-- How it ends. -/
  ending : Ending := .success
  /-- The texts that it prints. -/
  printed : List String := []
  /-- Its messages about problems. -/
  messages : List String := []
  /-- The events that it logs. -/
  events : List Event := []

namespace Report

/-- A command that fails, with details and an error message. -/
def failure (ending : Ending) (details : List String) (message : String) : Report where
  ending := ending
  messages := details ++ ["Error: " ++ message]

/-- What a command does after events. -/
def after (events : List Event) (report : Report) : Report :=
  { report with events := events ++ report.events }

/-- A document as the result of a command. -/
def ofDocument (d : Document) : Report :=
  match Json.write .indented d with
  | .ok text => { printed := [text] }
  | .error fault => { ending := .unwritable fault }

end Report

/-- How a command that resolves templates treats issues. -/
structure Manner where
  /-- Whether issues decide how the run ends. -/
  strict : Bool
  /-- Whether warnings are left out. -/
  quiet : Bool
  deriving DecidableEq, Repr

/-- The result of resolving a theme or a template. -/
structure Result where
  /-- The result as texts. -/
  texts : List String
  /-- The result as data. -/
  document : Document
  /-- The issues. -/
  issues : List Issue

namespace Result

/-- The warning about an issue. -/
def warning (issue : Issue) : String :=
  let place := match issue.segment.filter (· != "") with
    | some segment => segment ++ ": "
    | none => ""
  "Warning: " ++ place ++ issue.message

/-- The result in a notation; issues have warnings in plain text only. -/
def shown (quiet : Bool) (format : OutputFormat) (result : Result) : Report :=
  match format with
  | .json => .ofDocument result.document
  | .text =>
      { printed := result.texts
        messages := if quiet then [] else result.issues.map warning }

/-- Let issues decide how a run ends that went well so far. -/
def judged (strict : Bool) (result : Result) (report : Report) : Report :=
  match report.ending with
  | .success =>
      if strict && !result.issues.isEmpty then
        { report with
          ending := .issues
          messages := report.messages ++
            ["Error: " ++ toString result.issues.length ++ " template issue(s) reported"] }
      else report
  | _ => report

/-- The result as the report of a command. -/
def report (manner : Manner) (format : OutputFormat) (result : Result) : Report :=
  result.judged manner.strict (result.shown manner.quiet format)

/-- Issues as data. -/
def issuesDocument (issues : List Issue) : Document :=
  .list (issues.map Issue.toDocument)

/-- The result of resolving a template. -/
def ofResolution (resolution : Resolution) : Result where
  texts := [resolution.text]
  document := .table [
    ("text", .string resolution.text), ("issues", issuesDocument resolution.issues)]
  issues := resolution.issues

/-- The result of resolving a theme. -/
def ofBlocks (blocks : List ResolvedBlock) : Result :=
  let issues := blocks.flatMap (·.issues)
  { texts := Compose.plain blocks
    document := .table [
      ("blocks", .list (blocks.map (·.toDocument))), ("issues", issuesDocument issues)]
    issues := issues }

end Result

end Promptline.CommandLine
