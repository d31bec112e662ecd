import Promptline.Document.Table
import Promptline.Resolve.Resolver
import Promptline.Validation.Scalar

/-!
# Settings

What the program can be told: how much it logs and where, and how it treats placeholders that
fail. Settings are read from a merged table, which also keeps keys that mean nothing here.
-/

namespace Promptline

/-- Notation of log lines. -/
inductive LogFormat
  /-- One JSON table a line. -/
  | json
  /-- Columns and pairs for people to read. -/
  | text
  deriving DecidableEq, Repr

namespace LogFormat

/-- Name of a notation. -/
def name : LogFormat → String
  | json => "json"
  | text => "text"

/-- Notations by name. -/
def options : List (String × LogFormat) := [("json", json), ("text", text)]

end LogFormat

/-- What is logged. -/
structure LogSettings where
  /-- Least severity that is written. -/
  level : Severity := .info
  /-- Notation of the lines. -/
  format : LogFormat := .json
  /-- The log file; empty for the one in the user's state folder. -/
  file : String := ""
  deriving DecidableEq, Repr

/-- How templates are rendered. -/
structure RenderSettings where
  /-- What a failed placeholder shows. -/
  marker : ErrorMarker := .source
  /-- Whether issues make the program fail. -/
  strict : Bool := false
  deriving DecidableEq, Repr

/-- Settings. -/
structure Settings where
  /-- What is logged. -/
  logging : LogSettings := {}
  /-- How templates are rendered. -/
  render : RenderSettings := {}
  /-- The merged table that the settings were read from. -/
  data : Table

/-- Why settings are refused: the first unacceptable value. -/
structure SettingFault where
  /-- Dotted key of the value. -/
  key : String
  /-- What is wrong with it. -/
  problem : String
  /-- The value. -/
  value : Document
  /-- What would have been accepted. -/
  expected : String
  /-- File that the value comes from, if there is only one. -/
  source : Option String

namespace SettingFault

/-- Text of the refusal. -/
def message (fault : SettingFault) : String :=
  "Invalid configuration value for '" ++ fault.key ++ "': " ++ fault.problem

/-- The refusal of data with a first problem. -/
def ofProblem (source : Option String) (problem : Problem) : SettingFault where
  key := problem.dotted
  problem := problem.message
  value := problem.input
  expected := problem.expected.getD problem.message
  source := source

end SettingFault

namespace Settings

open Checked (field part)

/-- Severities by name. -/
def levels : List (String × Severity) :=
  [("debug", .debug), ("info", .info), ("warning", .warning), ("error", .error)]

/-- Markers by name. -/
def markers : List (String × ErrorMarker) := [("source", .source), ("empty", .empty)]

/-- Check what is logged. -/
def checkLogging : Document → Checked LogSettings :=
  part "LoggingConfig" fun entries =>
    LogSettings.mk
      <$> field ["level"] .info (.choice levels) entries
      <*> field ["format"] .json (.choice LogFormat.options) entries
      <*> field ["file"] "" .text entries

/-- Check how templates are rendered. -/
def checkRender : Document → Checked RenderSettings :=
  part "RenderConfig" fun entries =>
    RenderSettings.mk
      <$> field ["on_error"] .source (.choice markers) entries
      <*> field ["strict"] false .truth entries

/-- Check a merged table. -/
def check (data : Table) : Checked Settings :=
  Settings.mk
    <$> field ["logging"] {} checkLogging data
    <*> field ["render"] {} checkRender data
    <*> pure data

/-- Built-in values, under everything else. -/
def defaults : Table := [
  ("logging", .table [
    ("level", .string "info"), ("format", .string "json"), ("file", .string "")]),
  ("render", .table [("on_error", .string "source"), ("strict", .bool false)])]

/-- A section of unchecked data, with its defaults if it is unusable. -/
def section? {α : Type} (check : Document → Checked α) (fallback : α) (key : String)
    (data : Table) : α :=
  (((Entries.get? key data).bind fun d => (check d).value?)).getD fallback

/-- Settings of a merged table; sections that are unusable have their defaults. -/
def lenient (data : Table) : Settings where
  logging := section? checkLogging {} "logging" data
  render := section? checkRender {} "render" data
  data := data

/-- Settings of a merged table, unless some value is unacceptable. -/
def strict (source : Option String) (data : Table) : Except SettingFault Settings :=
  match (check data).problems with
  | [] => .ok (lenient data)
  | first :: _ => .error (.ofProblem source first)

/-- Settings of a table laid over the built-in values. -/
def ofTable (data : Table) : Except SettingFault Settings :=
  strict none (defaults.merge data)

/-- Settings of a table laid over the built-in values, without a refusal. -/
def ofTableLenient (data : Table) : Settings :=
  lenient (defaults.merge data)

/-- The built-in settings. -/
def standard : Settings :=
  ofTableLenient []

/-- The value under a dotted key. -/
def get? (key : String) (settings : Settings) : Option Document :=
  settings.data.get? (Table.path key)

end Settings

end Promptline
