import Promptline.CommandLine.Arguments
import Promptline.File.Path
import Promptline.Settings

/-!
# Commands

What a command line asks for: options for the run as a whole, and a command with its own options.
-/

namespace Promptline.CommandLine

/-- Options for the run as a whole. -/
structure RunOptions where
  /-- Write every event to the log. -/
  verbose : Bool := false
  /-- Do not print warnings. -/
  quiet : Bool := false
  /-- Settings file that takes the place of all others. -/
  config : Option FilePath := none
  deriving DecidableEq, Repr

/-- Notation of the output. -/
inductive OutputFormat
  /-- Plain text. -/
  | text
  /-- JSON. -/
  | json
  deriving DecidableEq, Repr

/-- Options of a command that resolves templates. -/
structure ResolveOptions where
  /-- Snapshot to resolve against. -/
  snapshot : Option FilePath := none
  /-- Notation of the output. -/
  format : OutputFormat := .text
  /-- What a failing placeholder shows, if not what the settings say. -/
  marker : Option ErrorMarker := none
  deriving DecidableEq, Repr

/-- A command. -/
inductive Command
  /-- Resolve a theme. -/
  | render (theme : FilePath) (options : ResolveOptions)
  /-- Resolve a template. -/
  | eval (template : String) (options : ResolveOptions)
  /-- Show the context that templates are resolved against. -/
  | context (snapshot : Option FilePath)
  deriving DecidableEq, Repr

namespace RunOptions

/-- The options for the run as a whole. -/
def forms : List OptionForm := [
  { name := "verbose", isFlag := true }, { name := "quiet", isFlag := true },
  { name := "no-color", isFlag := true }, { name := "config" }]

/-- Whether a flag is on. -/
def isOn (name : String) (options : Entries String) : Bool :=
  Entries.get? name options == some "true"

/-- Read the options for the run as a whole; the other arguments are left for the command. Output
has no color in any case, so there is nothing to keep of that option. -/
def read (arguments : List String) : Except ArgumentFault (RunOptions × List String) := do
  let reading ← readOptions forms arguments
  let options : RunOptions := {
    verbose := isOn "verbose" reading.options
    quiet := isOn "quiet" reading.options
    config := (Entries.get? "config" reading.options).map .ofString }
  .ok (options, reading.others ++ afterOptions arguments)

end RunOptions

/-- Drop hyphens and underscores at both ends. -/
def bare (text : String) : String :=
  String.ofList (Text.trimWhile (fun c => c == '-' || c == '_') text.toList)

/-- Whether a text names a choice: in lower case, in upper case, or with a capital letter. -/
def names (choice text : String) : Bool :=
  [choice, Text.upper choice, choice.capitalize].contains (bare text)

/-- The choice that an option names, if the option is given. -/
def choose {α : Type} (option : String) (choices : List (String × α)) (options : Entries String) :
    Except ArgumentFault (Option α) :=
  match Entries.get? option options with
  | none => .ok none
  | some text =>
      match choices.find? (names ·.1 text) with
      | some (_, value) => .ok (some value)
      | none => .error (.noChoice option text)

/-- The operands among arguments that belong to no option. -/
def operands (reading : Reading) (arguments : List String) : Except ArgumentFault (List String) :=
  match reading.others.find? looksLikeOption with
  | some text => .error (.unknownOption text)
  | none => .ok (reading.others ++ afterOptions arguments)

/-- The only operand. -/
def onlyOperand (name : String) : List String → Except ArgumentFault String
  | [] => .error (.missing name)
  | [operand] => .ok operand
  | _ :: text :: _ => .error (.surplus text)

namespace ResolveOptions

/-- The option that names a snapshot. -/
def snapshotForm : OptionForm := { name := "context", letter := some 'c' }

/-- The options of a command that resolves templates. -/
def forms : List OptionForm :=
  [snapshotForm, { name := "format", letter := some 'f' }, { name := "on-error" }]

/-- The snapshot that options name. -/
def snapshotOf (options : Entries String) : Option FilePath :=
  (Entries.get? snapshotForm.name options).map .ofString

/-- Options by name as options of a command. -/
def ofEntries (options : Entries String) : Except ArgumentFault ResolveOptions := do
  let format ← choose "format" [("text", OutputFormat.text), ("json", .json)] options
  let marker ← choose "on-error" Settings.markers options
  .ok { snapshot := snapshotOf options, format := format.getD .text, marker := marker }

/-- Read the only operand and the options of a command that resolves templates. -/
def read (operand : String) (arguments : List String) :
    Except ArgumentFault (String × ResolveOptions) := do
  let reading ← readOptions forms arguments
  let options ← ofEntries reading.options
  let text ← onlyOperand operand (← operands reading arguments)
  .ok (text, options)

end ResolveOptions

namespace Command

/-- Read a command with its name in front. -/
def read (name : String) (arguments : List String) : Except ArgumentFault Command :=
  match name with
  | "render" => do
      let (theme, options) ← ResolveOptions.read "theme" arguments
      .ok (.render (.ofString theme) options)
  | "eval" => do
      let (template, options) ← ResolveOptions.read "template" arguments
      .ok (.eval template options)
  | "context" => do
      let reading ← readOptions [ResolveOptions.snapshotForm] arguments
      match ← operands reading arguments with
      | [] => .ok (.context (ResolveOptions.snapshotOf reading.options))
      | text :: _ => .error (.surplus text)
  | _ => .error (.unknownCommand name)

end Command

/-- Arguments that ask how to use the program. -/
def helpArguments : List String := ["--help", "-h", "--version"]

/-- Whether arguments ask how to use the program. -/
def asksForHelp (arguments : List String) : Bool :=
  (arguments.takeWhile (· != endOfOptions)).any helpArguments.contains

/-- How to use the program. -/
def usage : List String := [
  "Usage: omprender [OPTIONS] COMMAND [ARGUMENTS]",
  "",
  "Resolve shell prompt theme templates into display text.",
  "",
  "Commands:",
  "  render THEME      Resolve a theme's segments against a context",
  "  eval TEMPLATE     Resolve one template against a context",
  "  context           Print the effective context as JSON",
  "",
  "Options:",
  "  --verbose         Write debug entries to the log",
  "  --quiet           Do not print template warnings",
  "  --no-color        Disable colored output",
  "  --config PATH     Use this config file instead of discovery",
  "",
  "Options of commands:",
  "  -c, --context PATH             Context snapshot file",
  "  -f, --format text|json         Output format",
  "  --on-error source|empty        What a failing placeholder renders as"]

end Promptline.CommandLine
