import Promptline.CommandLine.Report
import Promptline.Context.File
import Promptline.Log
import Promptline.Settings.Start
import Promptline.Terminal
import Promptline.Theme.File

/-!
# Runs of the command line

A run reads its arguments, starts with settings, opens its log and performs a command.
-/

namespace Promptline.CommandLine

/-- How a run ends that cannot use a file. -/
def endingWithout (host : Host) (path : FilePath) : Ending :=
  if host.hasPath path then .unusable else .missing

/-- The context to resolve against: the sample, with a snapshot over it if one is given. -/
def contextOf (host : Host) (snapshot : Option FilePath) : Except Report Context :=
  let base := Context.sample host.now
  match snapshot with
  | none => .ok base
  | some path =>
      (base.load host path).mapError fun fault =>
        .failure (endingWithout host path) [] fault.message

/-- The event of having resolved a theme. -/
def rendered (path : FilePath) (blocks : List ResolvedBlock) (result : Result) : Event :=
  ⟨.info, "theme_rendered", [
    ("theme", .string path.text),
    ("blocks", .int blocks.length),
    ("issues", .int result.issues.length)]⟩

/-- What commands depend on besides their own options. -/
structure Surroundings where
  /-- The host. -/
  host : Host
  /-- What a failed placeholder shows if a command does not say it. -/
  marker : ErrorMarker
  /-- How issues are treated. -/
  manner : Manner

namespace Surroundings

/-- What a failed placeholder shows. -/
def markerFor (around : Surroundings) (options : ResolveOptions) : ErrorMarker :=
  options.marker.getD around.marker

/-- Resolve a template. -/
def eval (around : Surroundings) (template : String) (options : ResolveOptions) : Report :=
  match contextOf around.host options.snapshot with
  | .error report => report
  | .ok context =>
      let pass : Pass := { scope := { context := context }, registry := .builtin }
      let resolved := pass.resolve (around.markerFor options) template {}
      Report.after (resolved.reported.map Issue.event) <|
        match resolved.answer with
        | .error limit => { ending := .broken (.tooLong limit) }
        | .ok resolution => (Result.ofResolution resolution).report around.manner options.format

/-- Resolve a theme that has been read. -/
def renderTheme (around : Surroundings) (path : FilePath) (theme : Theme)
    (options : ResolveOptions) : Report :=
  match contextOf around.host options.snapshot with
  | .error report => report
  | .ok context =>
      let processor : Processor := { marker := around.markerFor options }
      match (processor.theme theme context {}).answer with
      | .error limit => { ending := .broken (.tooLong limit) }
      | .ok blocks =>
          let result := Result.ofBlocks blocks
          (result.report around.manner options.format).after
            (blocks.flatMap (·.events) ++ [rendered path blocks result])

/-- Read a theme and resolve it. -/
def render (around : Surroundings) (path : FilePath) (options : ResolveOptions) : Report :=
  match Theme.load around.host path with
  | .error fault =>
      let ending := if fault.isInvalid then Ending.invalid else endingWithout around.host path
      .failure ending (fault.details.map ("  " ++ ·)) fault.message
  | .ok theme => (around.renderTheme path theme options).after [theme.loaded path]

/-- Show the context. -/
def showContext (around : Surroundings) (snapshot : Option FilePath) : Report :=
  match contextOf around.host snapshot with
  | .error report => report
  | .ok context => .ofDocument context.toDocument

/-- Perform a command. -/
def perform (around : Surroundings) : Command → Report
  | .render theme options => around.render theme options
  | .eval template options => around.eval template options
  | .context snapshot => around.showContext snapshot

/-- Perform the command that arguments give; without arguments there is none. -/
def performArguments (around : Surroundings) : List String → Report
  | [] => { ending := .help }
  | name :: arguments =>
      match Command.read name arguments with
      | .error fault => { ending := .misused fault }
      | .ok command => around.perform command

end Surroundings

/-- What a run does. -/
structure Run where
  /-- How it ends. -/
  ending : Ending
  /-- What it prints as its result. -/
  output : String := ""
  /-- Its messages about problems. -/
  messages : List String := []
  /-- The log file that it opens, and the lines that it adds. -/
  log : Option (FilePath × List String) := none

namespace Run

/-- What a run prints for texts: each one and a line end. -/
def outputOf (texts : List String) : String :=
  String.join (texts.map fun text => Terminal.printed text ++ "\n")

/-- The settings that verbosity stands for. -/
def verboseSettings : Table :=
  [("logging", .table [("level", .string Severity.debug.name)])]

/-- How a run starts. -/
def startOf (host : Host) (options : RunOptions) : Settings.Start :=
  Settings.start host options.config
    { overrides := if options.verbose then some verboseSettings else none }

/-- The events of a start with the built-in settings in place of others. -/
def startEvents (warning : Option String) : List Event :=
  warning.toList.map fun reason => ⟨.warning, "config_fallback", [("error", .string reason)]⟩

/-- A run that has its settings. -/
def ofSettings (host : Host) (settings : Settings) (warning : Option String)
    (options : RunOptions) (arguments : List String) : Run :=
  let logging := settings.logging
  let logger := Logger.ofCommand host logging.level.name logging.format logging.file
    (arguments.headD "")
  let around : Surroundings := {
    host := host
    marker := settings.render.marker
    manner := { strict := settings.render.strict, quiet := options.quiet } }
  let report := (around.performArguments arguments).after (startEvents warning)
  { ending := report.ending
    output := outputOf report.printed
    messages := report.messages.map Terminal.printedMessage
    log := some (logger.path, logger.lines (Log.stamp host) report.events) }

/-- The run of a command line. -/
def ofArguments (host : Host) (arguments : List String) : Run :=
  if asksForHelp arguments then { ending := .help }
  else
    match RunOptions.read arguments with
    | .error fault => { ending := .misused fault }
    | .ok (options, arguments) =>
        let start := startOf host options
        match start with
        | .refused _ => { ending := .refused, messages := start.report }
        | .broken breakdown => { ending := .broken breakdown }
        | .ready settings warning =>
            let run := ofSettings host settings warning options arguments
            { run with messages := start.report ++ run.messages }

end Run

/-- The files that a command reads. -/
def Command.files : Command → List FilePath
  | .render theme options => theme :: options.snapshot.toList
  | .eval _ options => options.snapshot.toList
  | .context snapshot => snapshot.toList

/-- The files that a run may read. -/
def filesOf (host : Host) (arguments : List String) : List FilePath :=
  match RunOptions.read arguments with
  | .error _ => []
  | .ok (options, arguments) =>
      let ofCommand := match arguments with
        | [] => []
        | name :: arguments => ((Command.read name arguments).toOption.map Command.files).getD []
      options.config.toList ++ [host.settingsFile] ++ Settings.projectPlaces host {} ++ ofCommand

end Promptline.CommandLine
