import Promptline.CommandLine.Run
import Promptline.Proofs.Segment.Issues

/-!
# What a run prints, and how issues end it

What a run prints as its result depends on its command, on the files of the command, on the time and
on what a failed placeholder shows.  Strictness and quietness do not show in it: the one decides how
a run with issues ends, the other whether the issues have warnings.
-/

namespace Promptline.CommandLine

/-! ## Results -/

/-- Issues decide how a run ends. -/
def Manner.Objects (manner : Manner) (issues : List Issue) : Prop :=
  manner.strict = true ∧ issues ≠ []

instance (manner : Manner) (issues : List Issue) : Decidable (manner.Objects issues) :=
  inferInstanceAs (Decidable (_ ∧ _))

/-- The messages about issues: a warning for each one, and how many there are if they decide how
the run ends. -/
def Manner.complaints (manner : Manner) (issues : List Issue) : List String :=
  (if manner.quiet then [] else issues.map Result.warning) ++
    if manner.Objects issues then
      ["Error: " ++ toString issues.length ++ " template issue(s) reported"]
    else []

namespace Result

theorem printed_judged (strict : Bool) (result : Result) (report : Report) :
    (result.judged strict report).printed = report.printed := by
  unfold judged
  split
  · split <;> rfl
  · rfl

theorem printed_shown (quiet other : Bool) (format : OutputFormat) (result : Result) :
    (result.shown quiet format).printed = (result.shown other format).printed := by
  cases format <;> rfl

/-- The manner does not show in what is printed. -/
theorem printed_report (manner other : Manner) (format : OutputFormat) (result : Result) :
    (result.report manner format).printed = (result.report other format).printed := by
  rw [report, report, printed_judged, printed_judged, printed_shown]

/-- In plain text the texts are printed, and issues decide how the run ends if it is strict. -/
theorem report_text (manner : Manner) (result : Result) :
    result.report manner .text =
      { ending := if manner.Objects result.issues then .issues else .success
        printed := result.texts
        messages := manner.complaints result.issues } := by
  obtain ⟨strict, quiet⟩ := manner
  cases strict <;> cases issues : result.issues <;>
    simp [report, shown, judged, Manner.Objects, Manner.complaints, issues]

end Result

/-! ## What commands print -/

/-- Two hosts that have the same texts at some paths, at the same time. -/
structure Agree (paths : List FilePath) (host other : Host) : Prop where
  /-- The time is the same. -/
  now : host.now = other.now
  /-- The texts are the same. -/
  read : ∀ path ∈ paths, host.read path = other.read path

section Printed

variable {host other : Host}

theorem readDocument_eq {path : FilePath} (same : host.read path = other.read path) :
    host.readDocument path = other.readDocument path := by
  unfold Host.readDocument
  rw [same]

theorem themeLoad_eq {path : FilePath} (same : host.read path = other.read path) :
    Theme.load host path = Theme.load other path := by
  unfold Theme.load
  rw [readDocument_eq same]

theorem contextLoad_eq {path : FilePath} (same : host.read path = other.read path)
    (base : Context) : base.load host path = base.load other path := by
  unfold Context.load
  rw [readDocument_eq same]

/-- Hosts that agree on a snapshot give the same context, or none and nothing is printed. -/
theorem printed_contextOf {snapshot : Option FilePath} (agree : Agree snapshot.toList host other)
    {first second : Context → Report}
    (same : ∀ context, (first context).printed = (second context).printed) :
    (match contextOf host snapshot with
      | .error report => report
      | .ok context => first context).printed =
    (match contextOf other snapshot with
      | .error report => report
      | .ok context => second context).printed := by
  unfold contextOf
  rw [agree.now]
  cases snapshot with
  | none => exact same _
  | some path =>
      simp only [contextLoad_eq (agree.read path (by simp))]
      cases Context.load other path (Context.sample other.now) with
      | error fault => rfl
      | ok context => exact same context

end Printed

namespace Surroundings

/-- Surroundings that differ at most in the manner, and in files that are not at some paths. -/
structure Alike (paths : List FilePath) (around other : Surroundings) : Prop where
  /-- The hosts agree on the paths. -/
  agree : Agree paths around.host other.host
  /-- A failed placeholder shows the same. -/
  marker : around.marker = other.marker

variable {around other : Surroundings}

theorem Alike.markerFor {paths : List FilePath} (alike : Alike paths around other)
    (options : ResolveOptions) : around.markerFor options = other.markerFor options := by
  rw [Surroundings.markerFor, Surroundings.markerFor, alike.marker]

theorem printed_eval {options : ResolveOptions}
    (alike : Alike options.snapshot.toList around other) (template : String) :
    (around.eval template options).printed = (other.eval template options).printed := by
  unfold eval
  refine printed_contextOf alike.agree fun context => ?_
  simp only [Report.after, alike.markerFor options]
  split
  · rfl
  · exact Result.printed_report _ _ _ _

theorem printed_renderTheme {options : ResolveOptions}
    (alike : Alike options.snapshot.toList around other) (path : FilePath) (theme : Theme) :
    (around.renderTheme path theme options).printed =
      (other.renderTheme path theme options).printed := by
  unfold renderTheme
  refine printed_contextOf alike.agree fun context => ?_
  simp only [alike.markerFor options]
  split
  · rfl
  · exact Result.printed_report _ _ _ _

theorem printed_render {path : FilePath} {options : ResolveOptions}
    (alike : Alike (path :: options.snapshot.toList) around other) :
    (around.render path options).printed = (other.render path options).printed := by
  obtain ⟨⟨now, read⟩, marker⟩ := alike
  obtain ⟨first, others⟩ := List.forall_mem_cons.mp read
  unfold render
  rw [themeLoad_eq first]
  split
  · rfl
  · exact printed_renderTheme ⟨⟨now, others⟩, marker⟩ path _

theorem printed_showContext {snapshot : Option FilePath}
    (alike : Alike snapshot.toList around other) :
    (around.showContext snapshot).printed = (other.showContext snapshot).printed := by
  unfold showContext
  refine printed_contextOf alike.agree fun context => ?_
  rfl

theorem printed_perform {command : Command} (alike : Alike command.files around other) :
    (around.perform command).printed = (other.perform command).printed := by
  cases command with
  | render path options =>
      rw [perform, perform]
      exact printed_render alike
  | eval template options =>
      rw [perform, perform]
      exact printed_eval alike template
  | context snapshot =>
      rw [perform, perform]
      exact printed_showContext alike

theorem performs_render (around : Surroundings) {path : FilePath} {options : ResolveOptions}
    {theme : Theme} {context : Context} {blocks : List ResolvedBlock}
    (loaded : Theme.load around.host path = .ok theme)
    (seen : contextOf around.host options.snapshot = .ok context)
    (answered : (({ marker := around.markerFor options } : Processor).theme theme context
      {}).answer = .ok blocks) :
    ∃ events, around.perform (.render path options) =
      ((Result.ofBlocks blocks).report around.manner options.format).after events := by
  refine ⟨[theme.loaded path] ++
    (blocks.flatMap (·.events) ++ [rendered path blocks (Result.ofBlocks blocks)]), ?_⟩
  unfold perform render renderTheme
  simp only [loaded, seen, answered, Report.after, List.append_assoc]

theorem performs_eval (around : Surroundings) {template : String} {options : ResolveOptions}
    {context : Context} {resolution : Resolution}
    (seen : contextOf around.host options.snapshot = .ok context)
    (answered : (Pass.resolve { scope := { context := context }, registry := .builtin }
      (around.markerFor options) template {}).answer = .ok resolution) :
    ∃ events, around.perform (.eval template options) =
      ((Result.ofResolution resolution).report around.manner options.format).after events := by
  unfold perform eval
  simp only [seen, answered]
  exact ⟨_, rfl⟩

end Surroundings

/-- The command that arguments give, if they give one. -/
def commandOf? : List String → Option Command
  | [] => none
  | name :: arguments => (Command.read name arguments).toOption

/-- Arguments that give a command have it performed, and others have nothing printed. -/
theorem Surroundings.performArguments_cases (around : Surroundings) (arguments : List String) :
    (∃ command, commandOf? arguments = some command ∧
        around.performArguments arguments = around.perform command) ∨
      commandOf? arguments = none ∧ (around.performArguments arguments).printed = [] := by
  cases arguments with
  | nil => exact .inr ⟨rfl, rfl⟩
  | cons name arguments =>
      simp only [commandOf?, performArguments]
      cases Command.read name arguments with
      | error fault => exact .inr ⟨rfl, rfl⟩
      | ok command => exact .inl ⟨command, rfl, rfl⟩

/-! ## Runs -/

/-- A command line that gets as far as its command: it does not ask for help, and there are settings
to start with. -/
structure Launch where
  /-- The host. -/
  host : Host
  /-- The command line. -/
  line : List String
  /-- The options for the run as a whole. -/
  options : RunOptions
  /-- The arguments that are left for the command. -/
  arguments : List String
  /-- The settings. -/
  settings : Settings
  /-- The reason why the settings are the built-in ones, if something failed. -/
  warning : Option String
  /-- The command line does not ask for help. -/
  helpless : asksForHelp line = false
  /-- The options are those of the command line. -/
  read : RunOptions.read line = .ok (options, arguments)
  /-- The settings are those that the run starts with. -/
  ready : Run.startOf host options = .ready settings warning

/-- How a run that can start renders templates. -/
def renderingOf? : Settings.Start → Option RenderSettings
  | .ready settings _ => some settings.render
  | _ => none

/-- Quietness does not show in the settings. -/
theorem startOf_quiet (host : Host) (options : RunOptions) (quiet : Bool) :
    Run.startOf host { options with quiet := quiet } = Run.startOf host options := by
  unfold Run.startOf
  rfl

namespace Launch

/-- A command line launches a run if the run can start. -/
theorem exists_launch {host : Host} {line arguments : List String} {options : RunOptions}
    {render : RenderSettings} (helpless : asksForHelp line = false)
    (read : RunOptions.read line = .ok (options, arguments))
    (starts : renderingOf? (Run.startOf host options) = some render) :
    ∃ launch : Launch, launch.host = host ∧ launch.line = line ∧ launch.arguments = arguments ∧
      launch.settings.render = render := by
  cases ready : Run.startOf host options with
  | ready settings warning =>
      rw [ready] at starts
      exact ⟨⟨host, line, options, arguments, settings, warning, helpless, read, ready⟩, rfl, rfl,
        rfl, Option.some.inj starts⟩
  | _ => rw [ready] at starts; cases starts

variable (launch : Launch)

/-- The run. -/
def run : Run :=
  Run.ofArguments launch.host launch.line

/-- The command, if the arguments give one. -/
def command? : Option Command :=
  commandOf? launch.arguments

/-- How issues are treated. -/
def manner : Manner where
  strict := launch.settings.render.strict
  quiet := launch.options.quiet

/-- What the command depends on besides its own options. -/
def around : Surroundings where
  host := launch.host
  marker := launch.settings.render.marker
  manner := launch.manner

theorem run_eq :
    launch.run =
      { Run.ofSettings launch.host launch.settings launch.warning launch.options
          launch.arguments with
        messages := (Settings.Start.ready launch.settings launch.warning).report ++
          (launch.around.performArguments launch.arguments).messages.map
            Terminal.printedMessage } := by
  simp only [run, Run.ofArguments, launch.helpless, Bool.false_eq_true, if_false, launch.read,
    launch.ready]
  rfl

theorem run_output :
    launch.run.output =
      Run.outputOf (launch.around.performArguments launch.arguments).printed := by
  rw [run_eq]
  rfl

theorem run_ending :
    launch.run.ending = (launch.around.performArguments launch.arguments).ending := by
  rw [run_eq]
  rfl

theorem run_messages :
    launch.run.messages = (Settings.Start.ready launch.settings launch.warning).report ++
      (launch.around.performArguments launch.arguments).messages.map
        Terminal.printedMessage := by
  rw [run_eq]

/-- The texts that a run prints as its result, and the issues that decide with the manner how it
ends. -/
structure Delivers (texts : List String) (issues : List Issue) : Prop where
  /-- The texts are printed. -/
  output : launch.run.output = Run.outputOf texts
  /-- The run has the status for issues if there are any and it is strict. -/
  fails : launch.run.ending.status = 6 ↔ launch.settings.render.strict = true ∧ issues ≠ []
  /-- Otherwise it ends well. -/
  succeeds : ¬ (launch.settings.render.strict = true ∧ issues ≠ []) →
    launch.run.ending = .success
  /-- Issues have warnings unless the run is quiet, and are counted if they decide how it ends. -/
  messages : launch.run.messages =
    (Settings.Start.ready launch.settings launch.warning).report ++
      (launch.manner.complaints issues).map Terminal.printedMessage

variable {launch}

theorem performArguments_eq {command : Command} (asked : launch.command? = some command) :
    launch.around.performArguments launch.arguments = launch.around.perform command := by
  obtain ⟨other, alsoAsked, performed⟩ | ⟨absent, -⟩ :=
    launch.around.performArguments_cases launch.arguments
  · obtain rfl := Option.some.inj (asked.symm.trans alsoAsked)
    exact performed
  · cases asked.symm.trans absent

/-- A command that gives a result in plain text delivers it. -/
theorem delivers_of_performs {command : Command} (asked : launch.command? = some command)
    {result : Result} (performs : ∃ events, launch.around.perform command =
      (result.report launch.manner .text).after events) :
    launch.Delivers result.texts result.issues := by
  obtain ⟨events, performed⟩ := performs
  rw [← performArguments_eq asked, Result.report_text] at performed
  have ending := launch.run_ending
  rw [performed] at ending
  have objects : launch.manner.Objects result.issues ↔
      launch.settings.render.strict = true ∧ result.issues ≠ [] := Iff.rfl
  refine ⟨?_, ?_, fun content => ?_, ?_⟩
  · rw [run_output, performed]
    rfl
  · rw [ending, ← objects]
    by_cases decisive : launch.manner.Objects result.issues <;>
      simp [Report.after, decisive, Ending.status]
  · rw [ending]
    exact if_neg (mt objects.mp content)
  · rw [run_messages, performed]
    rfl

/-- What is printed as the result of a command does not depend on anything but the command, its
files, the time and what a failed placeholder shows. -/
theorem output_eq {first second : Launch} (same : first.command? = second.command?)
    (marker : first.settings.render.marker = second.settings.render.marker)
    (agree : ∀ command ∈ first.command?, Agree command.files first.host second.host) :
    first.run.output = second.run.output := by
  rw [run_output, run_output]
  congr 1
  obtain ⟨command, asked, performed⟩ | ⟨absent, nothing⟩ :=
    first.around.performArguments_cases first.arguments
  · rw [performed, performArguments_eq (same.symm.trans asked)]
    exact Surroundings.printed_perform ⟨agree command asked, marker⟩
  · obtain ⟨command, asked, -⟩ | ⟨-, alsoNothing⟩ :=
      second.around.performArguments_cases second.arguments
    · cases absent.symm.trans (same.trans asked)
    · rw [nothing, alsoNothing]

end Launch

/-- Strictness and quietness never change the output.  Two runs of the same command with the same
files at the same time print the same, whatever their other options and settings are, unless the
settings differ in what a failed placeholder shows.  If a theme or a template can be loaded and
resolved, its text is printed; issues give the run a status of its own if it is strict, and the run
succeeds otherwise.  The issues of a theme are those of its resolved blocks, with one for each
property that is rejected. -/
theorem manner_never_changes_output :
    (∀ first second : Launch, first.command? = second.command? →
      first.settings.render.marker = second.settings.render.marker →
      (∀ command ∈ first.command?, Agree command.files first.host second.host) →
      first.run.output = second.run.output) ∧
    (∀ (launch : Launch) (path : FilePath) (options : ResolveOptions) (theme : Theme)
        (context : Context) (blocks : List ResolvedBlock),
      let marker := options.marker.getD launch.settings.render.marker
      let processor : Processor := { marker := marker }
      launch.command? = some (.render path options) → options.format = .text →
      Theme.load launch.host path = .ok theme →
      contextOf launch.host options.snapshot = .ok context →
      (processor.theme theme context {}).answer = .ok blocks →
      launch.Delivers (Compose.plain blocks) (blocks.flatMap (·.issues)) ∧
        blocks.flatMap (·.issues) = processor.themeIssues theme context) ∧
    ∀ (launch : Launch) (template : String) (options : ResolveOptions) (context : Context)
        (resolution : Resolution),
      let marker := options.marker.getD launch.settings.render.marker
      let pass : Pass := { scope := { context := context }, registry := .builtin }
      launch.command? = some (.eval template options) → options.format = .text →
      contextOf launch.host options.snapshot = .ok context →
      (pass.resolve marker template {}).answer = .ok resolution →
      launch.Delivers [resolution.text] resolution.issues := by
  refine ⟨fun first second same marker agree => Launch.output_eq same marker agree, ?_, ?_⟩
  · intro launch path options theme context blocks marker processor asked format loaded seen
      answered
    refine ⟨?_, processor.issues_of_theme answered⟩
    have performs := launch.around.performs_render loaded seen answered
    rw [format] at performs
    exact Launch.delivers_of_performs asked performs
  · intro launch template options context resolution marker pass asked format seen answered
    have performs := launch.around.performs_eval seen answered
    rw [format] at performs
    exact Launch.delivers_of_performs asked performs

/-- A theme with a rejected property, run loosely and strictly, with warnings and without. -/
theorem rejected_property_fails_strict_runs :
    let path : FilePath := .ofString "t.json"
    let theme := "\x7b\"blocks\": [\x7b\"segments\": [\x7b\"type\": \"sysinfo\", " ++
      "\"template\": \"a\", \"properties\": \x7b\"precision\": -1\x7d\x7d]\x7d]\x7d"
    let loose : Host := { files := ⟨[(path.parts, .file theme)]⟩ }
    let strict : Host := { loose with environment := [("OMPRENDER_RENDER__STRICT", "true")] }
    let loud := ["render", "t.json"]
    let quiet := "--quiet" :: loud
    (∀ host ∈ [loose, strict], ∀ line ∈ [loud, quiet],
      (Run.ofArguments host line).output = (Run.ofArguments loose loud).output) ∧
    ∀ line ∈ [loud, quiet], (Run.ofArguments loose line).ending = .success ∧
      (Run.ofArguments strict line).ending.status = 6 := by
  intro path theme loose strict loud quiet
  obtain ⟨outputs, renders, -⟩ := manner_never_changes_output
  -- Both hosts start with the built-in settings but for strictness, however loud the run is.
  have starts : ∀ host ∈ [loose, strict],
      renderingOf? (Run.startOf host {}) = some { strict := !host.environment.isEmpty } := by
    simp only [List.forall_mem_cons, List.not_mem_nil, false_implies, implies_true, and_true]
    exact ⟨by decide +kernel, by decide +kernel⟩
  have launches : ∀ host ∈ [loose, strict], ∀ line ∈ [loud, quiet], ∃ launch : Launch,
      launch.host = host ∧ launch.line = line ∧ launch.arguments = loud ∧
        launch.settings.render = { strict := !host.environment.isEmpty } := by
    intro host known
    have loudly : RunOptions.read loud = .ok ({}, loud) := by decide +kernel
    have quietly : RunOptions.read quiet = .ok ({ quiet := true }, loud) := by decide +kernel
    simp only [List.forall_mem_cons, List.not_mem_nil, false_implies, implies_true, and_true]
    refine ⟨Launch.exists_launch (by decide) loudly (starts host known),
      Launch.exists_launch (by decide) quietly ?_⟩
    have same : Run.startOf host { quiet := true } = Run.startOf host {} :=
      startOf_quiet host {} true
    rw [same]
    exact starts host known
  have asked : commandOf? loud = some (.render path {}) := by decide +kernel
  -- The theme can be read and resolved, and has an issue.
  have reported : (match Theme.load loose path with
      | .ok theme =>
          (({} : Processor).theme theme (.sample loose.now) {}).answer.toOption.map
            fun blocks => (blocks.flatMap (·.issues)).isEmpty
      | .error _ => none) = some false := by decide +kernel
  cases loaded : Theme.load loose path with
  | error fault => rw [loaded] at reported; cases reported
  | ok theme =>
  cases answered : (({} : Processor).theme theme (.sample loose.now) {}).answer with
  | error limit =>
      simp only [loaded, answered] at reported
      cases reported
  | ok blocks =>
  have issues : blocks.flatMap (·.issues) ≠ [] := by
    intro absent
    simp only [loaded, answered, Except.toOption, Option.map_some, absent] at reported
    cases reported
  have shared : ∀ host ∈ [loose, strict], ∀ paths, Agree paths host loose := by
    simp only [List.forall_mem_cons, List.not_mem_nil, false_implies, implies_true, and_true]
    exact ⟨fun _ => ⟨rfl, fun _ _ => rfl⟩, fun _ => ⟨rfl, fun _ _ => rfl⟩⟩
  have delivers (launch : Launch) (known : launch.host ∈ [loose, strict])
      (arguments : launch.arguments = loud) (marker : launch.settings.render.marker = .source) :
      launch.Delivers (Compose.plain blocks) (blocks.flatMap (·.issues)) := by
    obtain ⟨now, read⟩ := shared launch.host known [path]
    have alsoLoaded := (themeLoad_eq (read path (by simp))).trans loaded
    refine (renders launch path {} theme (.sample loose.now) blocks ?_ rfl alsoLoaded ?_ ?_).1
    · rw [Launch.command?, arguments, asked]
    · rw [← now]
      rfl
    · rw [marker]
      exact answered
  refine ⟨fun host known line ran => ?_, fun line ran => ⟨?_, ?_⟩⟩
  · obtain ⟨launch, rfl, rfl, arguments, rendering⟩ := launches host known line ran
    obtain ⟨plain, hosted, spoken, alsoArguments, alsoRendering⟩ :=
      launches loose (by simp) loud (by simp)
    have same := outputs launch plain (by rw [Launch.command?, arguments, ← alsoArguments]; rfl)
      (by rw [rendering, alsoRendering])
      (fun command _ => by rw [hosted]; exact shared launch.host known command.files)
    rw [Launch.run, Launch.run, hosted, spoken] at same
    exact same
  · obtain ⟨launch, hosted, rfl, arguments, rendering⟩ := launches loose (by simp) line ran
    have delivered := delivers launch (by simp [hosted]) arguments (by rw [rendering])
    have succeeds := delivered.succeeds (by rw [rendering]; exact fun fails => by cases fails.1)
    rwa [Launch.run, hosted] at succeeds
  · obtain ⟨launch, hosted, rfl, arguments, rendering⟩ := launches strict (by simp) line ran
    have delivered := delivers launch (by simp [hosted]) arguments (by rw [rendering])
    have fails := delivered.fails.mpr ⟨by rw [rendering]; rfl, issues⟩
    rwa [Launch.run, hosted] at fails

end Promptline.CommandLine
