import Promptline.CommandLine.Run
import Promptline.Proofs.Settings.Sections
import Promptline.Proofs.Settings.Start

/-!
# Options among the settings

The options of the command line are laid over all other layers, so settings that come from the
layers hold whatever the options say.  A settings file that is given takes the place of all layers,
the options among them.
-/

namespace Promptline.Settings

variable {host : Host} {settings : Settings}

theorem ofLoaded_eq_ready_iff {strict : Bool} {outcome : Except SettingsFault Loaded} :
    Start.ofLoaded strict outcome = .ready settings none ↔
      ∃ loaded, outcome = .ok loaded ∧ loaded.settings = settings := by
  cases outcome with
  | ok loaded => simp [Start.ofLoaded]
  | error fault => cases fault <;> cases strict <;> simp [Start.ofLoaded]

/-- A run starts without a warning just if its settings can be loaded, from a file that is there if
one is given. -/
theorem start_eq_ready_iff {path : Option FilePath} {selection : Selection} :
    start host path selection = .ready settings none ↔
      (∀ file, path = some file → host.hasPath file = true) ∧
        ∃ loaded, attempt host path selection = .ok loaded ∧ loaded.settings = settings := by
  by_cases there : ∀ file, path = some file → host.hasPath file = true
  · rw [start_eq_ofLoaded selection there, ofLoaded_eq_ready_iff]
    exact (and_iff_right there).symm
  · obtain ⟨file, given, missing⟩ : ∃ file, path = some file ∧ host.hasPath file ≠ true := by
      simpa using there
    subst given
    simp [start, missing]

theorem check_of_strict {source : Option String} {data : Table}
    (built : strict source data = .ok settings) :
    settings.data = data ∧ check data = .valid settings := by
  have accepted := strict_eq_ok_iff.mp built
  exact ⟨(check_eq_valid_iff.mp accepted).2.2, accepted⟩

theorem mergeWithin_inv {room : Nat} {earlier later merged : Table}
    (laid : mergeWithin room earlier later = .ok merged) : merged = earlier.merge later := by
  unfold mergeWithin at laid
  split at laid
  · exact (Except.ok.inj laid).symm
  · cases laid

theorem loadFile_inv {file : FilePath} {loaded : Loaded}
    (accepted : loadFile host file true = .ok loaded) :
    ∃ text values, host.read file = .ok text ∧ Toml.read host.room text = .ok values ∧
      strict (some file.text) (defaults.merge values) = .ok loaded.settings := by
  obtain ⟨values, read, later⟩ := bind_eq_ok_iff.mp accepted
  obtain ⟨text, held, document⟩ := readFile_eq_ok_iff.mp read
  obtain ⟨merged, laid, later⟩ := bind_eq_ok_iff.mp later
  obtain rfl := mergeWithin_inv laid
  simp only [if_true] at later
  split at later
  · next settings built =>
      obtain rfl := Except.ok.inj later
      exact ⟨text, values, held, document, built⟩
  · cases later

theorem load_built {selection : Selection} {loaded : Loaded}
    (accepted : load host selection = .ok loaded) :
    strict none (mergeLayers loaded.layers) = .ok loaded.settings := by
  obtain ⟨listed, -, later⟩ := bind_eq_ok_iff.mp accepted
  split at later
  · next settings built =>
      obtain rfl := Except.ok.inj later
      exact built
  · cases later

/-- The settings that a run starts with pass the check that they came through. -/
theorem check_of_ready {path : Option FilePath} {selection : Selection}
    (ready : start host path selection = .ready settings none) :
    check settings.data = .valid settings := by
  obtain ⟨-, loaded, accepted, rfl⟩ := start_eq_ready_iff.mp ready
  cases path with
  | none =>
      obtain ⟨same, valid⟩ := check_of_strict (load_built accepted)
      rw [same, valid]
  | some file =>
      obtain ⟨text, values, -, -, built⟩ := loadFile_inv accepted
      obtain ⟨same, valid⟩ := check_of_strict built
      rw [same, valid]

/-! ## On top of the layers -/

section Layered

variable {selection : Selection} {overrides : Table} {loaded : Loaded}

/-- Options are the uppermost layer. -/
theorem exists_below_overrides (given : selection.overrides = some overrides)
    (accepted : load host selection = .ok loaded) :
    ∃ below, mergeLayers loaded.layers = (mergeLayers below).merge overrides := by
  obtain ⟨found, -⟩ := load_inv accepted
  obtain ⟨user, project, -, -, listed⟩ := layers_inv found
  rw [listed, given]
  exact ⟨_, rfl⟩

/-- Settings that come from the layers hold every plain value of the options. -/
theorem overrides_win (keyed : (Document.table overrides).Keyed)
    (given : selection.overrides = some overrides)
    (ready : start host none selection = .ready settings none) {path : List String}
    {value : Document} (held : overrides.get? path = some value) (plain : value.isTable = false) :
    settings.data.get? path = some value := by
  obtain ⟨-, loaded, accepted, rfl⟩ := start_eq_ready_iff.mp ready
  obtain ⟨below, merged⟩ := exists_below_overrides given accepted
  have nonempty : path ≠ [] := by
    rintro rfl
    obtain rfl := Option.some.inj held
    cases plain
  rw [(load_inv accepted).2, merged]
  exact (Table.laidOver keyed nonempty).plain value held plain

end Layered

/-! ## In place of the layers -/

/-- With a given file, options have no effect. -/
theorem start_of_file (file : FilePath) (selection other : Selection) :
    start host (some file) selection = start host (some file) other := rfl

/-- The settings of a given file are its values over the built-in ones. -/
theorem data_of_file {file : FilePath} {selection : Selection}
    (ready : start host (some file) selection = .ready settings none) :
    ∃ text values, host.read file = .ok text ∧ Toml.read host.room text = .ok values ∧
      settings.data = defaults.merge values := by
  obtain ⟨-, loaded, accepted, rfl⟩ := start_eq_ready_iff.mp ready
  obtain ⟨text, values, held, document, built⟩ := loadFile_inv accepted
  exact ⟨text, values, held, document, (check_of_strict built).1⟩

/-! ## Verbosity -/

theorem level_of_checkLogging {d : Document} {logging : LogSettings}
    (accepted : checkLogging d = .valid logging) {name : String}
    (held : d.get? "level" = some (.string name)) :
    levels.lookup name = some logging.level := by
  cases d with
  | table entries =>
      have level : Entries.get? "level" entries = some (.string name) := held
      rw [checkLogging, Checked.part, Document.textEntries?, ← Checked.yields_eq_iff,
        Checked.yields_seq_iff, Checked.yields_seq_iff, Checked.yields_map_iff,
        Checked.field_of_get? level] at accepted
      obtain ⟨found, read, _, -, _, -, rfl⟩ := accepted
      obtain ⟨_, ⟨⟩, known⟩ :=
        Checked.choice_eq_valid_iff.mp (Checked.within_eq_valid_iff.mp read)
      exact known
  | _ => cases held

/-- The level of accepted settings is the one that their data name. -/
theorem level_of_data {data : Table} (accepted : check data = .valid settings) {name : String}
    (held : data.get? ["logging", "level"] = some (.string name)) :
    levels.lookup name = some settings.logging.level := by
  obtain ⟨d, outside, inside⟩ := Option.bind_eq_some_iff.mp held
  obtain ⟨_, level, same⟩ := Option.bind_eq_some_iff.mp inside
  obtain rfl := Option.some.inj same
  have logging : Entries.get? "logging" data = some d := outside
  have read := (check_eq_valid_iff.mp accepted).1
  rw [Checked.field_of_get? logging, Checked.within_eq_valid_iff] at read
  exact level_of_checkLogging read level

open CommandLine (RunOptions Run)

theorem verboseSettings_keyed : (Document.table Run.verboseSettings).Keyed := by
  have level : (Document.table [("level", .string Severity.debug.name)]).Keyed :=
    Document.keyed_nil.insert "level" (Document.keyed_of_not_isTable rfl trivial)
  exact Document.keyed_nil.insert "logging" level

/-- A verbose run whose settings come from the layers logs everything. -/
theorem level_of_verbose {options : RunOptions} (verbose : options.verbose = true)
    (layered : options.config = none) (ready : Run.startOf host options = .ready settings none) :
    settings.logging.level = .debug := by
  rw [Run.startOf, layered, verbose, if_pos rfl] at ready
  have level : settings.data.get? ["logging", "level"] = some (.string Severity.debug.name) :=
    overrides_win verboseSettings_keyed rfl ready rfl rfl
  have known := level_of_data (check_of_ready ready) level
  exact (Option.some.inj known).symm

/-- With a given file, verbosity has no effect. -/
theorem startOf_of_file {options : RunOptions} {file : FilePath}
    (given : options.config = some file) (verbose : Bool) :
    Run.startOf host { options with verbose := verbose } = Run.startOf host options := by
  simp only [Run.startOf, given]
  exact start_of_file file _ _

/-- Options win unless a settings file is given.  Settings that are loaded from the layers hold
every plain value of the options, so a verbose run logs everything.  Settings that are loaded from a
given file are its values over the built-in ones, whatever the options say. -/
theorem options_win_unless_file_given {path : Option FilePath} {selection : Selection}
    {overrides : Table} (keyed : (Document.table overrides).Keyed)
    (given : selection.overrides = some overrides)
    (ready : start host path selection = .ready settings none) :
    (path = none → ∀ key value, overrides.get? key = some value → value.isTable = false →
      settings.data.get? key = some value) ∧
    (∀ file, path = some file →
      (∀ other, start host path other = .ready settings none) ∧
        ∃ text values, host.read file = .ok text ∧ Toml.read host.room text = .ok values ∧
          settings.data = defaults.merge values) ∧
    ∀ (options : RunOptions) (started : Settings), options.verbose = true →
      Run.startOf host options = .ready started none →
      (options.config = none → started.logging.level = .debug) ∧
        (options.config ≠ none →
          Run.startOf host { options with verbose := false } = .ready started none) := by
  refine ⟨?_, ?_, fun options started verbose runs => ⟨fun layered => ?_, fun named => ?_⟩⟩
  · rintro rfl key value held plain
    exact overrides_win keyed given ready held plain
  · rintro file rfl
    exact ⟨fun other => (start_of_file file other selection).trans ready, data_of_file ready⟩
  · exact level_of_verbose verbose layered runs
  · obtain ⟨file, given⟩ := Option.ne_none_iff_exists'.mp named
    rw [startOf_of_file given, runs]

theorem verbosity_wins_over_variable :
    let host : Host := { environment := [("OMPRENDER_LOGGING__LEVEL", "error")] }
    let selection : Selection := { overrides := some Run.verboseSettings }
    ∃ settings, start host none selection = .ready settings none ∧
      settings.data.get? ["logging", "level"] = some (.string "debug") ∧
      settings.logging.level = .debug := by
  intro host selection
  have succeeds : (load host selection).toOption.isSome = true := by decide +kernel
  cases accepted : load host selection with
  | error fault => rw [accepted] at succeeds; cases succeeds
  | ok loaded =>
      have ready : start host none selection = .ready loaded.settings none :=
        start_eq_ready_iff.mpr ⟨nofun, loaded, accepted, rfl⟩
      obtain ⟨wins, -, verbose⟩ :=
        options_win_unless_file_given verboseSettings_keyed rfl ready
      exact ⟨loaded.settings, ready, wins rfl _ _ rfl rfl,
        (verbose { verbose := true } loaded.settings rfl ready).1 rfl⟩

/-- Options are hidden by a settings file that is given. -/
theorem options_do_not_always_win :
    ¬ ∀ (host : Host) (path : Option FilePath) (selection : Selection) (overrides : Table)
        (settings : Settings),
      (∀ file, path = some file → host.hasPath file = true) →
      (Document.table overrides).Keyed → selection.overrides = some overrides →
      start host path selection = .ready settings none →
      ∀ key value, overrides.get? key = some value → value.isTable = false →
        settings.data.get? key = some value := by
  intro always
  let path : FilePath := ⟨"/", ["settings.toml"]⟩
  let host : Host := { files := ⟨[(path.parts, .file "[logging]\nlevel = \"warning\"\n")]⟩ }
  let selection : Selection := { overrides := some Run.verboseSettings }
  have there : ∀ file, some path = some file → host.hasPath file = true := by
    rintro _ ⟨⟩
    rfl
  have succeeds : ((loadFile host path true).toOption.bind fun loaded =>
      loaded.settings.data.get? ["logging", "level"]) = some (.string "warning") := by
    cbv
  cases accepted : loadFile host path true with
  | error fault => rw [accepted] at succeeds; cases succeeds
  | ok loaded =>
      rw [accepted] at succeeds
      have ready : start host (some path) selection = .ready loaded.settings none :=
        start_eq_ready_iff.mpr ⟨there, loaded, accepted, rfl⟩
      have wins := always host (some path) selection _ _ there verboseSettings_keyed rfl ready
        ["logging", "level"] (.string "debug") rfl rfl
      exact absurd (wins.symm.trans succeeds) (by simp)

end Promptline.Settings
