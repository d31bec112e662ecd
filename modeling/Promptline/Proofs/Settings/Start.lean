import Mathlib
import Promptline.Proofs.Document.Calls
import Promptline.Proofs.Document.Toml.Limits
import Promptline.Proofs.Settings.Layers
import Promptline.Settings.Start

/-!
# Starting a run

A run starts with the settings that files, variables and options amount to, or with the built-in
settings and a reason.  Three things break it off instead: an integer in a file with more digits
than the limit, a file that is no text, and values that are nested too deeply to be read or merged.
-/

namespace Promptline.Settings

/-- The settings of a given file, or those of all layers. -/
def attempt (host : Host) (path : Option FilePath) (selection : Selection) :
    Except SettingsFault Loaded :=
  match path with
  | some path => loadFile host path true
  | none => load host selection

/-- The files that settings may be read from. -/
def filesOf (host : Host) (path : Option FilePath) (selection : Selection) : List FilePath :=
  match path with
  | some path => [path]
  | none => host.settingsFile :: (projectFile? host selection.start).toList

/-- The host with the variable that asks for strictness. -/
def demanding (host : Host) : Host :=
  { host with environment := Entries.insert "OMPRENDER_STRICT_CONFIG" "1" host.environment }

/-- A table of settings that takes part: the built-in ones, a file's, those of the variables or the
options. -/
def TakesPart (host : Host) (path : Option FilePath) (selection : Selection) (values : Table) :
    Prop :=
  match path with
  | some path => values = defaults ∨
      ∃ text, host.read path = .ok text ∧ Toml.read host.room text = .ok values
  | none => ∃ origin, Consults host selection origin values

/-- What a breakdown is due to: a file with an integer that is too long, a file that is no text, a
file with too many brackets and braces for the reader, or a table that is too deep to be copied. -/
def IsDueTo (host : Host) (path : Option FilePath) (selection : Selection) : Breakdown → Prop
  | .tooLong limit => ∃ file ∈ filesOf host path selection, ∃ text, host.read file = .ok text ∧
      Toml.read host.room text = .error (.tooLong limit) ∧ Toml.HasLongRun text.toList
  | .notText => ∃ file ∈ filesOf host path selection, host.read file = .error .notText
  | .tooDeep =>
      (∃ file ∈ filesOf host path selection, ∃ text, host.read file = .ok text ∧
        Toml.read host.room text = .error .tooDeep ∧ host.room < Toml.calls text.toList) ∨
      ∃ values, TakesPart host path selection values ∧
        host.room < 1 + (Document.table values).copyCalls

section Broken

variable {host : Host} {selection : Selection} {breakdown : Breakdown}

/-- What breaks the reading of a file off is in the file. -/
theorem isDueTo_of_readFile {path : Option FilePath} {file : FilePath}
    (member : file ∈ filesOf host path selection)
    (failed : readFile host file = .error (.broken breakdown)) :
    IsDueTo host path selection breakdown := by
  unfold readFile at failed
  split at failed
  · next missing =>
      obtain rfl : Breakdown.notText = breakdown := by simpa using failed
      exact ⟨file, member, missing⟩
  · cases failed
  · next text found =>
      have reads := Toml.read_reads host.room text
      split at failed
      · cases failed
      · cases failed
      · next limit document =>
          obtain rfl : Breakdown.tooLong limit = breakdown := by simpa using failed
          rw [document] at reads
          cases reads with
          | tooLong long => exact ⟨file, member, text, found, document, long⟩
      · next document =>
          obtain rfl : Breakdown.tooDeep = breakdown := by simpa using failed
          rw [document] at reads
          cases reads with
          | tooDeep deep => exact .inl ⟨file, member, text, found, document, deep⟩

theorem isDueTo_of_fileLayer {file : FilePath} {origin : Origin}
    (member : file ∈ filesOf host none selection)
    (failed : fileLayer host origin file = .error (.broken breakdown)) :
    IsDueTo host none selection breakdown := by
  unfold fileLayer at failed
  split at failed
  · exact isDueTo_of_readFile member (map_eq_error_iff.mp failed)
  · cases failed

/-- Merged layers are nested no more deeply than one of them. -/
theorem exists_copyCalls_mergeLayers_le {listed : List Layer} (some : listed ≠ []) :
    ∃ layer ∈ listed, (Document.table (mergeLayers listed)).copyCalls ≤
      (Document.table layer.values).copyCalls := by
  induction listed with
  | nil => exact absurd rfl some
  | cons layer below ih =>
      have merged := Table.copyCalls_merge_le (mergeLayers below) layer.values
      rw [mergeLayers_cons]
      obtain rfl | more := eq_or_ne below []
      · refine ⟨layer, List.mem_cons_self, ?_⟩
        have empty : (Document.table (mergeLayers [])).copyCalls = 2 := rfl
        have least : 2 ≤ (Document.table layer.values).copyCalls := by
          rw [Document.copyCalls]
          omega
        omega
      · obtain ⟨deepest, member, bound⟩ := ih more
        obtain inner | here := le_max_iff.mp merged
        · exact ⟨deepest, List.mem_cons_of_mem _ member, inner.trans bound⟩
        · exact ⟨layer, List.mem_cons_self, here⟩

/-- Of two tables that there is no room to merge, one is too deep itself. -/
theorem deep_of_mergeCalls {room : Nat} {earlier later : Table}
    (more : room < earlier.mergeCalls later) :
    room < 1 + (Document.table earlier).copyCalls ∨
      room < 1 + (Document.table later).copyCalls := by
  have bound := Table.mergeCalls_le earlier later
  omega

/-- A layer that there is no room to lay over others is too deep itself, or one of the others is. -/
theorem deep_of_onTop {room : Nat} {layer : Layer} {below : List Layer} (some : below ≠ [])
    (failed : onTop room layer below = .error (.broken breakdown)) :
    breakdown = .tooDeep ∧ ∃ deep ∈ layer :: below,
      room < 1 + (Document.table deep.values).copyCalls := by
  unfold onTop at failed
  split at failed
  · cases failed
  · next lacking =>
      obtain ⟨deepest, member, merged⟩ := exists_copyCalls_mergeLayers_le some
      refine ⟨by simpa using failed.symm, ?_⟩
      obtain inner | here := deep_of_mergeCalls (not_le.mp (not_or.mp lacking).2)
      · exact ⟨deepest, List.mem_cons_of_mem _ member, by omega⟩
      · exact ⟨layer, List.mem_cons_self, here⟩

theorem deep_of_stack {room : Nat} {below above : List Layer} (some : below ≠ [])
    (failed : stack room below above = .error (.broken breakdown)) :
    breakdown = .tooDeep ∧ ∃ deep ∈ above ++ below,
      room < 1 + (Document.table deep.values).copyCalls := by
  induction above generalizing below with
  | nil => cases failed
  | cons layer above ih =>
      obtain here | ⟨next, placed, later⟩ := bind_eq_error_iff.mp failed
      · obtain ⟨due, deep, member, lacking⟩ := deep_of_onTop some here
        refine ⟨due, deep, ?_, lacking⟩
        simp only [List.mem_append, List.mem_cons] at member ⊢
        tauto
      · obtain rfl := onTop_inv placed
        obtain ⟨due, deep, member, lacking⟩ := ih (List.cons_ne_nil _ _) later
        refine ⟨due, deep, ?_, lacking⟩
        simp only [List.mem_append, List.mem_cons] at member ⊢
        tauto

/-- A layer that is too deep is due to a table that takes part. -/
theorem isDueTo_of_deep {listed : List Layer} {deep : Layer} (member : deep ∈ listed)
    (genuine : ∀ layer ∈ listed, Genuine host selection layer)
    (lacking : host.room < 1 + (Document.table deep.values).copyCalls) :
    IsDueTo host none selection .tooDeep := by
  obtain empty | consulted := genuine deep member
  · have builtin : (Document.table []).copyCalls ≤ (Document.table defaults).copyCalls := by decide
    rw [empty] at lacking
    exact .inr ⟨defaults, ⟨.builtin, rfl⟩, by omega⟩
  · exact .inr ⟨deep.values, ⟨deep.origin, consulted⟩, lacking⟩

theorem isDueTo_of_layers (failed : layers host selection = .error (.broken breakdown)) :
    IsDueTo host none selection breakdown := by
  obtain user | ⟨user, read, later⟩ := bind_eq_error_iff.mp failed
  · exact isDueTo_of_fileLayer List.mem_cons_self user
  have files : ∀ layer ∈ [user, builtinLayer], Genuine host selection layer := by
    simp only [List.forall_mem_cons]
    exact ⟨genuine_user read, genuine_builtinLayer, by simp⟩
  obtain lacking | ⟨below, placed, later⟩ := bind_eq_error_iff.mp later
  · obtain ⟨rfl, deep, member, lacking⟩ := deep_of_onTop (by simp) lacking
    exact isDueTo_of_deep member files lacking
  obtain rfl := onTop_inv placed
  have environment : ∀ layer ∈ if selection.environment then [environmentLayer host] else [],
      Genuine host selection layer := by
    intro layer member
    split at member
    · next counts =>
        obtain rfl := List.mem_singleton.mp member
        exact genuine_environmentLayer counts
    · cases member
  have options : ∀ layer ∈ selection.overrides.toList.map overrideLayer,
      Genuine host selection layer := by
    intro layer member
    obtain ⟨overrides, given, rfl⟩ := List.mem_map.mp member
    exact genuine_overrideLayer (Option.mem_toList.mp given)
  have stacked {project : List Layer}
      (genuine : ∀ layer ∈ project, Genuine host selection layer)
      (lacking : stack host.room [user, builtinLayer] (project ++
        (if selection.environment then [environmentLayer host] else []) ++
        selection.overrides.toList.map overrideLayer) = .error (.broken breakdown)) :
      IsDueTo host none selection breakdown := by
    obtain ⟨rfl, deep, member, lacking⟩ := deep_of_stack (by simp) lacking
    refine isDueTo_of_deep member ?_ lacking
    simp only [List.forall_mem_append]
    exact ⟨⟨⟨genuine, environment⟩, options⟩, files⟩
  cases place : projectFile? host selection.start with
  | none =>
      rw [place] at later
      exact stacked (by simp) later
  | some path =>
      rw [place] at later
      obtain project | ⟨project, inner, later⟩ := bind_eq_error_iff.mp later
      · exact isDueTo_of_fileLayer (by simp [filesOf, place]) (map_eq_error_iff.mp project)
      · obtain ⟨layer, read, rfl⟩ := map_eq_ok_iff.mp inner
        exact stacked (by simpa using genuine_project place read) later

theorem isDueTo_of_loadFile {path : FilePath}
    (failed : loadFile host path true = .error (.broken breakdown)) :
    IsDueTo host (some path) selection breakdown := by
  obtain file | ⟨values, read, later⟩ := bind_eq_error_iff.mp failed
  · exact isDueTo_of_readFile (List.mem_singleton_self path) file
  obtain lacking | ⟨merged, -, later⟩ := bind_eq_error_iff.mp later
  · unfold mergeWithin at lacking
    split at lacking
    · cases lacking
    · next more =>
        obtain rfl : Breakdown.tooDeep = breakdown := by simpa using lacking
        obtain builtin | given := deep_of_mergeCalls (not_le.mp more)
        · exact .inr ⟨defaults, .inl rfl, builtin⟩
        · exact .inr ⟨values, .inr (readFile_eq_ok_iff.mp read), given⟩
  · simp only [if_true] at later
    split at later <;> cases later

/-- Loading breaks off only because of what a file holds, or because of a table that is too deep. -/
theorem isDueTo_of_attempt {path : Option FilePath}
    (failed : attempt host path selection = .error (.broken breakdown)) :
    IsDueTo host path selection breakdown := by
  cases path with
  | some path => exact isDueTo_of_loadFile failed
  | none =>
      obtain found | ⟨listed, -, later⟩ := bind_eq_error_iff.mp failed
      · exact isDueTo_of_layers found
      · split at later <;> cases later

end Broken

section Demanding

variable (host : Host) (path : Option FilePath) (selection : Selection)

theorem get?_demanding_of_ne {name : String} (other : name ≠ "OMPRENDER_STRICT_CONFIG") :
    (demanding host).get? name = host.get? name :=
  Entries.get?_insert_of_ne "1" host.environment other

theorem isStrict_demanding : isStrict (demanding host) = true := by
  have asked : (demanding host).get? "OMPRENDER_STRICT_CONFIG" = some "1" :=
    Entries.get?_insert_self _ "1" host.environment
  rw [isStrict, asked]
  rfl

/-- A variable that holds no setting changes none. -/
theorem ofVariables_insert {lead name : String} (other : pathOf? lead name = none) (value : String)
    (environment : Entries String) :
    ofVariables lead (Entries.insert name value environment) = ofVariables lead environment := by
  unfold ofVariables
  generalize ([] : Table) = values
  induction environment generalizing values with
  | nil => simp [Entries.insert, other]
  | cons entry rest ih =>
      by_cases same : entry.1 = name
      · simp [Entries.insert, same, other]
      · simp only [Entries.insert, if_neg same, List.foldl_cons]
        exact ih _

theorem settingsFile_demanding : (demanding host).settingsFile = host.settingsFile := by
  have home : (demanding host).get? "HOME" = host.get? "HOME" :=
    get?_demanding_of_ne host (by decide)
  have base : (demanding host).get? "XDG_CONFIG_HOME" = host.get? "XDG_CONFIG_HOME" :=
    get?_demanding_of_ne host (by decide)
  simp only [Host.settingsFile, Host.settingsFolder, Host.base, Host.home, home, base]
  rfl

theorem environmentLayer_demanding : environmentLayer (demanding host) = environmentLayer host := by
  have other : pathOf? variableLead "OMPRENDER_STRICT_CONFIG" = none := by decide
  have same := ofVariables_insert other "1" host.environment
  simp only [environmentLayer, demanding, same]

/-- Strictness has no effect on what the settings are. -/
theorem attempt_demanding :
    attempt (demanding host) path selection = attempt host path selection := by
  cases path with
  | some path => rfl
  | none =>
      have file := settingsFile_demanding host
      have environment := environmentLayer_demanding host
      have files : fileLayer (demanding host) = fileLayer host := rfl
      have project : projectFile? (demanding host) = projectFile? host := rfl
      have room : (demanding host).room = host.room := rfl
      simp only [attempt, load, layers, file, environment, files, project, room]

end Demanding

/-- A start after an attempt at settings. -/
theorem start_eq_ofLoaded {host : Host} {path : Option FilePath} (selection : Selection)
    (there : ∀ file, path = some file → host.hasPath file = true) :
    start host path selection = .ofLoaded (isStrict host) (attempt host path selection) := by
  cases path with
  | none => rfl
  | some file => rw [start, if_pos (there file rfl), attempt]

/-- A run starts with the settings that are asked for, or with the built-in ones and a reason, or
is broken off: because a file that it reads is no text, has an integer in it with more digits than
the limit or has too many brackets and braces for the reader, or because the values of a file, of
the variables or of the options are too deep to be merged.  Strictness turns the second case into a
refusal for the same reason, and changes nothing else. -/
theorem start_recovers {host : Host} {path : Option FilePath} (selection : Selection)
    (there : ∀ file, path = some file → host.hasPath file = true)
    (lenient : host.get? "OMPRENDER_STRICT_CONFIG" ≠ some "1") :
    ofTable [] = .ok standard ∧
    ((∃ loaded, attempt host path selection = .ok loaded ∧
        start host path selection = .ready loaded.settings none ∧
        start (demanding host) path selection = .ready loaded.settings none) ∨
      (∃ fault, attempt host path selection = .error fault ∧
        start host path selection =
          .ready standard (some ("Failed to load config: " ++ fault.message)) ∧
        start (demanding host) path selection =
          .refused ("Failed to load config: " ++ fault.message)) ∨
      ∃ breakdown, attempt host path selection = .error (.broken breakdown) ∧
        IsDueTo host path selection breakdown ∧
        start host path selection = .broken breakdown ∧
        start (demanding host) path selection = .broken breakdown) := by
  have forgiving : isStrict host = false := by simpa [isStrict] using lenient
  have strictly : start (demanding host) path selection =
      .ofLoaded true (attempt host path selection) := by
    have existing : ∀ file, path = some file → (demanding host).hasPath file = true := there
    rw [start_eq_ofLoaded selection existing, isStrict_demanding, attempt_demanding]
  rw [start_eq_ofLoaded selection there, forgiving, strictly]
  refine ⟨rfl, ?_⟩
  cases outcome : attempt host path selection with
  | ok loaded => exact .inl ⟨loaded, rfl, rfl, rfl⟩
  | error fault =>
      cases fault with
      | broken breakdown =>
          exact .inr (.inr ⟨breakdown, rfl, isDueTo_of_attempt outcome, rfl, rfl⟩)
      | unreadable path fault => exact .inr (.inl ⟨_, rfl, rfl, rfl⟩)
      | malformed path => exact .inr (.inl ⟨_, rfl, rfl, rfl⟩)
      | refused fault => exact .inr (.inl ⟨_, rfl, rfl, rfl⟩)

theorem malformed_file_is_replaced :
    let host : Host := { files := ⟨[(["settings.toml"], .file "[render\nstrict = true\n")]⟩ }
    let path : FilePath := ⟨"/", ["settings.toml"]⟩
    let reason := "Failed to load config: Invalid TOML in /settings.toml: malformed document"
    host.hasPath path = true ∧ host.get? "OMPRENDER_STRICT_CONFIG" ≠ some "1" ∧
      start host (some path) {} = .ready standard (some reason) ∧
      start (demanding host) (some path) {} = .refused reason := by
  intro host path reason
  have there : host.hasPath path = true := rfl
  have lenient : host.get? "OMPRENDER_STRICT_CONFIG" ≠ some "1" := by decide
  have fails : attempt host (some path) {} = .error (.malformed path) := by cbv
  have existing : ∀ file, some path = some file → host.hasPath file = true := by
    rintro _ ⟨⟩
    exact there
  obtain ⟨-, ⟨loaded, found, -⟩ | ⟨fault, found, ready, refused⟩ | ⟨breakdown, found, -⟩⟩ :=
    start_recovers {} existing lenient
  · rw [fails] at found
    cases found
  · rw [fails] at found
    obtain rfl := Except.error.inj found
    exact ⟨there, lenient, ready, refused⟩
  · rw [fails] at found
    cases found

section Unstartable

variable {host : Host} {path : FilePath}

/-- A given file that breaks its own reading off breaks the start off. -/
theorem start_of_readFile {breakdown : Breakdown} (there : host.hasPath path = true)
    (failed : readFile host path = .error (.broken breakdown)) :
    start host (some path) {} = .broken breakdown := by
  have fails : attempt host (some path) {} = .error (.broken breakdown) := by
    simp only [attempt, loadFile, failed]
    rfl
  have existing : ∀ file, some path = some file → host.hasPath file = true := by
    rintro _ ⟨⟩
    exact there
  rw [start_eq_ofLoaded {} existing, fails]
  rfl

/-- A host whose only file has the node. -/
def holding (node : FileNode) (room : Nat) : Host :=
  { files := ⟨[(["settings.toml"], node)]⟩, room := room }

/-- Whatever room there is for nested calls, each kind of breakdown keeps some file from starting a
run. -/
theorem exists_file_breaks (room : Nat) :
    (∃ text limit, start (holding (.file text) room) (some ⟨"/", ["settings.toml"]⟩) {} =
      .broken (.tooLong limit)) ∧
    start (holding .binary room) (some ⟨"/", ["settings.toml"]⟩) {} = .broken .notText ∧
    ∃ text, start (holding (.file text) room) (some ⟨"/", ["settings.toml"]⟩) {} =
      .broken .tooDeep := by
  have found (text : String) : (holding (.file text) room).read ⟨"/", ["settings.toml"]⟩ =
      .ok text := rfl
  obtain ⟨long, limit, tooLong⟩ := Toml.exists_tooLong room
  obtain ⟨deep, tooDeep⟩ := Toml.exists_tooDeep room
  refine ⟨⟨long, limit, start_of_readFile rfl ?_⟩, start_of_readFile rfl rfl,
    deep, start_of_readFile rfl ?_⟩
  · rw [readFile, found]
    simp only [holding, tooLong]
  · rw [readFile, found]
    simp only [holding, tooDeep]

end Unstartable

/-- Settings in a file can keep a run from starting. -/
theorem not_always_started :
    ¬ ∀ (host : Host) (path : Option FilePath) (selection : Selection),
      (∀ file, path = some file → host.hasPath file = true) →
      host.get? "OMPRENDER_STRICT_CONFIG" ≠ some "1" →
      (∃ loaded, attempt host path selection = .ok loaded ∧
        start host path selection = .ready loaded.settings none) ∨
      ∃ reason, start host path selection =
        .ready standard (some ("Failed to load config: " ++ reason)) := by
  intro always
  obtain ⟨⟨text, limit, stuck⟩, -⟩ := exists_file_breaks ({} : Host).room
  let path : FilePath := ⟨"/", ["settings.toml"]⟩
  let host : Host := holding (.file text) ({} : Host).room
  have there : host.hasPath path = true := rfl
  obtain ⟨loaded, -, ready⟩ | ⟨reason, ready⟩ := always host (some path) {} (by
      rintro _ ⟨⟩
      exact there) (by rintro ⟨⟩)
  · rw [stuck] at ready
    cases ready
  · rw [stuck] at ready
    cases ready

end Promptline.Settings
