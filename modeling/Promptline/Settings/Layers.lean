import Promptline.Document.Calls
import Promptline.Document.Toml
import Promptline.Host
import Promptline.Settings
import Promptline.Settings.Variables

/-!
# Layers of settings

Settings come from several layers: command line, environment variables, the project's file, the
user's file and the built-in values. A layer yields to those listed before it.
-/

namespace Promptline

/-- Why settings cannot be loaded. -/
inductive SettingsFault
  /-- A file cannot be read. -/
  | unreadable (path : FilePath) (fault : FileFault)
  /-- A file is no valid TOML. -/
  | malformed (path : FilePath)
  /-- A value is unacceptable. -/
  | refused (fault : SettingFault)
  /-- Something that loading does not get over. -/
  | broken (breakdown : Breakdown)

namespace SettingsFault

/-- Text of the problem. -/
def message : SettingsFault → String
  | unreadable path fault => fault.message path
  | malformed path => "Invalid TOML in " ++ path.text ++ ": malformed document"
  | refused fault => fault.message
  | broken breakdown => breakdown.message

end SettingsFault

namespace Settings

/-- Where a layer comes from. -/
inductive Origin
  /-- Options of the command line. -/
  | commandLine
  /-- Environment variables. -/
  | environment
  /-- The project's file. -/
  | project
  /-- The user's file. -/
  | user
  /-- Built-in values. -/
  | builtin
  deriving DecidableEq, Repr

namespace Origin

/-- Name of an origin. -/
def name : Origin → String
  | commandLine => "cli"
  | environment => "env"
  | project => "project"
  | user => "user"
  | builtin => "default"

end Origin

/-- A layer of settings. -/
structure Layer where
  /-- Where it comes from. -/
  origin : Origin
  /-- Its file, if it has one. -/
  path : Option FilePath := none
  /-- Whether the file is there, or whether there are any options. -/
  isPresent : Bool := true
  /-- The values as read. -/
  values : Table := []

/-- Front of the names of variables that hold settings. -/
def variableLead : String := "OMPRENDER_"

/-- Name of a project's file. -/
def projectFileName : String := ".omprender.toml"

/-- Read a settings file. -/
def readFile (host : Host) (path : FilePath) : Except SettingsFault Table :=
  match host.read path with
  | .error .notText => .error (.broken .notText)
  | .error fault => .error (.unreadable path fault)
  | .ok text =>
      match Toml.read host.room text with
      | .ok table => .ok table
      | .error .malformed => .error (.malformed path)
      | .error (.tooLong limit) => .error (.broken (.tooLong limit))
      | .error .tooDeep => .error (.broken .tooDeep)

/-- Lay a table over another, if there is room for the nested calls. -/
def mergeWithin (room : Nat) (earlier later : Table) : Except SettingsFault Table :=
  if earlier.mergeCalls later ≤ room then .ok (earlier.merge later)
  else .error (.broken .tooDeep)

/-- Where a project's file may be: at or above a folder, the nearest place first. -/
def projectPlaces (host : Host) (start : FilePath) : List FilePath :=
  (host.absolute start).resolved.ancestors.map (·.child projectFileName)

/-- The project's file: the nearest one at or above a folder. -/
def projectFile? (host : Host) (start : FilePath) : Option FilePath :=
  (projectPlaces host start).find? host.hasFile

/-- What layers are consulted. -/
structure Selection where
  /-- Where the search for the project's file starts. -/
  start : FilePath := {}
  /-- Whether environment variables count. -/
  environment : Bool := true
  /-- Options of the command line, if they count. -/
  overrides : Option Table := none

/-- The layer of the command line. -/
def overrideLayer (overrides : Table) : Layer where
  origin := .commandLine
  isPresent := !overrides.isEmpty
  values := overrides

/-- The layer of the environment variables. -/
def environmentLayer (host : Host) : Layer where
  origin := .environment
  values := ofVariables variableLead host.environment

/-- The layer of a file; one that is not there is empty. -/
def fileLayer (host : Host) (origin : Origin) (path : FilePath) : Except SettingsFault Layer :=
  if host.hasFile path then (readFile host path).map fun values => ⟨origin, path, true, values⟩
  else .ok ⟨origin, path, false, []⟩

/-- The layer of the built-in values. -/
def builtinLayer : Layer where
  origin := .builtin
  values := defaults

/-- Layers laid over one another, the first one on top. -/
def mergeLayers (layers : List Layer) : Table :=
  layers.foldr (fun layer merged => merged.merge layer.values) []

/-- A layer on top of others, if there is room to lay it over them. An empty one is not laid over
anything. -/
def onTop (room : Nat) (layer : Layer) (below : List Layer) : Except SettingsFault (List Layer) :=
  if layer.values.isEmpty ∨ (mergeLayers below).mergeCalls layer.values ≤ room then
    .ok (layer :: below)
  else .error (.broken .tooDeep)

/-- Layers on top of others, one after the other. -/
def stack (room : Nat) : List Layer → List Layer → Except SettingsFault (List Layer)
  | below, [] => .ok below
  | below, layer :: above => do
      let below ← onTop room layer below
      stack room below above

/-- All layers, the one that wins first. The user's file is read and laid over the built-in values
before the project's file is read. -/
def layers (host : Host) (selection : Selection) : Except SettingsFault (List Layer) := do
  let user ← fileLayer host .user host.settingsFile
  let below ← onTop host.room user [builtinLayer]
  let project ← match projectFile? host selection.start with
    | some path => (fileLayer host .project path).map ([·])
    | none => .ok []
  stack host.room below (project ++
    (if selection.environment then [environmentLayer host] else []) ++
    selection.overrides.toList.map overrideLayer)

/-- Settings together with the layers that they come from. -/
structure Loaded where
  /-- The settings. -/
  settings : Settings
  /-- The layers, the one that wins first. -/
  layers : List Layer

/-- Settings of all layers. -/
def load (host : Host) (selection : Selection) : Except SettingsFault Loaded := do
  let layers ← layers host selection
  match strict none (mergeLayers layers) with
  | .ok settings => .ok ⟨settings, layers⟩
  | .error fault => .error (.refused fault)

/-- Settings of one file over the built-in values. -/
def loadFile (host : Host) (path : FilePath) (validate : Bool) : Except SettingsFault Loaded := do
  let values ← readFile host path
  let merged ← mergeWithin host.room defaults values
  let loaded (settings : Settings) : Loaded := ⟨settings, [⟨.project, path, true, values⟩]⟩
  if validate then
    match strict (some path.text) merged with
    | .ok settings => .ok (loaded settings)
    | .error fault => .error (.refused fault)
  else .ok (loaded (lenient merged))

end Settings

end Promptline
