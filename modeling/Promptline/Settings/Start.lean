import Promptline.Settings.Layers

/-!
# Settings of a run

A run starts with the settings that can be loaded. Settings that are broken or unacceptable are
reported and replaced by the built-in ones, unless the host asks for strictness.
-/

namespace Promptline.Settings

/-- How a run starts. -/
inductive Start
  /-- With settings, and with the reason why they are the built-in ones if something failed. -/
  | ready (settings : Settings) (warning : Option String)
  /-- Not at all, for a reason that is reported. -/
  | refused (reason : String)
  /-- Not at all, for a reason that nothing handles. -/
  | broken (breakdown : Breakdown)

/-- Whether problems with the settings end the run. -/
def isStrict (host : Host) : Bool :=
  host.get? "OMPRENDER_STRICT_CONFIG" == some "1"

/-- What happens after loading. -/
def Start.ofLoaded (strict : Bool) : Except SettingsFault Loaded → Start
  | .ok loaded => .ready loaded.settings none
  | .error (.broken breakdown) => .broken breakdown
  | .error fault =>
      let reason := "Failed to load config: " ++ fault.message
      if strict then .refused reason else .ready standard (some reason)

/-- Start a run: with the settings of a given file, which has to exist, or with those of all
layers. -/
def start (host : Host) (path : Option FilePath) (selection : Selection) : Start :=
  match path with
  | some path =>
      if host.hasPath path then .ofLoaded (isStrict host) (loadFile host path true)
      else .refused ("Config file not found: " ++ path.text)
  | none => .ofLoaded (isStrict host) (load host selection)

/-- What is printed about the start: a warning or an error. -/
def Start.report : Start → List String
  | .ready _ none => []
  | .ready _ (some reason) => ["Warning: " ++ reason]
  | .refused reason => ["Error: " ++ reason]
  | .broken _ => []

end Promptline.Settings
