import Promptline.Context
import Promptline.Validation.Scalar

/-!
# Context snapshots

A snapshot gives some fields of the context; the others keep the values they have. Fields go by
the names that templates use, or by the same names in lower case with underscores.
-/

namespace Promptline

open Checked (field optional part)

/-- Given fields of a summary of changes. -/
structure ChangesPatch where
  /-- Whether anything changed. -/
  changed : Option Bool := none
  /-- Text of the summary. -/
  summary : Option String := none
  deriving DecidableEq

/-- Given fields of the repository state. -/
structure GitPatch where
  /-- Branch name. -/
  branch : Option String := none
  /-- Whether there is a repository. -/
  isRepo : Option Bool := none
  /-- Commits that the remote branch lacks. -/
  ahead : Option Int := none
  /-- Commits that the local branch lacks. -/
  behind : Option Int := none
  /-- Changes of the working tree. -/
  working : Option ChangesPatch := none
  /-- Changes that are staged. -/
  staging : Option ChangesPatch := none
  /-- Number of stashes. -/
  stashCount : Option Int := none
  deriving DecidableEq

/-- Given memory figures. -/
structure SystemPatch where
  /-- Share of memory in use, in percent. -/
  percentUsed : Option Float := none
  /-- Decimal places to show. -/
  precision : Option Int := none
  /-- Bytes of memory. -/
  totalMemory : Option Int := none
  /-- Bytes of memory not in use. -/
  freeMemory : Option Int := none

/-- Given directories. -/
structure FoldersPatch where
  /-- Current directory. -/
  currentDir : Option String := none
  /-- Home directory. -/
  homeDir : Option String := none
  deriving DecidableEq

/-- The given fields of a context. -/
structure Snapshot where
  /-- Environment variables. -/
  env : Option (Entries String) := none
  /-- Repository state. -/
  git : Option GitPatch := none
  /-- Memory figures. -/
  system : Option SystemPatch := none
  /-- Name of the shell. -/
  shell : Option (Option String) := none
  /-- Directories. -/
  folders : Option FoldersPatch := none
  /-- Clock reading. -/
  clock : Option (Option Moment) := none
  /-- Name of the platform. -/
  platform : Option (Option String) := none

namespace Snapshot

/-- Check a summary of changes. -/
def changes : Document → Checked ChangesPatch :=
  part "GitChangesSnapshot" fun entries =>
    ChangesPatch.mk
      <$> field ["Changed", "changed"] none (optional .truth) entries
      <*> field ["String", "string"] none (optional .text) entries

/-- Check repository state. -/
def gitPart : Document → Checked GitPatch :=
  part "GitSnapshot" fun entries =>
    GitPatch.mk
      <$> field ["Branch", "branch"] none (optional .text) entries
      <*> field ["IsRepo", "is_repo"] none (optional .truth) entries
      <*> field ["Ahead", "ahead"] none (optional .natural) entries
      <*> field ["Behind", "behind"] none (optional .natural) entries
      <*> field ["Working", "working"] none (optional changes) entries
      <*> field ["Staging", "staging"] none (optional changes) entries
      <*> field ["StashCount", "stash_count"] none (optional .natural) entries

/-- Check memory figures. -/
def systemPart : Document → Checked SystemPatch :=
  part "SystemSnapshot" fun entries =>
    SystemPatch.mk
      <$> field ["PhysicalPercentUsed", "physical_percent_used"] none (optional .number) entries
      <*> field ["Precision", "precision"] none (optional .natural) entries
      <*> field ["PhysicalTotalMemory", "physical_total_memory"] none (optional .natural) entries
      <*> field ["PhysicalFreeMemory", "physical_free_memory"] none (optional .natural) entries

/-- Check the name of the shell. -/
def shellPart : Document → Checked (Option String) :=
  part "ShellSnapshot" (field ["Name", "name"] none (optional .text))

/-- Check directories. -/
def foldersPart : Document → Checked FoldersPatch :=
  part "PathSnapshot" fun entries =>
    FoldersPatch.mk
      <$> field ["CurrentDir", "current_dir"] none (optional .text) entries
      <*> field ["HomeDir", "home_dir"] none (optional .text) entries

/-- Check a clock reading. -/
def clockPart : Document → Checked (Option Moment) :=
  part "TimeSnapshot" (field ["Now", "now"] none (optional .moment))

/-- Check the name of the platform. -/
def platformPart : Document → Checked (Option String) :=
  part "OsSnapshot" (field ["Platform", "platform"] none (optional .text))

/-- Check environment variables: texts under names. -/
def envPart (d : Document) : Checked (Entries String) :=
  match d with
  | .table entries =>
      Checked.all (fun _ (entry : String × Document) =>
        ((Checked.text entry.2).within entry.1).map (entry.1, ·)) 0 entries
  | .mapping entries =>
      Checked.all (fun _ (entry : Document × Document) =>
        let place := entry.1.keyText.getD ""
        Prod.mk <$> ((Checked.text entry.1).within "[key]").within place
          <*> (Checked.text entry.2).within place) 0 entries
  | _ => .fail "Input should be a valid dictionary" d

/-- Check a snapshot; unknown keys are ignored. -/
def read : Document → Checked Snapshot :=
  part "ContextSnapshot" fun entries =>
    Snapshot.mk
      <$> field ["Env", "env"] none (optional envPart) entries
      <*> field ["Git", "git"] none (optional gitPart) entries
      <*> field ["System", "system"] none (optional systemPart) entries
      <*> field ["Shell", "shell"] none (optional shellPart) entries
      <*> field ["Path", "path"] none (optional foldersPart) entries
      <*> field ["Time", "time"] none (optional clockPart) entries
      <*> field ["Os", "os"] none (optional platformPart) entries

end Snapshot

namespace ChangesPatch

/-- Replace the given fields. -/
def apply (patch : ChangesPatch) (base : Changes) : Changes where
  changed := patch.changed.getD base.changed
  summary := patch.summary.getD base.summary

end ChangesPatch

namespace GitPatch

/-- Replace the given fields. -/
def apply (patch : GitPatch) (base : Git) : Git where
  branch := patch.branch.getD base.branch
  isRepo := patch.isRepo.getD base.isRepo
  ahead := patch.ahead.getD base.ahead
  behind := patch.behind.getD base.behind
  working := (patch.working.getD {}).apply base.working
  staging := (patch.staging.getD {}).apply base.staging
  stashCount := patch.stashCount.getD base.stashCount

end GitPatch

namespace SystemPatch

/-- Replace the given figures. -/
def apply (patch : SystemPatch) (base : System) : System where
  percentUsed := patch.percentUsed.getD base.percentUsed
  precision := patch.precision.getD base.precision
  totalMemory := patch.totalMemory.getD base.totalMemory
  freeMemory := patch.freeMemory.getD base.freeMemory

end SystemPatch

namespace FoldersPatch

/-- Replace the given directories. -/
def apply (patch : FoldersPatch) (base : Folders) : Folders where
  currentDir := patch.currentDir.getD base.currentDir
  homeDir := patch.homeDir.getD base.homeDir

end FoldersPatch

namespace Snapshot

/-- Lay a snapshot over a context. The merged memory figures have to be balanced. -/
def apply (snapshot : Snapshot) (base : Context) : Except MemoryFault Context := do
  let system ← match snapshot.system with
    | some patch => (patch.apply base.system).check
    | none => .ok base.system
  .ok {
    env := base.env.overlay (snapshot.env.getD [])
    git := (snapshot.git.getD {}).apply base.git
    system := system
    shell := ⟨(snapshot.shell.getD none).getD base.shell.name⟩
    folders := (snapshot.folders.getD {}).apply base.folders
    clock := ⟨(snapshot.clock.getD none).getD base.clock.now⟩
    platform := ⟨(snapshot.platform.getD none).getD base.platform.name⟩
    segments := base.segments }

end Snapshot

/-- Why a snapshot is refused. -/
inductive SnapshotFault
  /-- Some fields have unacceptable values. -/
  | invalid (problems : List Problem)
  /-- The merged memory figures contradict each other. -/
  | memory (fault : MemoryFault)

/-- Count of problems with a noun, for a model. -/
def validationSummary (count : Nat) (model : String) : String :=
  toString count ++ (if count = 1 then " validation error for " else " validation errors for ") ++
    model

namespace SnapshotFault

/-- Text of the refusal. -/
def message : SnapshotFault → String
  | invalid problems =>
      "Invalid context snapshot: " ++ validationSummary problems.length "ContextSnapshot"
  | memory fault => "Invalid context snapshot: " ++ fault.message

/-- The problems of the fields. -/
def problems : SnapshotFault → List Problem
  | invalid problems => problems
  | memory _ => []

end SnapshotFault

namespace Context

/-- Lay the data of a snapshot over a context. -/
def merge (base : Context) (data : Document) : Except SnapshotFault Context :=
  match Snapshot.read data with
  | .invalid problems => .error (.invalid problems)
  | .valid snapshot =>
      match snapshot.apply base with
      | .ok context => .ok context
      | .error fault => .error (.memory fault)

end Context

end Promptline
