import Promptline.Context.Snapshot
import Promptline.Proofs.Entries
import Promptline.Proofs.Validation.Given

/-!
# The fields of a context, one by one

Every field of a context has a place in the data of a snapshot, a check and a value.  A snapshot
that is accepted gives each field what stands at its place, checked, and leaves the others alone.
-/

namespace Promptline

open Document (Step)

/-! ## The fields -/

namespace Context

/-- Kinds of values that fields have. -/
inductive Kind
  /-- A text. -/
  | text
  /-- A truth value. -/
  | truth
  /-- A number of things. -/
  | count
  /-- A share, in percent. -/
  | share
  /-- A date with a time of day. -/
  | moment
  /-- A text that need not be set. -/
  | setting

/-- The values of a kind. -/
abbrev Kind.Value : Kind → Type
  | text => String
  | truth => Bool
  | count => Int
  | share => Float
  | moment => Moment
  | setting => Option String

/-- The check of what a snapshot gives for a field of a kind. -/
def Kind.check : (kind : Kind) → Document → Checked kind.Value
  | text => .text
  | truth => .truth
  | count => .natural
  | share => .number
  | moment => .moment
  | setting => fun d => (Checked.text d).map some

/-- A field of a context. -/
inductive Field : Kind → Type
  /-- Branch name. -/
  | branch : Field .text
  /-- Whether there is a repository. -/
  | isRepo : Field .truth
  /-- Commits that the remote branch lacks. -/
  | ahead : Field .count
  /-- Commits that the local branch lacks. -/
  | behind : Field .count
  /-- Whether the working tree has changes. -/
  | workingChanged : Field .truth
  /-- Summary of the changes of the working tree. -/
  | workingSummary : Field .text
  /-- Whether changes are staged. -/
  | stagingChanged : Field .truth
  /-- Summary of the changes that are staged. -/
  | stagingSummary : Field .text
  /-- Number of stashes. -/
  | stashCount : Field .count
  /-- Share of memory in use. -/
  | percentUsed : Field .share
  /-- Decimal places to show. -/
  | precision : Field .count
  /-- Bytes of memory. -/
  | totalMemory : Field .count
  /-- Bytes of memory not in use. -/
  | freeMemory : Field .count
  /-- Name of the shell. -/
  | shellName : Field .text
  /-- Current directory. -/
  | currentDir : Field .text
  /-- Home directory. -/
  | homeDir : Field .text
  /-- Clock reading. -/
  | now : Field .moment
  /-- Name of the platform. -/
  | platform : Field .text
  /-- An environment variable. -/
  | env (name : String) : Field .setting

namespace Field

/-- Where the data of a snapshot gives a field. -/
def place {kind : Kind} : Field kind → List Step
  | branch => [.key "Git" "git", .key "Branch" "branch"]
  | isRepo => [.key "Git" "git", .key "IsRepo" "is_repo"]
  | ahead => [.key "Git" "git", .key "Ahead" "ahead"]
  | behind => [.key "Git" "git", .key "Behind" "behind"]
  | workingChanged => [.key "Git" "git", .key "Working" "working", .key "Changed" "changed"]
  | workingSummary => [.key "Git" "git", .key "Working" "working", .key "String" "string"]
  | stagingChanged => [.key "Git" "git", .key "Staging" "staging", .key "Changed" "changed"]
  | stagingSummary => [.key "Git" "git", .key "Staging" "staging", .key "String" "string"]
  | stashCount => [.key "Git" "git", .key "StashCount" "stash_count"]
  | percentUsed => [.key "System" "system", .key "PhysicalPercentUsed" "physical_percent_used"]
  | precision => [.key "System" "system", .key "Precision" "precision"]
  | totalMemory => [.key "System" "system", .key "PhysicalTotalMemory" "physical_total_memory"]
  | freeMemory => [.key "System" "system", .key "PhysicalFreeMemory" "physical_free_memory"]
  | shellName => [.key "Shell" "shell", .key "Name" "name"]
  | currentDir => [.key "Path" "path", .key "CurrentDir" "current_dir"]
  | homeDir => [.key "Path" "path", .key "HomeDir" "home_dir"]
  | now => [.key "Time" "time", .key "Now" "now"]
  | platform => [.key "Os" "os", .key "Platform" "platform"]
  | env name => [.key "Env" "env", .entry name]

/-- The value of a field. -/
def value {kind : Kind} (context : Context) : Field kind → kind.Value
  | branch => context.git.branch
  | isRepo => context.git.isRepo
  | ahead => context.git.ahead
  | behind => context.git.behind
  | workingChanged => context.git.working.changed
  | workingSummary => context.git.working.summary
  | stagingChanged => context.git.staging.changed
  | stagingSummary => context.git.staging.summary
  | stashCount => context.git.stashCount
  | percentUsed => context.system.percentUsed
  | precision => context.system.precision
  | totalMemory => context.system.totalMemory
  | freeMemory => context.system.freeMemory
  | shellName => context.shell.name
  | currentDir => context.folders.currentDir
  | homeDir => context.folders.homeDir
  | now => context.clock.now
  | platform => context.platform.name
  | env name => Entries.get? name context.env.entries

/-- What a checked snapshot gives for a field. -/
def patch? {kind : Kind} (snapshot : Snapshot) : Field kind → Option kind.Value
  | branch => snapshot.git.bind (·.branch)
  | isRepo => snapshot.git.bind (·.isRepo)
  | ahead => snapshot.git.bind (·.ahead)
  | behind => snapshot.git.bind (·.behind)
  | workingChanged => snapshot.git.bind (·.working.bind (·.changed))
  | workingSummary => snapshot.git.bind (·.working.bind (·.summary))
  | stagingChanged => snapshot.git.bind (·.staging.bind (·.changed))
  | stagingSummary => snapshot.git.bind (·.staging.bind (·.summary))
  | stashCount => snapshot.git.bind (·.stashCount)
  | percentUsed => snapshot.system.bind (·.percentUsed)
  | precision => snapshot.system.bind (·.precision)
  | totalMemory => snapshot.system.bind (·.totalMemory)
  | freeMemory => snapshot.system.bind (·.freeMemory)
  | shellName => snapshot.shell.bind id
  | currentDir => snapshot.folders.bind (·.currentDir)
  | homeDir => snapshot.folders.bind (·.homeDir)
  | now => snapshot.clock.bind id
  | platform => snapshot.platform.bind id
  | env name => snapshot.env.bind fun later => (Entries.get? name later.reverse).map some

/-- What the data of a snapshot gives for a field. -/
def given? {kind : Kind} (field : Field kind) (data : Document) : Option Document :=
  data.given? field.place

end Field

/-- A context has no other fields: two that agree on all of them differ at most in the order of
their variables and in what segments have published. -/
theorem eq_of_fields {first second : Context}
    (same : ∀ {kind : Kind} (field : Field kind), field.value first = field.value second) :
    { first with env := second.env, segments := second.segments } = second := by
  obtain ⟨_, ⟨_, _, _, _, ⟨_, _⟩, ⟨_, _⟩, _⟩, ⟨_, _, _, _⟩, ⟨_⟩, ⟨_, _⟩, ⟨_⟩, ⟨_⟩, _⟩ := first
  obtain rfl := same .branch
  obtain rfl := same .isRepo
  obtain rfl := same .ahead
  obtain rfl := same .behind
  obtain rfl := same .workingChanged
  obtain rfl := same .workingSummary
  obtain rfl := same .stagingChanged
  obtain rfl := same .stagingSummary
  obtain rfl := same .stashCount
  obtain rfl := same .percentUsed
  obtain rfl := same .precision
  obtain rfl := same .totalMemory
  obtain rfl := same .freeMemory
  obtain rfl := same .shellName
  obtain rfl := same .currentDir
  obtain rfl := same .homeDir
  obtain rfl := same .now
  obtain rfl := same .platform
  rfl

end Context

/-! ## What a snapshot reads -/

open Checked

/-- A summary of changes has what is given. -/
structure ChangesPatch.ReadFrom (d : Document) (patch : ChangesPatch) : Prop where
  changed : Reads .truth (d.given? [.key "Changed" "changed"]) patch.changed
  summary : Reads .text (d.given? [.key "String" "string"]) patch.summary

/-- Repository state has what is given. -/
structure GitPatch.ReadFrom (d : Document) (patch : GitPatch) : Prop where
  branch : Reads .text (d.given? [.key "Branch" "branch"]) patch.branch
  isRepo : Reads .truth (d.given? [.key "IsRepo" "is_repo"]) patch.isRepo
  ahead : Reads .natural (d.given? [.key "Ahead" "ahead"]) patch.ahead
  behind : Reads .natural (d.given? [.key "Behind" "behind"]) patch.behind
  working : Reads Snapshot.changes (d.given? [.key "Working" "working"]) patch.working
  staging : Reads Snapshot.changes (d.given? [.key "Staging" "staging"]) patch.staging
  stashCount : Reads .natural (d.given? [.key "StashCount" "stash_count"]) patch.stashCount

/-- Memory figures are those that are given. -/
structure SystemPatch.ReadFrom (d : Document) (patch : SystemPatch) : Prop where
  percentUsed :
    Reads .number (d.given? [.key "PhysicalPercentUsed" "physical_percent_used"]) patch.percentUsed
  precision : Reads .natural (d.given? [.key "Precision" "precision"]) patch.precision
  totalMemory :
    Reads .natural (d.given? [.key "PhysicalTotalMemory" "physical_total_memory"]) patch.totalMemory
  freeMemory :
    Reads .natural (d.given? [.key "PhysicalFreeMemory" "physical_free_memory"]) patch.freeMemory

/-- Directories are those that are given. -/
structure FoldersPatch.ReadFrom (d : Document) (patch : FoldersPatch) : Prop where
  currentDir : Reads .text (d.given? [.key "CurrentDir" "current_dir"]) patch.currentDir
  homeDir : Reads .text (d.given? [.key "HomeDir" "home_dir"]) patch.homeDir

namespace Snapshot

/-- A snapshot has the sections that are given. -/
structure ReadFrom (d : Document) (snapshot : Snapshot) : Prop where
  env : Reads envPart (d.given? [.key "Env" "env"]) snapshot.env
  git : Reads gitPart (d.given? [.key "Git" "git"]) snapshot.git
  system : Reads systemPart (d.given? [.key "System" "system"]) snapshot.system
  shell : Reads shellPart (d.given? [.key "Shell" "shell"]) snapshot.shell
  folders : Reads foldersPart (d.given? [.key "Path" "path"]) snapshot.folders
  clock : Reads clockPart (d.given? [.key "Time" "time"]) snapshot.clock
  platform : Reads platformPart (d.given? [.key "Os" "os"]) snapshot.platform

theorem changes_eq_valid_iff {d : Document} {patch : ChangesPatch} :
    changes d = valid patch ↔
      (∃ entries, d.textEntries? = some entries) ∧ patch.ReadFrom d := by
  refine part_eq_valid_iff fun entries table => ?_
  simp only [yields_seq_iff, yields_map_iff, yields_field_iff table]
  constructor
  · rintro ⟨changed, readChanged, summary, readSummary, rfl⟩
    exact ⟨readChanged, readSummary⟩
  · intro read
    exact ⟨_, read.changed, _, read.summary, rfl⟩

theorem gitPart_eq_valid_iff {d : Document} {patch : GitPatch} :
    gitPart d = valid patch ↔
      (∃ entries, d.textEntries? = some entries) ∧ patch.ReadFrom d := by
  refine part_eq_valid_iff fun entries table => ?_
  simp only [yields_seq_iff, yields_map_iff, yields_field_iff table]
  constructor
  · rintro ⟨branch, readBranch, isRepo, readIsRepo, ahead, readAhead, behind, readBehind,
      working, readWorking, staging, readStaging, stashCount, readStashCount, rfl⟩
    exact ⟨readBranch, readIsRepo, readAhead, readBehind, readWorking, readStaging, readStashCount⟩
  · intro read
    exact ⟨_, read.branch, _, read.isRepo, _, read.ahead, _, read.behind, _, read.working,
      _, read.staging, _, read.stashCount, rfl⟩

theorem systemPart_eq_valid_iff {d : Document} {patch : SystemPatch} :
    systemPart d = valid patch ↔
      (∃ entries, d.textEntries? = some entries) ∧ patch.ReadFrom d := by
  refine part_eq_valid_iff fun entries table => ?_
  simp only [yields_seq_iff, yields_map_iff, yields_field_iff table]
  constructor
  · rintro ⟨percentUsed, readPercentUsed, precision, readPrecision, totalMemory, readTotalMemory,
      freeMemory, readFreeMemory, rfl⟩
    exact ⟨readPercentUsed, readPrecision, readTotalMemory, readFreeMemory⟩
  · intro read
    exact ⟨_, read.percentUsed, _, read.precision, _, read.totalMemory, _, read.freeMemory, rfl⟩

theorem foldersPart_eq_valid_iff {d : Document} {patch : FoldersPatch} :
    foldersPart d = valid patch ↔
      (∃ entries, d.textEntries? = some entries) ∧ patch.ReadFrom d := by
  refine part_eq_valid_iff fun entries table => ?_
  simp only [yields_seq_iff, yields_map_iff, yields_field_iff table]
  constructor
  · rintro ⟨currentDir, readCurrentDir, homeDir, readHomeDir, rfl⟩
    exact ⟨readCurrentDir, readHomeDir⟩
  · intro read
    exact ⟨_, read.currentDir, _, read.homeDir, rfl⟩

theorem read_eq_valid_iff {d : Document} {snapshot : Snapshot} :
    read d = valid snapshot ↔
      (∃ entries, d.textEntries? = some entries) ∧ snapshot.ReadFrom d := by
  refine part_eq_valid_iff fun entries table => ?_
  simp only [yields_seq_iff, yields_map_iff, yields_field_iff table]
  constructor
  · rintro ⟨env, readEnv, git, readGit, system, readSystem, shell, readShell,
      folders, readFolders, clock, readClock, platform, readPlatform, rfl⟩
    exact ⟨readEnv, readGit, readSystem, readShell, readFolders, readClock, readPlatform⟩
  · intro read
    exact ⟨_, read.env, _, read.git, _, read.system, _, read.shell, _, read.folders,
      _, read.clock, _, read.platform, rfl⟩

/-- An environment variable has the name and the text that an entry gives. -/
def ReadAs (entry : String × Document) (setting : String × String) : Prop :=
  entry.1 = setting.1 ∧ text entry.2 = valid setting.2

/-- Environment variables are accepted only as texts under names, and kept in order. -/
theorem exists_named_of_envPart {d : Document} {settings : Entries String}
    (accepted : envPart d = valid settings) :
    ∃ entries, d.namedEntries? = some entries ∧ List.Forall₂ ReadAs entries settings := by
  unfold envPart at accepted
  split at accepted
  · next entries =>
      refine ⟨entries, rfl, forall₂_of_all (fun _ entry setting valid => ?_) accepted⟩
      obtain ⟨s, held, rfl⟩ := map_eq_valid_iff.mp valid
      exact ⟨rfl, within_eq_valid_iff.mp held⟩
  · next entries =>
      refine ⟨_, rfl, ?_⟩
      have read : List.Forall₂ (fun entry setting => entry.1.text? = some setting.1 ∧
          text entry.2 = valid setting.2) entries settings := by
        refine forall₂_of_all (fun _ entry setting valid => ?_) accepted
        rw [← yields_eq_iff] at valid
        simp only [yields_seq_iff, yields_map_iff] at valid
        obtain ⟨name, key, s, held, rfl⟩ := valid
        have named := within_eq_valid_iff.mp (within_eq_valid_iff.mp key)
        exact ⟨text_eq_valid_iff.mp named, within_eq_valid_iff.mp held⟩
      clear accepted
      induction read with
      | nil => exact .nil
      | cons here _ ih =>
          rw [List.filterMap_cons_some (by rw [here.1]; rfl)]
          exact .cons ⟨rfl, here.2⟩ ih
  · contradiction

/-- A variable has the text that is given for it. -/
theorem reads_variable_of_envPart {d : Document} {settings : Entries String}
    (accepted : envPart d = valid settings) (name : String) :
    Reads (fun d => (text d).map some) (d.given? [.entry name])
      ((Entries.get? name settings.reverse).map some) := by
  obtain ⟨entries, names, read⟩ := exists_named_of_envPart accepted
  rw [Document.given?_entry names]
  have reversed := List.forall₂_reverse_iff.mpr read
  generalize entries.reverse = entries, settings.reverse = settings at reversed ⊢
  induction reversed with
  | nil => exact .none
  | @cons entry setting _ _ here _ ih =>
      rw [Entries.get?, Entries.get?, here.1]
      split
      · have nonnull : entry.2 ≠ .null := by
          intro null
          have refused := here.2
          rw [null] at refused
          cases refused
        rw [Option.bind_some, Document.given?_nil_of_ne_null nonnull]
        exact .some (map_eq_valid_iff.mpr ⟨_, here.2, rfl⟩)
      · exact ih

/-- Every field of an accepted snapshot has what is given for it, checked. -/
theorem reads_field {data : Document} {snapshot : Snapshot} (accepted : read data = valid snapshot)
    {kind : Context.Kind} (field : Context.Field kind) :
    Reads kind.check (field.given? data) (field.patch? snapshot) := by
  have whole := (read_eq_valid_iff.mp accepted).2
  cases field with
  | branch => exact whole.git.inside fun _ _ part => (gitPart_eq_valid_iff.mp part).2.branch
  | isRepo => exact whole.git.inside fun _ _ part => (gitPart_eq_valid_iff.mp part).2.isRepo
  | ahead => exact whole.git.inside fun _ _ part => (gitPart_eq_valid_iff.mp part).2.ahead
  | behind => exact whole.git.inside fun _ _ part => (gitPart_eq_valid_iff.mp part).2.behind
  | workingChanged =>
      exact whole.git.inside fun _ _ part => (gitPart_eq_valid_iff.mp part).2.working.inside
        fun _ _ changes => (changes_eq_valid_iff.mp changes).2.changed
  | workingSummary =>
      exact whole.git.inside fun _ _ part => (gitPart_eq_valid_iff.mp part).2.working.inside
        fun _ _ changes => (changes_eq_valid_iff.mp changes).2.summary
  | stagingChanged =>
      exact whole.git.inside fun _ _ part => (gitPart_eq_valid_iff.mp part).2.staging.inside
        fun _ _ changes => (changes_eq_valid_iff.mp changes).2.changed
  | stagingSummary =>
      exact whole.git.inside fun _ _ part => (gitPart_eq_valid_iff.mp part).2.staging.inside
        fun _ _ changes => (changes_eq_valid_iff.mp changes).2.summary
  | stashCount => exact whole.git.inside fun _ _ part => (gitPart_eq_valid_iff.mp part).2.stashCount
  | percentUsed =>
      exact whole.system.inside fun _ _ part => (systemPart_eq_valid_iff.mp part).2.percentUsed
  | precision =>
      exact whole.system.inside fun _ _ part => (systemPart_eq_valid_iff.mp part).2.precision
  | totalMemory =>
      exact whole.system.inside fun _ _ part => (systemPart_eq_valid_iff.mp part).2.totalMemory
  | freeMemory =>
      exact whole.system.inside fun _ _ part => (systemPart_eq_valid_iff.mp part).2.freeMemory
  | shellName => exact whole.shell.inside fun _ _ part => (part_field_eq_valid_iff.mp part).2
  | currentDir =>
      exact whole.folders.inside fun _ _ part => (foldersPart_eq_valid_iff.mp part).2.currentDir
  | homeDir =>
      exact whole.folders.inside fun _ _ part => (foldersPart_eq_valid_iff.mp part).2.homeDir
  | now => exact whole.clock.inside fun _ _ part => (part_field_eq_valid_iff.mp part).2
  | platform => exact whole.platform.inside fun _ _ part => (part_field_eq_valid_iff.mp part).2
  | env name => exact whole.env.inside fun _ _ part => reads_variable_of_envPart part name

/-! ## What a snapshot changes -/

/-- A context with everything that a snapshot gives. -/
def laidOver (snapshot : Snapshot) (base : Context) : Context where
  env := base.env.overlay (snapshot.env.getD [])
  git := (snapshot.git.getD {}).apply base.git
  system := (snapshot.system.getD {}).apply base.system
  shell := ⟨(snapshot.shell.getD none).getD base.shell.name⟩
  folders := (snapshot.folders.getD {}).apply base.folders
  clock := ⟨(snapshot.clock.getD none).getD base.clock.now⟩
  platform := ⟨(snapshot.platform.getD none).getD base.platform.name⟩
  segments := base.segments

theorem system_laidOver {snapshot : Snapshot} (absent : snapshot.system = none) (base : Context) :
    (snapshot.laidOver base).system = base.system := by
  simp [laidOver, absent, SystemPatch.apply]

/-- Memory figures that are given have to be balanced with those that stay. -/
theorem apply_eq (snapshot : Snapshot) (base : Context) :
    snapshot.apply base =
      if snapshot.system = none ∨ (snapshot.laidOver base).system.Balanced then
        .ok (snapshot.laidOver base)
      else .error ⟨(snapshot.laidOver base).system.freeMemory,
        (snapshot.laidOver base).system.totalMemory⟩ := by
  unfold apply
  cases given : snapshot.system with
  | none => simp [laidOver, given, SystemPatch.apply, bind, Except.bind]
  | some patch =>
      by_cases balanced : (patch.apply base.system).Balanced
      · simp [laidOver, given, System.check, balanced, bind, Except.bind]
      · simp [laidOver, given, System.check, balanced, bind, Except.bind]

end Snapshot

namespace Entries

variable {α : Type}

/-- Of the values entered under a name the last one stays. -/
theorem get?_overlay (name : String) (earlier later : Entries α) :
    get? name (overlay earlier later) = (get? name later.reverse).or (get? name earlier) := by
  induction later generalizing earlier with
  | nil => rfl
  | cons entry later ih =>
      have step : overlay earlier (entry :: later) =
          overlay (insert entry.1 entry.2 earlier) later := rfl
      rw [step, ih, List.reverse_cons, get?_append, Option.or_assoc]
      by_cases same : entry.1 = name
      · simp [get?, same]
      · simp [get?, same, get?_insert_of_ne _ _ (Ne.symm same)]

end Entries

namespace Context

/-- Laying a snapshot over a context replaces the given fields. -/
theorem Field.value_laidOver {kind : Kind} (field : Field kind) (snapshot : Snapshot)
    (base : Context) :
    field.value (snapshot.laidOver base) = (field.patch? snapshot).getD (field.value base) := by
  obtain ⟨env, git, system, shell, folders, clock, platform⟩ := snapshot
  cases field with
  | branch | isRepo | ahead | behind | workingChanged | workingSummary | stagingChanged
  | stagingSummary | stashCount =>
      obtain _ | ⟨_, _, _, _, _ | _, _ | _, _⟩ := git <;> rfl
  | percentUsed | precision | totalMemory | freeMemory => cases system <;> rfl
  | shellName => cases shell <;> rfl
  | currentDir | homeDir => cases folders <;> rfl
  | now => cases clock <;> rfl
  | platform => cases platform <;> rfl
  | env name =>
      cases env with
      | none => rfl
      | some later =>
          have entered := Entries.get?_overlay name base.env.entries later
          simp only [value, patch?, Snapshot.laidOver, Environment.overlay, Option.getD_some,
            Option.bind_some, entered]
          cases Entries.get? name later.reverse <;> rfl

theorem merge_of_valid {data : Document} {snapshot : Snapshot}
    (read : Snapshot.read data = valid snapshot) (base : Context) :
    base.merge data =
      if snapshot.system = none ∨ (snapshot.laidOver base).system.Balanced then
        .ok (snapshot.laidOver base)
      else .error (.memory ⟨(snapshot.laidOver base).system.freeMemory,
        (snapshot.laidOver base).system.totalMemory⟩) := by
  rw [merge, read]
  simp only [Snapshot.apply_eq]
  by_cases fits : snapshot.system = none ∨ (snapshot.laidOver base).system.Balanced
  · simp only [if_pos fits]
  · simp only [if_neg fits]

theorem merge_eq_ok_iff {base context : Context} {data : Document} :
    base.merge data = .ok context ↔
      ∃ snapshot, Snapshot.read data = valid snapshot ∧
        (snapshot.system = none ∨ (snapshot.laidOver base).system.Balanced) ∧
        snapshot.laidOver base = context := by
  cases read : Snapshot.read data with
  | invalid problems => simp [merge, read]
  | valid snapshot =>
      rw [merge_of_valid read]
      split
      · next fits => simp [fits]
      · next fits => simp [fits]

/-- A snapshot that is accepted gives a field what stands at its place, checked, if anything does,
and leaves it alone otherwise. -/
theorem Field.value_merge {base context : Context} {data : Document}
    (accepted : base.merge data = .ok context) {kind : Kind} (field : Field kind) :
    ∃ patch, Reads kind.check (field.given? data) patch ∧
      field.value context = patch.getD (field.value base) := by
  obtain ⟨snapshot, read, -, rfl⟩ := merge_eq_ok_iff.mp accepted
  exact ⟨_, Snapshot.reads_field read field, field.value_laidOver snapshot base⟩

theorem segments_merge {base context : Context} {data : Document}
    (accepted : base.merge data = .ok context) : context.segments = base.segments := by
  obtain ⟨snapshot, -, -, rfl⟩ := merge_eq_ok_iff.mp accepted
  rfl

end Context

end Promptline
