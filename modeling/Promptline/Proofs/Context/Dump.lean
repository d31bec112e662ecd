import Promptline.Proofs.Context.Consistency
import Promptline.Proofs.Context.Layering
import Promptline.Proofs.Entries
import Promptline.Proofs.Repository.Evaluation

/-!
# Reading back what a context shows

The data of a context, without the clock, is a snapshot.  Laid over the stand-in context it gives
back what templates see: the same data, and the same values at the end of every path.
-/

namespace Promptline

namespace Context

theorem env_extends_of_layers {now : Moment} {context : Context} {layers : List Document}
    (accepted : layers.foldlM merge (sample now) = .ok context) :
    Entries.Extends sampleEnvironment.entries context.env.entries := by
  have start : Entries.Extends sampleEnvironment.entries sampleEnvironment.entries :=
    ⟨List.prefix_refl _, by decide⟩
  refine holds_after_layers
    (fun context => Entries.Extends sampleEnvironment.entries context.env.entries)
    (fun merged grown => ?_) accepted start
  obtain ⟨snapshot, -, -, rfl⟩ := merge_eq_ok_iff.mp merged
  exact grown.overlay (snapshot.env.getD [])

end Context

/-! ## Reading back what records show -/

namespace Snapshot

open Checked

/-- Variables are read back as they are shown. -/
theorem envPart_variables (settings : Entries String) :
    envPart (.table (Entries.mapValues .string settings)) = valid settings := by
  unfold envPart
  generalize 0 = start
  induction settings generalizing start with
  | nil => rfl
  | cons entry rest ih =>
      simp only [Entries.mapValues, List.map_cons, all] at ih ⊢
      rw [ih]
      rfl

theorem changes_toDocument (changes : Changes) :
    Snapshot.changes changes.toDocument = valid ⟨changes.changed, changes.summary⟩ :=
  changes_eq_valid_iff.mpr ⟨⟨_, rfl⟩, .some rfl, .some rfl⟩

end Snapshot

namespace Document

/-- A table without the values of a key. -/
def without (key : String) : Document → Document
  | table entries => table (entries.filter fun entry => entry.1 != key)
  | d => d

end Document

namespace Context

open Checked Snapshot

/-- As data a context consists of its sections; the clock can be left out. -/
theorem toDocument_without_time (context : Context) :
    context.toDocument.without "Time" = .table [
      ("Env", .table (Entries.mapValues .string context.env.entries)),
      ("Git", (Record.git context.git).toDocument),
      ("System", (Record.system context.system).toDocument),
      ("Shell", (Record.shell context.shell).toDocument),
      ("Path", (Record.folders context.folders).toDocument),
      ("Os", (Record.platform context.platform).toDocument),
      ("Segments", context.segmentsValue.toDocument)] := rfl

theorem Consistent.seen {context : Context} (consistent : context.Consistent) :
    context.seen.Consistent where
  balanced := consistent.balanced
  nonneg field := by
    have kept := consistent.nonneg field
    have zero : context.git.isRepo = true ∨ context.git.visible = Git.absent := by
      cases inside : context.git.isRepo with
      | true => exact .inl rfl
      | false => exact .inr (Git.visible_of_isRepo_eq_false inside)
    cases field with
    | ahead | behind | stashCount =>
        rcases zero with inside | absent
        · simpa [Context.seen, Field.value, Git.visible, inside] using kept
        · simp [Context.seen, Field.value, absent, Git.absent]
    | precision | totalMemory | freeMemory => exact kept

/-- Everything that templates see of a context but the clock, as a snapshot. -/
def shown (context : Context) : Snapshot where
  env := some context.env.entries
  git := some {
    branch := some context.git.visible.branch
    isRepo := some context.git.visible.isRepo
    ahead := some context.git.visible.ahead
    behind := some context.git.visible.behind
    working := some ⟨context.git.visible.working.changed, context.git.visible.working.summary⟩
    staging := some ⟨context.git.visible.staging.changed, context.git.visible.staging.summary⟩
    stashCount := some context.git.visible.stashCount }
  system := some {
    percentUsed := some context.system.percentUsed
    precision := some context.system.precision
    totalMemory := some context.system.totalMemory
    freeMemory := some context.system.freeMemory }
  shell := some (some context.shell.name)
  folders := some ⟨context.folders.currentDir, context.folders.homeDir⟩
  platform := some (some context.platform.name)

/-- The data of a context is accepted as a snapshot of what it shows. -/
theorem read_toDocument {context : Context} (consistent : context.Consistent) :
    Snapshot.read (context.toDocument.without "Time") = valid context.shown := by
  have count (field : Field .count) :
      natural (.int (field.value context.seen)) = valid (field.value context.seen) :=
    natural_of_nonneg (consistent.seen.nonneg field)
  rw [toDocument_without_time, read_eq_valid_iff]
  refine ⟨⟨_, rfl⟩, .some (envPart_variables _), .some ?git, .some ?system, .some ?shell,
    .some ?folders, .none, .some ?platform⟩
  case git =>
    exact gitPart_eq_valid_iff.mpr ⟨⟨_, rfl⟩, .some rfl, .some rfl, .some (count .ahead),
      .some (count .behind), .some (changes_toDocument _), .some (changes_toDocument _),
      .some (count .stashCount)⟩
  case system =>
    exact systemPart_eq_valid_iff.mpr ⟨⟨_, rfl⟩, .some rfl, .some (count .precision),
      .some (count .totalMemory), .some (count .freeMemory)⟩
  case shell => exact part_field_eq_valid_iff.mpr ⟨⟨_, rfl⟩, .some rfl⟩
  case folders => exact foldersPart_eq_valid_iff.mpr ⟨⟨_, rfl⟩, .some rfl, .some rfl⟩
  case platform => exact part_field_eq_valid_iff.mpr ⟨⟨_, rfl⟩, .some rfl⟩

/-- What is read back into the stand-in context: all that templates see, but its own clock. -/
def copyAt (later : Moment) (context : Context) : Context :=
  { context.seen with clock := ⟨later⟩ }

theorem laidOver_shown {context : Context} {later : Moment}
    (grown : Entries.Extends sampleEnvironment.entries context.env.entries)
    (unpublished : context.segments = []) :
    context.shown.laidOver (sample later) = context.copyAt later := by
  have env : sampleEnvironment.overlay context.env.entries = context.env :=
    congrArg Environment.mk grown.overlay_eq
  simp only [Snapshot.laidOver, shown, sample, Option.getD_some, Option.getD_none, env,
    copyAt, Context.seen, unpublished]
  rfl

theorem merge_toDocument {now : Moment} {context : Context} {layers : List Document}
    (accepted : layers.foldlM merge (sample now) = .ok context) (later : Moment) :
    (sample later).merge (context.toDocument.without "Time") = .ok (context.copyAt later) := by
  have consistent : context.Consistent :=
    holds_after_layers Consistent (fun merged holds => holds.merge merged) accepted
      (consistent_sample now)
  have same : context.shown.laidOver (sample later) = context.copyAt later :=
    laidOver_shown (env_extends_of_layers accepted) (segments_layers accepted)
  rw [merge_eq_ok_iff]
  exact ⟨_, read_toDocument consistent, .inr (same ▸ consistent.balanced), same⟩

theorem toDocument_copyAt (later : Moment) (context : Context) :
    (context.copyAt later).toDocument.without "Time" = context.toDocument.without "Time" := by
  rw [← toDocument_seen context, toDocument_without_time, toDocument_without_time]
  rfl

end Context

/-! ## Paths that do not lead into the clock -/

namespace Value

/-- No name leads from the value back to the context. -/
def Settled : Value → Prop
  | root => False
  | map entries => entries = []
  | _ => True

/-- No value, a truth value, a number or a text. -/
def IsScalar : Value → Prop
  | nil | bool _ | int _ | float _ | string _ => True
  | _ => False

theorem eq_of_seen_eq {first second : Value} (alike : first.seen = second.seen)
    (scalar : second.IsScalar) : first = second := by
  obtain rfl | ⟨git, other, rfl, rfl, -⟩ := eq_or_git_of_seen_eq alike
  · rfl
  · exact scalar.elim

end Value

theorem Entries.settled_getD {entries : Entries Value}
    (settled : ∀ entry ∈ entries, entry.2.Settled) (name : String) :
    ((Entries.get? name entries).getD .missing).Settled := by
  cases found : Entries.get? name entries with
  | none => trivial
  | some value => exact settled _ (Entries.mem_of_get? found)

theorem Record.settled_fields (r : Record) : ∀ entry ∈ r.fields, entry.2.Settled := by
  cases r <;> simp [Record.fields, Git.fields, System.fields, Value.Settled]

namespace Context

theorem settled_lookup {context : Context} (unpublished : context.segments = []) (name : String) :
    (context.lookup name).Settled := by
  refine Entries.settled_getD (fun entry member => ?_) name
  obtain own | promoted := List.mem_append.mp member
  · have sections : ∀ entry ∈ context.fields, entry.2.Settled := by
      simp [fields, segmentsValue, unpublished, Entries.mapValues, Value.Settled]
    exact sections entry own
  · simp only [Context.promoted, List.mem_append] at promoted
    obtain ((system | git) | shell) | folders := promoted
    · exact Record.settled_fields (.system context.system) entry system
    · exact Record.settled_fields (.git context.git) entry git
    · exact Record.settled_fields (.shell context.shell) entry shell
    · exact Record.settled_fields (.folders context.folders) entry folders

theorem lookup_with_clock (context : Context) (clock : Clock) {name : String}
    (elsewhere : name ≠ "Time") :
    { context with clock := clock }.lookup name = context.lookup name := by
  have same : Entries.get? name { context with clock := clock }.fields =
      Entries.get? name context.fields := by
    simp only [fields, Entries.get?, if_neg (Ne.symm elsewhere)]
    rfl
  rw [lookup, lookup, Entries.get?_append, Entries.get?_append, same]
  rfl

end Context

namespace Scope

/-- From a settled value a name leads to a settled value, whatever the scope. -/
theorem member_of_settled (first second : Scope) {value : Value} (settled : value.Settled)
    (name : String) :
    first.member value name = second.member value name ∧ (first.member value name).Settled := by
  cases value with
  | root => exact settled.elim
  | record r => exact ⟨rfl, Entries.settled_getD r.settled_fields name⟩
  | map entries =>
      obtain rfl : entries = [] := settled
      exact ⟨rfl, trivial⟩
  | _ => exact ⟨rfl, trivial⟩

theorem walk_of_settled (first second : Scope) {value : Value} (settled : value.Settled)
    (names : List String) : first.walk value names = second.walk value names := by
  induction names generalizing value with
  | nil => rfl
  | cons name names ih =>
      obtain ⟨same, next⟩ := member_of_settled first second settled name
      by_cases nowhere : first.member value name = .missing
      · rw [walk_of_missing nowhere, walk_of_missing (same ▸ nowhere)]
      · rw [walk_of_found nowhere, walk_of_found (same ▸ nowhere), ← same, ih next]

/-- The clock decides only on paths that lead into it. -/
theorem walk_root_with_clock {context : Context} (unpublished : context.segments = [])
    (clock : Clock) (fields : Entries Value) {names : List String}
    (elsewhere : names.head? ≠ some "Time") :
    (⟨{ context with clock := clock }, fields⟩ : Scope).walk .root names =
      (⟨context, fields⟩ : Scope).walk .root names := by
  cases names with
  | nil => rfl
  | cons name names =>
      have other : name ≠ "Time" := fun same => elsewhere (congrArg some same)
      have same : (⟨{ context with clock := clock }, fields⟩ : Scope).member .root name =
          (⟨context, fields⟩ : Scope).member .root name := context.lookup_with_clock clock other
      have settled : ((⟨context, fields⟩ : Scope).member .root name).Settled :=
        Context.settled_lookup unpublished name
      by_cases nowhere : (⟨context, fields⟩ : Scope).member .root name = .missing
      · rw [walk_of_missing (same.trans nowhere), walk_of_missing nowhere]
      · rw [walk_of_found (same ▸ nowhere), walk_of_found nowhere, same]
        exact walk_of_settled _ _ settled names

/-- Without fields of a segment a path starts at the context. -/
theorem path_eq_walk_root (context : Context) (names : List String) :
    (⟨context, []⟩ : Scope).path names = (⟨context, []⟩ : Scope).walk .root names := by
  cases names <;> rfl

end Scope

namespace Context

theorem walk_copyAt {context : Context} (unpublished : context.segments = []) (later : Moment)
    {names : List String} (elsewhere : names.head? ≠ some "Time")
    (scalar : ((⟨context, []⟩ : Scope).walk .root names).IsScalar) :
    (⟨context.copyAt later, []⟩ : Scope).walk .root names =
      (⟨context, []⟩ : Scope).walk .root names := by
  have visible : ((⟨context.seen, []⟩ : Scope).walk .root names).seen =
      ((⟨context, []⟩ : Scope).walk .root names).seen :=
    (⟨context, []⟩ : Scope).walk_seen rfl names
  have hidden : context.seen.segments = [] := unpublished
  calc (⟨context.copyAt later, []⟩ : Scope).walk .root names
      = (⟨context.seen, []⟩ : Scope).walk .root names :=
        Scope.walk_root_with_clock hidden ⟨later⟩ [] elsewhere
    _ = (⟨context, []⟩ : Scope).walk .root names := Value.eq_of_seen_eq visible scalar

/-- What a context shows can be read back.  A context that snapshots have made of the stand-in
context is, as data and without its clock, a snapshot that the stand-in context accepts.  The result
shows the same data, and every path that does not lead into the clock has the same value on it, if
that value is a scalar. -/
theorem dump_is_read_back {now : Moment} {context : Context} {layers : List Document}
    (accepted : layers.foldlM merge (sample now) = .ok context) (later : Moment) :
    ∃ copy, (sample later).merge (context.toDocument.without "Time") = .ok copy ∧
      copy.toDocument.without "Time" = context.toDocument.without "Time" ∧
      ∀ (registry : Registry) (names : List String), names.head? ≠ some "Time" →
        ∀ node, node = Node.path names ∨ node = Node.root names →
          ∀ value : Value, value.IsScalar →
            node.eval ⟨context, []⟩ registry = .ok value →
            node.eval ⟨copy, []⟩ registry = .ok value := by
  refine ⟨context.copyAt later, merge_toDocument accepted later,
    context.toDocument_copyAt later, ?_⟩
  intro registry names elsewhere node leads value scalar evaluates
  have walks (any : Context) :
      node.eval ⟨any, []⟩ registry = .ok ((⟨any, []⟩ : Scope).walk .root names) := by
    obtain rfl | rfl := leads
    · rw [Node.eval, Scope.path_eq_walk_root]
    · rw [Node.eval]
  have same : (⟨context, []⟩ : Scope).walk .root names = value :=
    Except.ok.inj ((walks context).symm.trans evaluates)
  rw [walks, walk_copyAt (segments_layers accepted) later elsewhere (same ▸ scalar), same]

theorem hidden_branch_is_read_back_as_zero :
    let start := sample ⟨2024, 3, 9, 14, 5, 7, 0, none, false⟩
    let later : Moment := ⟨2025, 1, 2, 3, 4, 5, 0, none, false⟩
    let layers : List Document := [
      .table [("Git", .table [("Branch", .string "old"), ("IsRepo", .bool false)])],
      .table [("Env", .table [("EDITOR", .string "vi")])]]
    let context : Context := { start with
      git := { start.git with branch := "old", isRepo := false }
      env := ⟨sampleEnvironment.entries ++ [("EDITOR", "vi")]⟩ }
    layers.foldlM merge start = .ok context ∧
      ∃ copy, (sample later).merge (context.toDocument.without "Time") = .ok copy ∧
        (Node.path ["Git", "Branch"]).eval ⟨copy, []⟩ .builtin = .ok (.string "") ∧
        (Node.path ["Git", "Working", "String"]).eval ⟨copy, []⟩ .builtin = .ok (.string "") ∧
        (Node.root ["Env", "EDITOR"]).eval ⟨copy, []⟩ .builtin = .ok (.string "vi") := by
  intro start later layers context
  have accepted : layers.foldlM merge start = .ok context := rfl
  obtain ⟨copy, merged, -, paths⟩ := dump_is_read_back accepted later
  refine ⟨accepted, copy, merged, ?_, ?_, ?_⟩
  · exact paths .builtin ["Git", "Branch"] (by decide) _ (.inl rfl) _ trivial rfl
  · exact paths .builtin ["Git", "Working", "String"] (by decide) _ (.inl rfl) _ trivial rfl
  · exact paths .builtin ["Env", "EDITOR"] (by decide) _ (.inr rfl) _ trivial rfl

end Context

end Promptline
