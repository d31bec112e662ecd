import Promptline.Proofs.Context.Fields

/-!
# Snapshots laid one over the other

After any sequence of accepted snapshots every field has the last value that was given for it, or
the one that it had in the beginning.
-/

namespace Promptline.Context

open Checked (Reads)

theorem merge_of_foldlM_cons {base context : Context} {layer : Document} {layers : List Document}
    (accepted : (layer :: layers).foldlM merge base = .ok context) :
    ∃ middle, base.merge layer = .ok middle ∧ layers.foldlM merge middle = .ok context := by
  rw [List.foldlM_cons] at accepted
  cases first : base.merge layer with
  | error fault => rw [first] at accepted; contradiction
  | ok middle => exact ⟨middle, rfl, by rwa [first] at accepted⟩

/-- What the last snapshot that gives a field at all gives for it. -/
def Field.lastGiven? {kind : Kind} (field : Field kind) (layers : List Document) :
    Option Document :=
  layers.reverse.findSome? field.given?

theorem Field.lastGiven?_cons {kind : Kind} (field : Field kind) (layer : Document)
    (layers : List Document) :
    field.lastGiven? (layer :: layers) = (field.lastGiven? layers).or (field.given? layer) := by
  simp [lastGiven?, List.findSome?_append]

theorem Field.value_layers {base context : Context} {layers : List Document}
    (accepted : layers.foldlM merge base = .ok context) {kind : Kind} (field : Field kind) :
    ∃ patch, Reads kind.check (field.lastGiven? layers) patch ∧
      field.value context = patch.getD (field.value base) := by
  induction layers generalizing base with
  | nil =>
      obtain rfl : base = context := Except.ok.inj accepted
      exact ⟨none, .none, rfl⟩
  | cons layer layers ih =>
      obtain ⟨middle, first, rest⟩ := merge_of_foldlM_cons accepted
      obtain ⟨earlier, readEarlier, atFirst⟩ := field.value_merge first
      obtain ⟨later, readLater, atLast⟩ := ih rest
      have read : Reads kind.check (field.lastGiven? (layer :: layers)) (later.or earlier) := by
        rw [lastGiven?_cons]
        generalize field.lastGiven? layers = given at readLater
        cases readLater with
        | none => simpa using readEarlier
        | some read => exact .some read
      have value : field.value context = (later.or earlier).getD (field.value base) := by
        rw [atLast, atFirst]
        cases later <;> rfl
      exact ⟨later.or earlier, read, value⟩

/-- What every accepted snapshot keeps is kept by all of them. -/
theorem holds_after_layers (Holds : Context → Prop)
    (kept : ∀ {base context : Context} {data : Document},
      base.merge data = .ok context → Holds base → Holds context)
    {base context : Context} {layers : List Document}
    (accepted : layers.foldlM merge base = .ok context) (holds : Holds base) : Holds context := by
  induction layers generalizing base with
  | nil =>
      obtain rfl : base = context := Except.ok.inj accepted
      exact holds
  | cons layer layers ih =>
      obtain ⟨middle, first, rest⟩ := merge_of_foldlM_cons accepted
      exact ih rest (kept first holds)

theorem segments_layers {base context : Context} {layers : List Document}
    (accepted : layers.foldlM merge base = .ok context) : context.segments = base.segments :=
  holds_after_layers (·.segments = base.segments)
    (fun merged same => (segments_merge merged).trans same) accepted rfl

/-- The last snapshot that gives a field decides on it, whatever the others give: field by field,
and variable by variable.  A field that no snapshot gives keeps the value of the base, and the
published fields of segments are kept as they are. -/
theorem last_given_value_wins {base context : Context} {layers : List Document}
    (accepted : layers.foldlM merge base = .ok context) :
    (∀ {kind : Kind} (field : Field kind),
      match field.lastGiven? layers with
      | some datum => kind.check datum = .valid (field.value context)
      | none => field.value context = field.value base) ∧
    context.segments = base.segments := by
  refine ⟨fun {kind} field => ?_, segments_layers accepted⟩
  obtain ⟨patch, read, value⟩ := field.value_layers accepted
  generalize field.lastGiven? layers = given at read
  cases read with
  | none => exact value
  | some checked => exact value ▸ checked

theorem null_and_unknown_keys_give_nothing :
    let base := sample ⟨2024, 3, 9, 14, 5, 7, 0, none, false⟩
    let layers : List Document := [
      .table [
        ("Git", .table [
          ("Branch", .string "topic"), ("Working", .table [("String", .string "5")])]),
        ("Env", .table [("USER", .string "dev")])],
      .table [
        ("Git", .table [("Branch", .null), ("branch", .string "hidden"), ("ahead", .int 2)]),
        ("Shell", .null), ("Battery", .int 50), ("env", .table [("SHELL", .string "fish")])]]
    ∃ context, layers.foldlM merge base = .ok context ∧ context.git.branch = "topic" ∧
      context.git.ahead = 2 ∧ context.git.working = ⟨true, "5"⟩ ∧ context.shell.name = "bash" ∧
      Entries.get? "USER" context.env.entries = some "dev" ∧
      Entries.get? "SHELL" context.env.entries = some "fish" ∧
      Entries.get? "HOME" context.env.entries = some "/home/user" := by
  intro base layers
  obtain ⟨context, accepted⟩ : ∃ context, layers.foldlM merge base = .ok context := ⟨_, rfl⟩
  have fields {kind : Kind} (field : Field kind) := (last_given_value_wins accepted).1 field
  have branch : Checked.text (.string "topic") = .valid context.git.branch := fields .branch
  have ahead : Checked.natural (.int 2) = .valid context.git.ahead := fields .ahead
  have changed : context.git.working.changed = true := fields .workingChanged
  have summary : Checked.text (.string "5") = .valid context.git.working.summary :=
    fields .workingSummary
  have shell : context.shell.name = "bash" := fields .shellName
  have user : (Checked.text (.string "dev")).map some =
      .valid (Entries.get? "USER" context.env.entries) := fields (.env "USER")
  have fish : (Checked.text (.string "fish")).map some =
      .valid (Entries.get? "SHELL" context.env.entries) := fields (.env "SHELL")
  have home : Entries.get? "HOME" context.env.entries = some "/home/user" := fields (.env "HOME")
  have working : context.git.working = ⟨true, "5"⟩ := by
    rw [← changed, Checked.valid.inj summary]
  exact ⟨context, accepted, (Checked.valid.inj branch).symm, (Checked.valid.inj ahead).symm,
    working, shell, (Checked.valid.inj user).symm, (Checked.valid.inj fish).symm, home⟩

end Promptline.Context
