import Promptline.Proofs.Document.Merge
import Promptline.Proofs.Validation.Explained
import Promptline.Settings

/-!
# Sections of settings

Settings are checked as a whole, and their sections are read one by one with a fallback.  The two
never differ: data without problems are read as the check reads them, and a section falls back to
its defaults just when a problem lies in it, whatever the other section holds.
-/

namespace Promptline

namespace Document

/-- Laying entries over others leaves no key without a value. -/
theorem exists_get?_mergeEntries {key : String} {base : Entries Document} {value : Document}
    (held : Entries.get? key base = some value) (later : Entries Document) :
    ∃ value, Entries.get? key (mergeEntries base later) = some value := by
  induction later generalizing base value with
  | nil => exact ⟨value, by rw [mergeEntries, held]⟩
  | cons entry later ih =>
      obtain ⟨name, above⟩ := entry
      rw [mergeEntries]
      by_cases same : key = name
      · subst same
        exact ih (Entries.get?_insert_self _ _ base)
      · exact ih ((Entries.get?_insert_of_ne _ base same).trans held)

end Document

namespace Settings

open Checked (field)

theorem checkLogging_explained (d : Document) : (checkLogging d).Explained := by
  refine Checked.explained_part (fun entries => ?_) _ d
  have level := Checked.explained_field (Checked.explained_choice levels) ["level"] .info entries
  have format := Checked.explained_field (Checked.explained_choice LogFormat.options) ["format"]
    .json entries
  have file := Checked.explained_field Checked.explained_text ["file"] "" entries
  exact ((level.map LogSettings.mk).seq format).seq file

theorem checkRender_explained (d : Document) : (checkRender d).Explained := by
  refine Checked.explained_part (fun entries => ?_) _ d
  have marker := Checked.explained_field (Checked.explained_choice markers) ["on_error"] .source
    entries
  have strict := Checked.explained_field Checked.explained_truth ["strict"] false entries
  exact (marker.map RenderSettings.mk).seq strict

theorem check_explained (data : Table) : (check data).Explained := by
  have logging := Checked.explained_field checkLogging_explained ["logging"] {} data
  have render := Checked.explained_field checkRender_explained ["render"] {} data
  exact ((logging.map Settings.mk).seq render).seq (Checked.explained_valid data)

theorem check_eq_valid_iff {data : Table} {settings : Settings} :
    check data = .valid settings ↔
      field ["logging"] {} checkLogging data = .valid settings.logging ∧
        field ["render"] {} checkRender data = .valid settings.render ∧ settings.data = data := by
  rw [check, ← Checked.yields_eq_iff, Checked.yields_seq_iff, Checked.yields_seq_iff,
    Checked.yields_map_iff]
  constructor
  · rintro ⟨logging, first, render, second, _, ⟨⟩, rfl⟩
    exact ⟨first, second, rfl⟩
  · obtain ⟨logging, render, held⟩ := settings
    rintro ⟨first, second, rfl⟩
    exact ⟨logging, first, render, second, held, rfl, rfl⟩

section Read

variable {α : Type} {check : Document → Checked α} {fallback value : α} {key : String}
  {data : Table} {d : Document}

/-- A section that is read on its own has its value if it passes the check, and else its
defaults. -/
theorem section?_of_get? (held : Entries.get? key data = some d) :
    Settings.section? check fallback key data = (check d).value?.getD fallback := by
  rw [section?, held]
  rfl

/-- What the check of the whole reads is read again on its own. -/
theorem section?_of_field (accepted : field [key] fallback check data = .valid value) :
    Settings.section? check fallback key data = value := by
  cases held : Entries.get? key data with
  | none =>
      obtain rfl : fallback = value := by simpa [field, held] using accepted
      rw [section?, held]
      rfl
  | some d =>
      rw [Checked.field_of_get? held, Checked.within_eq_valid_iff] at accepted
      rw [section?_of_get? held, accepted]
      rfl

end Read

/-- Checked settings are those that are read section by section. -/
theorem lenient_of_check_eq_valid {data : Table} {settings : Settings}
    (accepted : check data = .valid settings) : lenient data = settings := by
  obtain ⟨first, second, rfl⟩ := check_eq_valid_iff.mp accepted
  rw [lenient, section?_of_field first, section?_of_field second]

/-- Settings are built just if the check accepts their data, and are then what it reads. -/
theorem strict_eq_ok_iff {source : Option String} {data : Table} {settings : Settings} :
    strict source data = .ok settings ↔ check data = .valid settings := by
  unfold strict
  constructor
  · intro built
    split at built
    · -- Without problems the check has accepted the data, so that no section has fallen back.
      next clean =>
        obtain ⟨read, accepted⟩ := check_explained data clean
        rw [lenient_of_check_eq_valid accepted] at built
        rw [accepted, Except.ok.inj built]
    · cases built
  · intro accepted
    rw [accepted]
    exact congrArg Except.ok (lenient_of_check_eq_valid accepted)

theorem strict_eq_error_iff {source : Option String} {data : Table} {fault : SettingFault} :
    strict source data = .error fault ↔
      ∃ first rest, (check data).problems = first :: rest ∧ fault = .ofProblem source first := by
  unfold strict
  split
  · next clean => simp [clean]
  · next first rest found => simp [found, eq_comm]

/-- A table that holds both sections. -/
structure HasSections (data : Table) (logging render : Document) : Prop where
  /-- What is logged. -/
  logging : Entries.get? "logging" data = some logging
  /-- How templates are rendered. -/
  render : Entries.get? "render" data = some render

/-- Data laid over the built-in values hold both sections. -/
theorem exists_hasSections (data : Table) :
    ∃ logging render, HasSections (defaults.merge data) logging render := by
  obtain ⟨logging, first⟩ : ∃ d, Entries.get? "logging" (defaults.merge data) = some d :=
    Document.exists_get?_mergeEntries rfl data
  obtain ⟨render, second⟩ : ∃ d, Entries.get? "render" (defaults.merge data) = some d :=
    Document.exists_get?_mergeEntries rfl data
  exact ⟨logging, render, first, second⟩

namespace HasSections

variable {data : Table} {logging render : Document} (sections : HasSections data logging render)

include sections

/-- The problems of the whole are those of its sections. -/
theorem problems_check :
    (check data).problems = ((checkLogging logging).within "logging").problems ++
      ((checkRender render).within "render").problems := by
  rw [check, Checked.problems_seq, Checked.problems_seq, Checked.problems_map,
    Checked.field_of_get? sections.logging, Checked.field_of_get? sections.render]
  exact List.append_nil _

theorem exists_liesIn_logging_iff :
    (∃ problem ∈ (check data).problems, problem.LiesIn "logging") ↔
      (checkLogging logging).problems ≠ [] := by
  rw [sections.problems_check, ← Checked.exists_liesIn_within_iff]
  refine exists_congr fun problem => and_congr_left fun lies => ?_
  rw [List.mem_append, or_iff_left]
  exact fun member => Checked.not_liesIn_of_mem_within (by decide) member lies

theorem exists_liesIn_render_iff :
    (∃ problem ∈ (check data).problems, problem.LiesIn "render") ↔
      (checkRender render).problems ≠ [] := by
  rw [sections.problems_check, ← Checked.exists_liesIn_within_iff]
  refine exists_congr fun problem => and_congr_left fun lies => ?_
  rw [List.mem_append, or_iff_right]
  exact fun member => Checked.not_liesIn_of_mem_within (by decide) member lies

end HasSections

/-- A value that a section of data is read as: what its own data stand for if no problem of the
whole lies in it, and a fallback otherwise. -/
structure ReadsSection {α : Type} (check : Document → Checked α) (fallback : α) (key : String)
    (data : Table) (value : α) : Prop where
  /-- Without a problem in it, the section is read as its check reads it. -/
  parsed : (∀ problem ∈ (Settings.check data).problems, ¬ problem.LiesIn key) →
    ∃ d, Entries.get? key data = some d ∧ check d = .valid value
  /-- A problem in it makes the section fall back. -/
  replaced : (∃ problem ∈ (Settings.check data).problems, problem.LiesIn key) →
    value = fallback ∧ ∃ d, Entries.get? key data = some d ∧ ¬ ∃ other, check d = .valid other

theorem readsSection_of_get? {α : Type} {check : Document → Checked α} {key : String}
    {data : Table} {d : Document} (fallback : α) (held : Entries.get? key data = some d)
    (explained : (check d).Explained)
    (problems : (∃ problem ∈ (Settings.check data).problems, problem.LiesIn key) ↔
      (check d).problems ≠ []) :
    ReadsSection check fallback key data (section? check fallback key data) := by
  rw [section?_of_get? held]
  constructor
  · intro free
    have clean : (check d).problems = [] := Classical.byContradiction fun found => by
      obtain ⟨problem, member, lies⟩ := problems.mpr found
      exact free problem member lies
    obtain ⟨value, read⟩ := explained clean
    exact ⟨d, held, by rw [read]; rfl⟩
  · intro lies
    have found := problems.mp lies
    cases read : check d with
    | valid value =>
        rw [read] at found
        exact absurd rfl found
    | invalid problems => exact ⟨rfl, d, held, by simp [read]⟩

example :
    let settings := ofTableLenient [("logging", .int 3), ("render", .table [("strict", .int 1)])]
    settings.logging = {} ∧ settings.render = { strict := true } := by
  decide

end Settings

end Promptline
