import Promptline.Segment.Properties
import Promptline.Proofs.Entries
import Promptline.Proofs.Validation.Explained

/-!
# Known settings

The settings that a kind of segment knows, as a list: each has a key, a default and a check of its
own.  Checking all settings of a kind is checking those of the list one after the other.
-/

namespace Promptline

open Checked (field optional)

/-- A known setting. -/
structure Declaration where
  /-- Key. -/
  key : String
  /-- Value of an absent setting, as data. -/
  default : Document
  /-- The value that data under the key stand for, as data. -/
  check : Document → Checked Document

namespace Declaration

/-- Check the setting in a table. -/
def read (declared : Declaration) (entries : Entries Document) : Checked Document :=
  field [declared.key] declared.default declared.check entries

/-- Check settings one after the other. -/
def readAll (entries : Entries Document) : List Declaration → Checked (Entries Document)
  | [] => .valid []
  | declared :: others =>
      (fun value settings => (declared.key, value) :: settings)
        <$> declared.read entries <*> readAll entries others

/-- A setting that is checked as a value, and that value as data. -/
def ofCheck {α : Type} (key : String) (toDocument : α → Document) (default : α)
    (check : Document → Checked α) : Declaration :=
  ⟨key, toDocument default, fun d => toDocument <$> check d⟩

theorem key_ofCheck {α : Type} (key : String) (toDocument : α → Document) (default : α)
    (check : Document → Checked α) : (ofCheck key toDocument default check).key = key := rfl

theorem read_ofCheck {α : Type} (key : String) (toDocument : α → Document) (default : α)
    (check : Document → Checked α) (entries : Entries Document) :
    (ofCheck key toDocument default check).read entries =
      toDocument <$> field [key] default check entries :=
  (Checked.map_field toDocument [key] default check entries).symm

/-- A value or null. -/
def orNull {α : Type} (toDocument : α → Document) (value : Option α) : Document :=
  (value.map toDocument).getD .null

/-- A text. -/
def text (key default : String) : Declaration :=
  ofCheck key .string default Checked.text

/-- A setting that may be null. -/
def nullable {α : Type} (key : String) (toDocument : α → Document) (check : Document → Checked α) :
    Declaration :=
  ofCheck key (orNull toDocument) none (optional check)

end Declaration

open Declaration (text nullable ofCheck)

namespace PropertyKind

/-- Known settings, in order. -/
def declarations (kind : PropertyKind) : List Declaration :=
  [nullable "template" .string Checked.text, nullable "text" .string Checked.text,
    text "prefix" "", text "postfix" ""] ++
    match kind with
    | plain => []
    | git => [text "branch_icon" "", text "branch_ahead_icon" "↑", text "branch_behind_icon" "↓",
        text "working_icon" "\uf044", text "staging_icon" "\uf046", text "stash_icon" "\ueb4b"]
    | sysinfo => [nullable "precision" .int Checked.natural]
    | path => [
        ofCheck "style" (fun style => .string style.name) .full (.choice PathStyle.options),
        text "home_icon" "~", text "folder_separator_icon" "/"]
    | time => [text "time_format" "15:04:05"]

theorem keys_declarations (kind : PropertyKind) : kind.declarations.map (·.key) = kind.keys := by
  cases kind <;> rfl

theorem check_eq (kind : PropertyKind) (entries : Entries Document) :
    Properties.toEntries <$> Properties.check kind entries =
      (· ++ entries.filter fun entry => !kind.keys.contains entry.1) <$>
        Declaration.readAll entries kind.declarations := by
  apply Checked.eq_of_yields
  · cases kind <;>
      simp [Properties.check, details, declarations, Declaration.readAll, text, nullable,
        Declaration.read_ofCheck, Checked.problems_map, Checked.problems_seq]
  · intro holds
    cases kind <;>
      simp [Properties.check, details, declarations, Declaration.readAll, text, nullable,
        Declaration.read_ofCheck, Declaration.key_ofCheck, Checked.yields_map_iff,
        Checked.yields_seq_iff, Properties.toEntries, Properties.detailEntries, Declaration.orNull]

end PropertyKind

namespace Declaration

variable {declared : Declaration} {declarations : List Declaration}
  {entries others : Entries Document}

theorem key_ne_of_fresh {other : Declaration} (fresh : declared.key ∉ declarations.map (·.key))
    (member : other ∈ declarations) : declared.key ≠ other.key :=
  fun same => fresh (List.mem_map.mpr ⟨other, member, same.symm⟩)

/-- A check of the setting that refuses a value has something to say about it. -/
def Explained (declared : Declaration) : Prop :=
  ∀ d, (declared.check d).Explained

theorem explained_ofCheck {α : Type} {check : Document → Checked α}
    (explained : ∀ d, (check d).Explained) (key : String) (toDocument : α → Document)
    (default : α) : (ofCheck key toDocument default check).Explained :=
  fun d => (explained d).map toDocument

theorem read_of_get? {d : Document} (held : Entries.get? declared.key entries = some d) :
    declared.read entries = (declared.check d).within declared.key :=
  Checked.field_of_get? held

theorem read_of_absent (absent : Entries.get? declared.key entries = none) :
    declared.read entries = .valid declared.default := by
  simp [read, field, absent]

/-- A setting depends on nothing but what is entered under its key. -/
theorem read_congr (same : Entries.get? declared.key entries = Entries.get? declared.key others) :
    declared.read entries = declared.read others := by
  cases held : Entries.get? declared.key entries with
  | none => rw [read_of_absent held, read_of_absent (same ▸ held)]
  | some d => rw [read_of_get? held, read_of_get? (same ▸ held)]

theorem Explained.read (explained : declared.Explained) (entries : Entries Document) :
    (declared.read entries).Explained :=
  Checked.explained_field explained _ _ entries

theorem liesIn_of_mem_read {problem : Problem}
    (member : problem ∈ (declared.read entries).problems) : problem.LiesIn declared.key := by
  cases held : Entries.get? declared.key entries with
  | none =>
      rw [read_of_absent held] at member
      cases member
  | some d =>
      rw [read_of_get? held] at member
      exact Checked.liesIn_of_mem_within member

theorem problems_readAll :
    (readAll entries declarations).problems =
      declarations.flatMap fun declared => (declared.read entries).problems := by
  induction declarations with
  | nil => rfl
  | cons declared others ih =>
      rw [readAll, Checked.problems_seq, Checked.problems_map, ih, List.flatMap_cons]

theorem explained_readAll (explained : ∀ declared ∈ declarations, declared.Explained)
    (entries : Entries Document) : (readAll entries declarations).Explained := by
  induction declarations with
  | nil => exact Checked.explained_valid []
  | cons declared others ih =>
      obtain ⟨first, later⟩ := List.forall_mem_cons.mp explained
      exact ((first.read entries).map _).seq (ih later)

/-- All settings are accepted if every one is, and then stand under their keys. -/
theorem readAll_eq_valid_cons {settings : Entries Document}
    (accepted : readAll entries (declared :: declarations) = .valid settings) :
    ∃ value rest, declared.read entries = .valid value ∧
      readAll entries declarations = .valid rest ∧ settings = (declared.key, value) :: rest := by
  obtain ⟨f, first, rest, later, rfl⟩ := Checked.both_eq_valid_iff.mp accepted
  obtain ⟨g, ⟨⟩, value, here, rfl⟩ := Checked.both_eq_valid_iff.mp first
  exact ⟨value, rest, here, later, rfl⟩

theorem names_of_readAll {settings : Entries Document}
    (accepted : readAll entries declarations = .valid settings) :
    Entries.names settings = declarations.map (·.key) := by
  induction declarations generalizing settings with
  | nil =>
      obtain rfl := Checked.valid.inj accepted
      rfl
  | cons declared declarations ih =>
      obtain ⟨value, rest, -, later, rfl⟩ := readAll_eq_valid_cons accepted
      rw [Entries.names, List.map_cons, List.map_cons, ← ih later]
      rfl

theorem exists_of_readAll {settings : Entries Document}
    (nodup : (declarations.map (·.key)).Nodup) (member : declared ∈ declarations)
    (accepted : readAll entries declarations = .valid settings) :
    ∃ value, declared.read entries = .valid value ∧
      Entries.get? declared.key settings = some value := by
  induction declarations generalizing settings with
  | nil => cases member
  | cons first declarations ih =>
      obtain ⟨value, rest, here, later, rfl⟩ := readAll_eq_valid_cons accepted
      obtain ⟨fresh, nodup⟩ := List.nodup_cons.mp nodup
      obtain rfl | member := List.mem_cons.mp member
      · exact ⟨value, here, if_pos rfl⟩
      · rw [Entries.get?, if_neg (key_ne_of_fresh fresh member)]
        exact ih nodup member later

end Declaration

end Promptline
