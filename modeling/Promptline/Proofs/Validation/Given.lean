import Mathlib.Data.List.Forall2
import Promptline.Validation.Scalar

/-!
# What checks read

Data is looked up along a path of keys, each of which has two spellings, and a null on the way
counts as nothing given.  A check that accepts a table with optional fields has read for each field
what is given for it.
-/

namespace Promptline

/-! ## Places in the data -/

namespace Document

/-- A step into data. -/
inductive Step
  /-- To the value of a key, under its second spelling if the first one is absent. -/
  | key (pascal snake : String)
  /-- To the value of an entry; of several ones of that name the last one counts. -/
  | entry (name : String)

/-- The value that a step leads to. -/
def Step.find? : Step → Document → Option Document
  | key pascal snake, d => d.textEntries?.bind fun entries =>
      (Entries.get? pascal entries).or (Entries.get? snake entries)
  | entry name, d => d.namedEntries?.bind fun entries => Entries.get? name entries.reverse

/-- The value at the end of a path. Nothing is given where a step leads nowhere, or where the
value at its end or on the way is null. -/
def given? : List Step → Document → Option Document
  | [], null => none
  | [], d => some d
  | step :: steps, d => (step.find? d).bind (given? steps)

@[simp]
theorem given?_null (steps : List Step) : given? steps null = none := by
  cases steps with
  | nil => rfl
  | cons step steps => cases step <;> rfl

theorem given?_nil_of_ne_null {d : Document} (nonnull : d ≠ null) : given? [] d = some d := by
  cases d <;> first | contradiction | rfl

theorem given?_key {d : Document} {entries : Entries Document}
    (table : d.textEntries? = some entries) (pascal snake : String) :
    given? [.key pascal snake] d =
      ((Entries.get? pascal entries).or (Entries.get? snake entries)).bind (given? []) := by
  rw [given?, Step.find?, table]
  rfl

theorem given?_entry {d : Document} {entries : Entries Document}
    (names : d.namedEntries? = some entries) (name : String) :
    given? [.entry name] d = (Entries.get? name entries.reverse).bind (given? []) := by
  rw [given?, Step.find?, names]
  rfl

/-- A path goes on from where its beginning ends. -/
theorem given?_cons (step : Step) (steps : List Step) (d : Document) :
    given? (step :: steps) d = (given? [step] d).bind (given? steps) := by
  have skips (d : Document) : given? steps d = (given? [] d).bind (given? steps) := by
    cases d <;> first | rfl | exact given?_null steps
  simp only [given?, Option.bind_assoc, ← skips]

end Document

open Document (Step given?)

/-! ## What checks accept -/

namespace Checked

variable {α β : Type}

theorem map_eq_valid_iff {f : α → β} {checked : Checked α} {value : β} :
    checked.map f = valid value ↔ ∃ held, checked = valid held ∧ f held = value := by
  cases checked <;> simp [map]

theorem both_eq_valid_iff {first : Checked (α → β)} {second : Checked α} {value : β} :
    both first second = valid value ↔
      ∃ f, first = valid f ∧ ∃ held, second = valid held ∧ f held = value := by
  cases first <;> cases second <;> simp [both]

/-- A check accepts its data with a value of which something holds. -/
def Yields (checked : Checked α) (holds : α → Prop) : Prop :=
  ∃ value, checked = valid value ∧ holds value

theorem yields_eq_iff {checked : Checked α} {value : α} :
    checked.Yields (· = value) ↔ checked = valid value := by
  simp [Yields]

theorem yields_map_iff {f : α → β} {checked : Checked α} {holds : β → Prop} :
    (f <$> checked).Yields holds ↔ checked.Yields fun held => holds (f held) := by
  cases checked <;> simp [Yields, Functor.map, both]

/-- Values of several checks are found one after the other. -/
theorem yields_seq_iff {first : Checked (α → β)} {second : Checked α} {holds : β → Prop} :
    (first <*> second).Yields holds ↔
      first.Yields fun f => second.Yields fun held => holds (f held) := by
  cases first <;> cases second <;> simp [Yields, Seq.seq, both]

theorem within_eq_valid_iff {name : String} {checked : Checked α} {value : α} :
    checked.within name = valid value ↔ checked = valid value := by
  cases checked <;> simp [within]

/-- A part is accepted if it is a table whose fields are. -/
theorem part_eq_valid_iff {model : String} {check : Entries Document → Checked α} {d : Document}
    {value : α} {readFrom : Prop}
    (fields : ∀ entries, d.textEntries? = some entries →
      ((check entries).Yields (· = value) ↔ readFrom)) :
    part model check d = valid value ↔
      (∃ entries, d.textEntries? = some entries) ∧ readFrom := by
  unfold part
  cases table : d.textEntries? with
  | none => simp [fail]
  | some entries => simp [← fields entries table, yields_eq_iff]

/-- A check reads what is given, if anything is, and nothing otherwise. -/
def Reads (check : Document → Checked α) (given : Option Document) (patch : Option α) : Prop :=
  Option.Rel (fun datum value => check datum = valid value) given patch

theorem Reads.of_mem {check : Document → Checked α} {given : Option Document} {value : α}
    (read : Reads check given (some value)) : ∃ d, given = some d ∧ check d = valid value := by
  cases read with
  | some checked => exact ⟨_, rfl, checked⟩

/-- What is read inside a part is read from the whole. -/
theorem Reads.inside {check : Document → Checked α} {inner : Document → Checked β} {step : Step}
    {steps : List Step} {d : Document} {patch : Option α} {get : α → Option β}
    (outside : Reads check (given? [step] d) patch)
    (inside : ∀ d value, check d = valid value → Reads inner (given? steps d) (get value)) :
    Reads inner (given? (step :: steps) d) (patch.bind get) := by
  rw [Document.given?_cons]
  generalize given? [step] d = given at outside
  cases outside with
  | none => exact .none
  | some read => exact inside _ _ read

theorem optional_eq_valid_iff {check : Document → Checked α} {d : Document} {patch : Option α} :
    optional check d = valid patch ↔ Reads check (given? [] d) patch := by
  by_cases null : d = .null
  · subst null
    cases patch with
    | none => exact ⟨fun _ => .none, fun _ => rfl⟩
    | some value => exact ⟨nofun, nofun⟩
  · rw [Document.given?_nil_of_ne_null null, optional, map_eq_valid_iff]
    · cases patch with
      | none => exact ⟨nofun, nofun⟩
      | some value =>
          refine ⟨?_, fun | .some read => ⟨_, read, rfl⟩⟩
          rintro ⟨held, read, same⟩
          exact .some (Option.some.inj same ▸ read)
    · exact null

/-- An optional field reads what is given under its names. -/
theorem field_eq_valid_iff {pascal snake : String} {check : Document → Checked α}
    {entries : Entries Document} {patch : Option α} :
    field [pascal, snake] none (optional check) entries = valid patch ↔
      Reads check (((Entries.get? pascal entries).or (Entries.get? snake entries)).bind (given? []))
        patch := by
  have absent : valid (none : Option α) = valid patch ↔ Reads check none patch := by
    cases patch with
    | none => exact ⟨fun _ => .none, fun _ => rfl⟩
    | some value => exact ⟨nofun, nofun⟩
  unfold field
  cases first : Entries.get? pascal entries with
  | some d => simp [first, within_eq_valid_iff, optional_eq_valid_iff]
  | none =>
      cases second : Entries.get? snake entries with
      | some d => simp [first, second, within_eq_valid_iff, optional_eq_valid_iff]
      | none => simpa [first, second] using absent

theorem yields_field_iff {d : Document} {entries : Entries Document}
    (table : d.textEntries? = some entries) {pascal snake : String} {check : Document → Checked α}
    {holds : Option α → Prop} :
    (field [pascal, snake] none (optional check) entries).Yields holds ↔
      ∃ patch, Reads check (d.given? [.key pascal snake]) patch ∧ holds patch := by
  simp only [Yields, field_eq_valid_iff, Document.given?_key table]

/-- A part with a single field reads what is given for that field. -/
theorem part_field_eq_valid_iff {model pascal snake : String} {check : Document → Checked α}
    {d : Document} {patch : Option α} :
    part model (field [pascal, snake] none (optional check)) d = valid patch ↔
      (∃ entries, d.textEntries? = some entries) ∧
        Reads check (d.given? [.key pascal snake]) patch :=
  part_eq_valid_iff fun entries table => by simp [yields_field_iff table]

theorem text_eq_valid_iff {d : Document} {s : String} : text d = valid s ↔ d.text? = some s := by
  cases d with
  | bytes octets =>
      rw [text, Document.text?]
      cases Document.decode? octets <;> simp [fail]
  | _ => simp [text, Document.text?, fail]

theorem choice_eq_valid_iff {options : List (String × α)} {d : Document} {value : α} :
    choice options d = valid value ↔ ∃ s, d = .string s ∧ options.lookup s = some value := by
  cases d with
  | string s =>
      simp only [choice, Document.string.injEq, exists_eq_left']
      cases options.lookup s <;> simp
  | _ => simp [choice]

theorem nonneg_of_natural {d : Document} {n : Int} (accepted : natural d = valid n) : 0 ≤ n := by
  unfold natural at accepted
  cases read : integer d with
  | invalid problems => rw [read] at accepted; contradiction
  | valid m =>
      rw [read] at accepted
      by_cases negative : m < 0
      · simp [negative, fail] at accepted
      · obtain rfl : m = n := by simpa [negative] using accepted
        exact Int.not_lt.mp negative

theorem natural_of_nonneg {n : Int} (nonneg : 0 ≤ n) : natural (.int n) = valid n := by
  simp [natural, integer, Int.not_lt.mpr nonneg]

/-- Items are related to the values that they are read as if every single one is. -/
theorem forall₂_of_all {check : Nat → α → Checked β} {related : α → β → Prop}
    (single : ∀ position given value, check position given = valid value → related given value)
    {start : Nat} {items : List α} {values : List β}
    (accepted : all check start items = valid values) : List.Forall₂ related items values := by
  induction items generalizing start values with
  | nil =>
      obtain rfl := valid.inj accepted
      exact .nil
  | cons first items ih =>
      obtain ⟨_, read, rest, more, rfl⟩ := both_eq_valid_iff.mp accepted
      obtain ⟨value, here, rfl⟩ := map_eq_valid_iff.mp read
      exact .cons (single start first value here) (ih more)

end Checked

end Promptline
