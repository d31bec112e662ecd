import Promptline.Proofs.Validation.Given

/-!
# Refusals are explained

A check that refuses its data reports at least one problem, so the problems alone tell whether data
are accepted.  Every problem of a field lies in that field.
-/

namespace Promptline

/-- The place of a problem begins with a name. -/
def Problem.LiesIn (name : String) (problem : Problem) : Prop :=
  [name] <+: problem.location

theorem Problem.LiesIn.eq {name other : String} {problem : Problem} (here : problem.LiesIn name)
    (there : problem.LiesIn other) : name = other := by
  obtain ⟨_, first⟩ := here
  obtain ⟨_, second⟩ := there
  exact (List.cons.inj (first.trans second.symm)).1

namespace Checked

variable {α β : Type}

/-- A check without problems has accepted its data. -/
def Explained (checked : Checked α) : Prop :=
  checked.problems = [] → ∃ value, checked = valid value

theorem explained_valid (value : α) : (valid value).Explained :=
  fun _ => ⟨value, rfl⟩

theorem explained_invalid (problem : Problem) (problems : List Problem) :
    (invalid (problem :: problems) : Checked α).Explained := by
  rintro ⟨⟩

theorem explained_fail (message : String) (d : Document) :
    (fail message d : Checked α).Explained :=
  explained_invalid _ _

/-! ## Problems of combined checks -/

@[simp]
theorem problems_valid (value : α) : (valid value).problems = [] := rfl

@[simp]
theorem yields_valid_iff {value : α} {holds : α → Prop} :
    (valid value).Yields holds ↔ holds value := by
  simp [Yields]

theorem problems_map (f : α → β) (checked : Checked α) :
    (f <$> checked).problems = checked.problems := by
  cases checked <;> rfl

theorem problems_seq (first : Checked (α → β)) (second : Checked α) :
    (first <*> second).problems = first.problems ++ second.problems := by
  cases first <;> cases second <;> simp [Seq.seq, both, problems]

theorem problems_within_eq_nil_iff {name : String} {checked : Checked α} :
    (checked.within name).problems = [] ↔ checked.problems = [] := by
  cases checked <;> simp [within, problems]

/-- Problems inside a part lie in it. -/
theorem liesIn_of_mem_within {name : String} {checked : Checked α} {problem : Problem}
    (member : problem ∈ (checked.within name).problems) : problem.LiesIn name := by
  cases checked with
  | valid value => cases member
  | invalid problems =>
      obtain ⟨inner, -, rfl⟩ := List.mem_map.mp member
      exact ⟨inner.location, rfl⟩

theorem exists_liesIn_within_iff {name : String} {checked : Checked α} :
    (∃ problem ∈ (checked.within name).problems, problem.LiesIn name) ↔ checked.problems ≠ [] := by
  rw [ne_eq, ← @problems_within_eq_nil_iff _ name]
  constructor
  · rintro ⟨problem, member, -⟩
    exact List.ne_nil_of_mem member
  · intro found
    obtain ⟨problem, member⟩ := List.exists_mem_of_ne_nil _ found
    exact ⟨problem, member, liesIn_of_mem_within member⟩

theorem not_liesIn_of_mem_within {name other : String} (apart : name ≠ other)
    {checked : Checked α} {problem : Problem} (member : problem ∈ (checked.within other).problems) :
    ¬ problem.LiesIn name :=
  fun here => apart (here.eq (liesIn_of_mem_within member))

theorem Explained.map {checked : Checked α} (explained : checked.Explained) (f : α → β) :
    (f <$> checked).Explained := by
  intro clean
  rw [problems_map] at clean
  obtain ⟨value, rfl⟩ := explained clean
  exact ⟨f value, rfl⟩

theorem explained_of_map {checked : Checked α} {f : α → β} (explained : (f <$> checked).Explained) :
    checked.Explained := by
  intro clean
  obtain ⟨value, mapped⟩ := explained ((problems_map f checked).trans clean)
  cases checked with
  | valid held => exact ⟨held, rfl⟩
  | invalid problems => cases mapped

theorem Explained.seq {first : Checked (α → β)} {second : Checked α}
    (explainedFirst : first.Explained) (explainedSecond : second.Explained) :
    (first <*> second).Explained := by
  intro clean
  rw [problems_seq, List.append_eq_nil_iff] at clean
  obtain ⟨f, rfl⟩ := explainedFirst clean.1
  obtain ⟨value, rfl⟩ := explainedSecond clean.2
  exact ⟨f value, rfl⟩

theorem Explained.within {checked : Checked α} (explained : checked.Explained) (name : String) :
    (checked.within name).Explained := by
  intro clean
  obtain ⟨value, rfl⟩ := explained (problems_within_eq_nil_iff.mp clean)
  exact ⟨value, rfl⟩

/-! ## Checks of fields, tables and single values -/

theorem explained_field {check : Document → Checked α} (explained : ∀ d, (check d).Explained)
    (names : List String) (default : α) (entries : Entries Document) :
    (field names default check entries).Explained := by
  unfold field
  split
  · next name d _ => exact (explained d).within name
  · exact explained_valid default

theorem explained_part {check : Entries Document → Checked α}
    (explained : ∀ entries, (check entries).Explained) (model : String) (d : Document) :
    (part model check d).Explained := by
  unfold part
  split
  · next entries _ => exact explained entries
  · exact explained_fail _ d

theorem explained_optional {check : Document → Checked α} (explained : ∀ d, (check d).Explained)
    (d : Document) : (optional check d).Explained := by
  unfold optional
  split
  · exact explained_valid none
  · have inner := explained d
    cases read : check d with
    | valid value => exact explained_valid (some value)
    | invalid problems =>
        rw [read] at inner
        exact fun clean => nomatch inner clean

theorem explained_text (d : Document) : (text d).Explained := by
  unfold text
  split
  · exact explained_valid _
  · split
    · exact explained_valid _
    · exact explained_fail _ _
  · exact explained_fail _ _

theorem explained_choice (options : List (String × α)) (d : Document) :
    (choice options d).Explained := by
  cases d with
  | string s =>
      simp only [choice]
      cases options.lookup s with
      | some value => exact explained_valid value
      | none => exact explained_invalid _ _
  | _ => exact explained_invalid _ _

theorem explained_truthOfInt (n : Int) (d : Document) : (truthOfInt n d).Explained := by
  unfold truthOfInt
  split
  · exact explained_valid false
  · split
    · exact explained_valid true
    · exact explained_fail _ d

theorem explained_truthFrom (d : Document) : (truthFrom d).Explained := by
  unfold truthFrom
  split
  · split
    · exact explained_valid false
    · split
      · exact explained_valid true
      · exact explained_fail _ d
  · exact explained_fail _ d

theorem explained_truth (d : Document) : (truth d).Explained := by
  unfold truth
  extract_lets refused
  have explainedRefused : refused.Explained := explained_fail _ d
  split
  · exact explained_valid _
  · split
    · exact explained_truthOfInt _ _
    · exact explainedRefused
  · split
    · split
      · exact explained_truthOfInt _ _
      · exact explainedRefused
    · exact explainedRefused
  · exact explained_truthFrom _
  · exact explained_truthFrom _
  · exact explainedRefused

theorem explained_integerFrom (d : Document) : (integerFrom d).Explained := by
  unfold integerFrom
  split
  · split
    · exact explained_valid _
    · exact explained_fail _ d
  · exact explained_fail _ d

theorem explained_integer (d : Document) : (integer d).Explained := by
  unfold integer
  split
  · exact explained_valid _
  · exact explained_valid _
  · split
    · exact explained_fail _ _
    · split
      · exact explained_fail _ _
      · split
        · exact explained_valid _
        · exact explained_fail _ _
  · exact explained_integerFrom _
  · exact explained_integerFrom _
  · exact explained_fail _ _

theorem explained_natural (d : Document) : (natural d).Explained := by
  have explained := explained_integer d
  unfold natural
  cases read : integer d with
  | valid n =>
      dsimp only
      split
      · exact explained_fail _ d
      · exact explained_valid n
  | invalid problems =>
      rw [read] at explained
      exact fun clean => nomatch explained clean

/-! ## Equal checks -/

/-- Checks are equal if they find the same problems and accept the same values. -/
theorem eq_of_yields {first second : Checked α} (problems : first.problems = second.problems)
    (yields : ∀ holds, first.Yields holds ↔ second.Yields holds) : first = second := by
  cases first with
  | valid value =>
      obtain ⟨other, rfl, same⟩ := (yields (· = value)).mp ⟨value, rfl, rfl⟩
      rw [same]
  | invalid found =>
      cases second with
      | valid value => exact nomatch (yields fun _ => True).mpr ⟨value, rfl, trivial⟩
      | invalid others => exact congrArg invalid problems

theorem map_field (f : α → β) (names : List String) (default : α) (check : Document → Checked α)
    (entries : Entries Document) :
    f <$> field names default check entries =
      field names (f default) (fun d => f <$> check d) entries := by
  unfold field
  cases names.findSome? fun name => (Entries.get? name entries).map (name, ·) with
  | none => rfl
  | some found =>
      dsimp only
      cases check found.2 <;> rfl

/-- A field that is there is checked under its name. -/
theorem field_of_get? {name : String} {default : α} {check : Document → Checked α}
    {entries : Entries Document} {d : Document} (held : Entries.get? name entries = some d) :
    field [name] default check entries = (check d).within name := by
  simp [field, held]

end Checked

end Promptline
