import Promptline.Proofs.Document.Merge
import Promptline.Settings.Variables

/-!
# Tables of environment variables

Whatever variables hold, the table that they are set in has each key once at every level.
-/

namespace Promptline

namespace Document

/-- Entering keyed values one after the other keeps a table keyed. -/
theorem Keyed.overlay {entries later : Entries Document} (keyed : (table entries).Keyed)
    (entered : ∀ entry ∈ later, entry.2.Keyed) : (table (Entries.overlay entries later)).Keyed := by
  induction later generalizing entries with
  | nil => exact keyed
  | cons entry later ih =>
      have first := keyed.insert entry.1 (entered entry List.mem_cons_self)
      exact ih first fun other member => entered other (List.mem_cons_of_mem _ member)

theorem Keyed.entries {d : Document} (keyed : d.Keyed) : (table d.entries).Keyed := by
  cases d with
  | table entries => exact keyed
  | _ => exact keyed_nil

end Document

namespace Json

/-- What a reader reads, if it reads anything, has a property. -/
def Finds {α : Type} (Holds : α → Prop) (reading : Option (α × List Char)) : Prop :=
  ∀ result rest, reading = some (result, rest) → Holds result

section Finds

variable {α β : Type} {P : α → Prop} {Q : β → Prop}

theorem finds_anything (reading : Option (α × List Char)) : Finds (fun _ => True) reading :=
  fun _ _ _ => trivial

theorem Finds.some {result : α} {rest : List Char} (holds : P result) :
    Finds P (some (result, rest)) := by
  intro _ _ same
  rwa [← (Prod.mk.inj (Option.some.inj same)).1]

theorem Finds.map {f : α × List Char → β × List Char} {reading : Option (α × List Char)}
    (finds : Finds P reading) (keeps : ∀ result rest, P result → Q (f (result, rest)).1) :
    Finds Q (reading.map f) := by
  intro result rest found
  obtain ⟨⟨first, after⟩, here, same⟩ := Option.map_eq_some_iff.mp found
  have holds := keeps first after (finds first after here)
  rwa [same] at holds

theorem Finds.bind {reading : Option (α × List Char)}
    {next : α × List Char → Option (β × List Char)} (finds : Finds P reading)
    (continues : ∀ result rest, P result → Finds Q (next (result, rest))) :
    Finds Q (reading >>= next) := by
  intro result rest found
  obtain ⟨⟨first, after⟩, here, later⟩ := Option.bind_eq_some_iff.mp found
  exact continues first after (finds first after here) result rest later

end Finds

theorem double?_keyed (integers : Integers) (text rest : List Char) :
    Finds Document.Keyed ((double? integers text).map (·, rest)) := by
  intro d after found
  obtain ⟨value, read, same⟩ := Option.map_eq_some_iff.mp found
  obtain ⟨rfl, -⟩ := Prod.mk.inj same
  unfold double? at read
  split at read
  · split at read
    · cases read
    · obtain rfl := Option.some.inj read
      exact Document.keyed_of_not_isTable rfl trivial
  · cases read

theorem number?_keyed (integers : Integers) (cs : List Char) :
    Finds Document.Keyed (number? integers cs) := by
  unfold number?
  extract_lets sign whole fraction exponent length text rest
  split
  · exact nofun
  · split
    · exact double?_keyed integers text rest
    · split
      extract_lets magnitude n
      split
      · exact .some (Document.keyed_of_not_isTable rfl trivial)
      · exact double?_keyed integers text rest

/-- What the readers of values find with a given fuel. -/
structure ReadersFind (integers : Integers) (fuel : Nat) : Prop where
  /-- Values are keyed. -/
  value : ∀ depth cs, Finds Document.Keyed (value? integers fuel depth cs)
  /-- The values of members are keyed. -/
  members : ∀ depth cs,
    Finds (fun members => ∀ member ∈ members, member.2.Keyed) (members? integers fuel depth cs)

namespace ReadersFind

variable {integers : Integers} {fuel : Nat} (find : ReadersFind integers fuel)

include find

theorem value_succ (depth : Nat) (cs : List Char) :
    Finds Document.Keyed (value? integers (fuel + 1) depth cs) := by
  have plain {d : Document} := @Document.keyed_of_not_isTable d
  unfold value?
  split
  · exact .some (plain rfl trivial)
  · exact .some (plain rfl trivial)
  · exact .some (plain rfl trivial)
  · exact (finds_anything _).map fun _ _ _ => plain rfl trivial
  · split
    · exact nofun
    · split
      · exact .some (plain rfl trivial)
      · exact (finds_anything _).map fun _ _ _ => plain rfl trivial
  · split
    · exact nofun
    · split
      · exact .some Document.keyed_nil
      -- A later member replaces an earlier one of its name.
      · exact (find.members _ _).map fun read rest keyed => Document.keyed_nil.overlay keyed
  · exact number?_keyed _ _

theorem members_succ (depth : Nat) (cs : List Char) :
    Finds (fun members => ∀ member ∈ members, member.2.Keyed)
      (members? integers (fuel + 1) depth cs) := by
  unfold members?
  split
  · refine (finds_anything (string? _)).bind fun name rest _ => ?_
    simp only
    split
    · refine (find.value depth _).bind fun value rest keyed => ?_
      simp only
      split
      · refine (find.members depth _).bind fun others after later => .some ?_
        exact List.forall_mem_cons.mpr ⟨keyed, later⟩
      · exact .some (List.forall_mem_singleton.mpr keyed)
      · exact nofun
    · exact nofun
  · exact nofun

end ReadersFind

theorem readers_find (integers : Integers) (fuel : Nat) : ReadersFind integers fuel := by
  induction fuel with
  | zero => exact ⟨nofun, nofun⟩
  | succ fuel ih => exact ⟨ih.value_succ, ih.members_succ⟩

theorem readStructure?_keyed {text : String} {d : Document} (found : readStructure? text = some d) :
    d.Keyed := by
  have read : ∀ d, read? .words text = some d → d.Keyed := by
    intro d found
    unfold read? at found
    extract_lets cs at found
    split at found
    · next value rest here =>
        split at found
        · obtain rfl := Option.some.inj found
          exact (readers_find .words _).value _ _ _ _ here
        · cases found
    · cases found
  unfold readStructure? at found
  split at found
  · next here =>
      obtain rfl := Option.some.inj found
      exact read _ here
  · next here =>
      obtain rfl := Option.some.inj found
      exact read _ here
  · cases found

end Json

namespace Table

theorem child_keyed {values : Table} (keyed : (Document.table values).Keyed) (key : String) :
    (Document.table (values.child key)).Keyed := by
  rw [child]
  cases held : Entries.get? key values with
  | none => exact Document.keyed_nil
  | some value => exact (keyed.of_get? held).entries

/-- Storing a keyed value keeps a table keyed. -/
theorem set_keyed {value : Document} (entered : value.Keyed) {path : List String} {values : Table}
    (keyed : (Document.table values).Keyed) : (Document.table (set value path values)).Keyed := by
  induction path generalizing values with
  | nil => exact keyed
  | cons key path ih =>
      cases path with
      | nil => exact keyed.insert key entered
      | cons next path => exact keyed.insert key (ih (child_keyed keyed key))

end Table

namespace Settings

theorem valueOf_keyed (raw : String) : (valueOf raw).Keyed := by
  have plain {d : Document} := @Document.keyed_of_not_isTable d
  unfold valueOf
  extract_lets lowered
  split
  · exact plain rfl trivial
  · split
    · exact plain rfl trivial
    · split
      · exact plain rfl trivial
      · split
        · exact plain rfl trivial
        · cases found : structured? raw with
          | none => exact plain rfl trivial
          | some d =>
              unfold structured? at found
              extract_lets cs at found
              split at found
              · exact Json.readStructure?_keyed found
              · cases found

/-- The settings in environment variables form a table with each key once. -/
theorem ofVariables_keyed (lead : String) (environment : List (String × String)) :
    (Document.table (ofVariables lead environment)).Keyed := by
  unfold ofVariables
  generalize start : ([] : Table) = values
  have keyed : (Document.table values).Keyed := start ▸ Document.keyed_nil
  clear start
  induction environment generalizing values with
  | nil => exact keyed
  | cons entry rest ih =>
      refine ih _ ?_
      simp only
      split
      · exact Table.set_keyed (valueOf_keyed entry.2) keyed
      · exact keyed

end Settings

end Promptline
