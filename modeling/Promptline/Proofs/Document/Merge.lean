import Promptline.Document.Table
import Promptline.Proofs.Entries

/-!
# Tables laid over one another, path by path

What a merged table holds at the end of a path depends on the later table if that has anything to
say about the path, and on the earlier one if it has not.
-/

namespace Promptline

namespace Document

/-- Whether data is a table. -/
def isTable : Document → Bool
  | table _ => true
  | _ => false

theorem exists_of_isTable {d : Document} (shape : d.isTable = true) :
    ∃ entries, d = table entries := by
  cases d with
  | table entries => exact ⟨entries, rfl⟩
  | _ => cases shape

/-- Data that is no table with keys other than texts, and no table that has a key twice. -/
def NamesOnce : Document → Prop
  | table entries => (Entries.names entries).Nodup
  | mapping _ => False
  | _ => True

/-- Every table at the end of a path has text keys only, each of them once. -/
def Keyed (d : Document) : Prop :=
  ∀ path found, d.getPath? path = some found → found.NamesOnce

theorem getPath?_cons_of_not_isTable {d : Document} (other : d.isTable = false) (key : String)
    (path : List String) : d.getPath? (key :: path) = none := by
  cases d with
  | table entries => cases other
  | _ => rfl

/-- Data that is no table is keyed, unless it is a table with other keys. -/
theorem keyed_of_not_isTable {d : Document} (other : d.isTable = false) (once : d.NamesOnce) :
    d.Keyed := by
  rintro (_ | ⟨key, path⟩) found held
  · obtain rfl := Option.some.inj held
    exact once
  · rw [getPath?_cons_of_not_isTable other] at held
    cases held

theorem Keyed.nodup {entries : Entries Document} (keyed : (table entries).Keyed) :
    (Entries.names entries).Nodup :=
  keyed [] _ rfl

theorem Keyed.of_get? {entries : Entries Document} (keyed : (table entries).Keyed) {key : String}
    {value : Document} (held : Entries.get? key entries = some value) : value.Keyed := by
  intro path found inner
  refine keyed (key :: path) found ?_
  rw [getPath?, get?, Document.entries, held]
  exact inner

/-- A table is keyed if it has each key once and all of its values are keyed. -/
theorem keyed_table {entries : Entries Document} (nodup : (Entries.names entries).Nodup)
    (values : ∀ key value, Entries.get? key entries = some value → value.Keyed) :
    (table entries).Keyed := by
  rintro (_ | ⟨key, path⟩) found held
  · obtain rfl := Option.some.inj held
    exact nodup
  · obtain ⟨value, here, inner⟩ := Option.bind_eq_some_iff.mp held
    exact values key value here path found inner

theorem keyed_nil : (table []).Keyed :=
  keyed_table List.nodup_nil nofun

/-- Entering a keyed value keeps a table keyed. -/
theorem Keyed.insert {entries : Entries Document} (keyed : (table entries).Keyed) (key : String)
    {value : Document} (entered : value.Keyed) :
    (table (Entries.insert key value entries)).Keyed := by
  refine keyed_table (Entries.nodup_names_insert key value keyed.nodup) fun other found held => ?_
  by_cases same : other = key
  · subst same
    rw [Entries.get?_insert_self] at held
    obtain rfl := Option.some.inj held
    exact entered
  · rw [Entries.get?_insert_of_ne _ _ same] at held
    exact keyed.of_get? held

theorem layOver_of_not_isTable {d : Document} (other : d.isTable = false)
    (earlier : Option Document) : layOver earlier d = d := by
  rw [layOver]
  rintro later rfl
  cases other

/-- A table laid over nothing is entered as it is. -/
theorem layOver_none (d : Document) : layOver none d = d := by
  cases d <;> simp [layOver]

/-- Entries laid over others under a key. -/
theorem get?_mergeEntries (key : String) (base : Entries Document) {later : Entries Document}
    (nodup : (Entries.names later).Nodup) :
    Entries.get? key (mergeEntries base later) =
      match Entries.get? key later with
      | some value => some (layOver (Entries.get? key base) value)
      | none => Entries.get? key base := by
  induction later generalizing base with
  | nil => rw [mergeEntries]; rfl
  | cons entry rest ih =>
      obtain ⟨name, value⟩ := entry
      obtain ⟨fresh, nodup⟩ := List.nodup_cons.mp nodup
      rw [mergeEntries, ih _ nodup]
      by_cases same : name = key
      · subst same
        have absent : Entries.get? name rest = none := Entries.get?_eq_none_iff.mpr fresh
        rw [absent, Entries.get?_insert_self, Entries.get?, if_pos rfl]
      · rw [Entries.get?_insert_of_ne _ _ (Ne.symm same), Entries.get?, if_neg same]

/-- Entries laid over others that have none of their names are added at the end. -/
theorem mergeEntries_of_fresh {base later : Entries Document}
    (nodup : (Entries.names (base ++ later)).Nodup) : mergeEntries base later = base ++ later := by
  induction later generalizing base with
  | nil => rw [mergeEntries, List.append_nil]
  | cons entry rest ih =>
      obtain ⟨name, value⟩ := entry
      have apart : name ∉ Entries.names base := by
        rw [Entries.names, List.map_append, List.nodup_append] at nodup
        exact fun member => nodup.2.2 name member name (by simp) rfl
      have fresh := Entries.get?_eq_none_iff.mpr apart
      have apart_later : (Entries.names (base ++ [(name, value)] ++ rest)).Nodup := by
        simpa using nodup
      rw [mergeEntries, fresh, layOver_none, Entries.insert_of_fresh _ fresh, ih apart_later,
        List.append_assoc, List.singleton_append]

/-- A table is laid over the entries of an earlier value, of which only a table has any. -/
theorem layOver_table {later : Entries Document} (nodup : (Entries.names later).Nodup)
    (earlier : Option Document) :
    layOver earlier (table later) =
      table (mergeEntries ((earlier.map Document.entries).getD []) later) := by
  have alone : mergeEntries [] later = later := mergeEntries_of_fresh nodup
  cases earlier with
  | none => rw [layOver_none, Option.map_none, Option.getD_none, alone]
  | some value => cases value <;> simp [layOver, Document.entries, alone]

end Document

namespace Table

open Document (isTable Keyed NamesOnce)

/-- The entries of the table at the end of a path, and none if there is no table. -/
def entriesAt (path : List String) (values : Table) : Table :=
  ((values.get? path).map Document.entries).getD []

/-- A value on the way to the end of a path is no table, so that nothing can be there. -/
def Blocks (values : Table) (path : List String) : Prop :=
  ∃ front back value, path = front ++ back ∧ back ≠ [] ∧ values.get? front = some value ∧
    value.isTable = false

/-- A table holds something at the end of a path, or something on the way that is no table. -/
def Settles (values : Table) (path : List String) : Prop :=
  (values.get? path).isSome ∨ values.Blocks path

theorem get?_cons (key : String) (path : List String) (values : Table) :
    values.get? (key :: path) = (Entries.get? key values).bind (Document.getPath? path) := rfl

/-- Beyond the first key a path leads through the table under that key. -/
theorem get?_cons_child (key : String) {path : List String} (further : path ≠ [])
    (values : Table) : values.get? (key :: path) = (values.child key).get? path := by
  obtain ⟨next, path, rfl⟩ := List.exists_cons_of_ne_nil further
  rw [get?_cons, child]
  cases Entries.get? key values <;> rfl

theorem entriesAt_cons_child (key : String) {path : List String} (further : path ≠ [])
    (values : Table) : values.entriesAt (key :: path) = (values.child key).entriesAt path := by
  rw [entriesAt, get?_cons_child key further, entriesAt]

theorem entriesAt_singleton (key : String) (values : Table) :
    values.entriesAt [key] = values.child key := by
  rw [entriesAt, get?_cons, child]
  cases Entries.get? key values <;> rfl

theorem child_of_table {key : String} {values inner : Table}
    (held : Entries.get? key values = some (.table inner)) : values.child key = inner := by
  rw [child, held]
  rfl

/-- A path is blocked by the value under its first key, or further on in the table there. -/
theorem blocks_cons_iff {values : Table} {key : String} {path : List String} :
    values.Blocks (key :: path) ↔
      path ≠ [] ∧ ∃ value, Entries.get? key values = some value ∧
        (value.isTable = false ∨ ∃ inner, value = .table inner ∧ Blocks inner path) := by
  constructor
  · rintro ⟨_ | ⟨name, front⟩, back, value, split, further, held, other⟩
    · obtain rfl := Option.some.inj held
      cases other
    · obtain ⟨rfl, rfl⟩ := List.cons.inj split
      obtain ⟨first, here, inside⟩ := Option.bind_eq_some_iff.mp held
      refine ⟨by simp [further], first, here, ?_⟩
      cases first with
      | table inner => exact .inr ⟨inner, rfl, front, back, value, rfl, further, inside, other⟩
      | _ => exact .inl rfl
  · rintro ⟨further, value, held, other | ⟨inner, rfl, blocked⟩⟩
    · exact ⟨[key], path, value, rfl, further, by rw [get?_cons, held]; rfl, other⟩
    · obtain ⟨front, back, last, rfl, beyond, inside, other⟩ := blocked
      exact ⟨key :: front, back, last, rfl, beyond, by rw [get?_cons, held]; exact inside, other⟩

/-- Whether a table settles a path is up to the value under its first key. -/
theorem settles_cons_iff {values : Table} {key : String} {path : List String}
    (further : path ≠ []) :
    values.Settles (key :: path) ↔
      ∃ value, Entries.get? key values = some value ∧
        (value.isTable = false ∨ ∃ inner, value = .table inner ∧ Settles inner path) := by
  rw [Settles, blocks_cons_iff, and_iff_right further, get?_cons_child key further, child]
  cases held : Entries.get? key values with
  | none =>
      obtain ⟨next, path, rfl⟩ := List.exists_cons_of_ne_nil further
      simp [get?_cons, Entries.get?]
  | some value =>
      cases value with
      | table inner => simp [Settles, Document.isTable, Document.entries]
      | _ => simp [Document.isTable]

theorem merge_nil (earlier : Table) : earlier.merge [] = earlier := by
  rw [merge, Document.mergeEntries]

section Merge

variable {earlier later : Table} {key : String}

theorem get?_merge_of_none (keyed : (Document.table later).Keyed)
    (absent : Entries.get? key later = none) (path : List String) :
    (earlier.merge later).get? (key :: path) = earlier.get? (key :: path) := by
  rw [get?_cons, get?_cons, merge, Document.get?_mergeEntries key earlier keyed.nodup, absent]

theorem get?_merge_of_not_isTable (keyed : (Document.table later).Keyed) {value : Document}
    (held : Entries.get? key later = some value) (other : value.isTable = false)
    (path : List String) : (earlier.merge later).get? (key :: path) = value.getPath? path := by
  have laid := Document.layOver_of_not_isTable other (Entries.get? key earlier)
  rw [get?_cons, merge, Document.get?_mergeEntries key earlier keyed.nodup, held]
  simp only [laid, Option.bind_some]

theorem get?_merge_of_table (keyed : (Document.table later).Keyed) {inner : Table}
    (held : Entries.get? key later = some (.table inner)) (path : List String) :
    (earlier.merge later).get? (key :: path) = ((earlier.child key).merge inner).get? path := by
  have laid := Document.layOver_table (keyed.of_get? held).nodup (Entries.get? key earlier)
  rw [get?_cons, merge, Document.get?_mergeEntries key earlier keyed.nodup, held]
  simp only [laid, Option.bind_some]
  rfl

/-- What a table that is laid over an earlier one does at the end of a path. -/
structure LaidOver (earlier later : Table) (path : List String) : Prop where
  /-- A plain value of the later table is there. -/
  plain : ∀ value, later.get? path = some value → value.isTable = false →
    (earlier.merge later).get? path = some value
  /-- A table of the later table is laid over what the earlier one has there. -/
  table : ∀ inner, later.get? path = some (.table inner) →
    (earlier.merge later).get? path = some (.table ((earlier.entriesAt path).merge inner))
  /-- Nothing is there if the later table blocks the path. -/
  blocked : later.Blocks path → (earlier.merge later).get? path = none
  /-- The earlier table decides if the later one has nothing to say. -/
  silent : ¬ later.Settles path → (earlier.merge later).get? path = earlier.get? path

theorem laidOver_of_none (keyed : (Document.table later).Keyed)
    (absent : Entries.get? key later = none) (path : List String) :
    LaidOver earlier later (key :: path) := by
  have nothing : later.get? (key :: path) = none := by rw [get?_cons, absent]; rfl
  have passes := @get?_merge_of_none earlier later key keyed absent path
  have unblocked : ¬ later.Blocks (key :: path) := by
    rw [blocks_cons_iff, absent]
    rintro ⟨-, value, ⟨⟩, -⟩
  exact ⟨by simp [nothing], by simp [nothing], fun blocked => absurd blocked unblocked,
    fun _ => passes⟩

theorem laidOver_of_not_isTable (keyed : (Document.table later).Keyed) {value : Document}
    (held : Entries.get? key later = some value) (other : value.isTable = false)
    (path : List String) : LaidOver earlier later (key :: path) := by
  have found : (earlier.merge later).get? (key :: path) = later.get? (key :: path) := by
    rw [get?_merge_of_not_isTable keyed held other, get?_cons, held]
    rfl
  have blocks : later.Blocks (key :: path) ↔ path ≠ [] := by
    rw [blocks_cons_iff, held]
    simp [other]
  have here : later.get? (key :: path) = value.getPath? path := by rw [get?_cons, held]; rfl
  constructor
  · intro result same _
    rw [found, same]
  · intro inner same
    cases path with
    | nil =>
        obtain rfl := Option.some.inj (here.symm.trans same)
        cases other
    | cons next path =>
        rw [here, Document.getPath?_cons_of_not_isTable other] at same
        cases same
  · intro blocked
    obtain ⟨next, path, rfl⟩ := List.exists_cons_of_ne_nil (blocks.mp blocked)
    rw [found, here, Document.getPath?_cons_of_not_isTable other]
  · intro silent
    cases path with
    | nil => exact absurd (.inl (by rw [here]; rfl)) silent
    | cons next path => exact absurd (.inr (blocks.mpr (by simp))) silent

theorem laidOver_singleton (keyed : (Document.table later).Keyed) {inner : Table}
    (held : Entries.get? key later = some (.table inner)) : LaidOver earlier later [key] := by
  have here : later.get? [key] = some (.table inner) := by rw [get?_cons, held]; rfl
  have found := @get?_merge_of_table earlier later key keyed inner held []
  constructor
  · intro value same other
    obtain rfl := Option.some.inj (here.symm.trans same)
    cases other
  · intro result same
    obtain rfl := Document.table.inj (Option.some.inj (here.symm.trans same))
    rw [found, entriesAt_singleton]
    rfl
  · intro blocked
    exact absurd rfl (blocks_cons_iff.mp blocked).1
  · intro silent
    exact absurd (.inl (by rw [here]; rfl)) silent

/-- Beyond a key that holds a table, the tables under the key are laid over one another. -/
theorem LaidOver.cons (keyed : (Document.table later).Keyed) {inner : Table}
    (held : Entries.get? key later = some (.table inner)) {path : List String} (further : path ≠ [])
    (within : LaidOver (earlier.child key) inner path) : LaidOver earlier later (key :: path) := by
  have blocks : later.Blocks (key :: path) ↔ Blocks inner path := by
    rw [blocks_cons_iff, held]
    simp [Document.isTable, further]
  have found := @get?_merge_of_table earlier later key keyed inner held path
  have here : later.get? (key :: path) = get? path inner := by
    rw [get?_cons_child key further, child_of_table held]
  have settles : later.Settles (key :: path) ↔ Settles inner path := by
    rw [Settles, Settles, blocks, here]
  constructor
  · intro value same other
    rw [found]
    exact within.plain value (here ▸ same) other
  · intro result same
    rw [found, entriesAt_cons_child key further]
    exact within.table result (here ▸ same)
  · intro blocked
    rw [found]
    exact within.blocked (blocks.mp blocked)
  · intro silent
    rw [found, get?_cons_child key further]
    exact within.silent fun speaks => silent (settles.mpr speaks)

/-- What a merged table holds at the end of a path is settled by the later table, or else by the
earlier one. -/
theorem laidOver {path : List String} (keyed : (Document.table later).Keyed)
    (nonempty : path ≠ []) : LaidOver earlier later path := by
  induction path generalizing earlier later with
  | nil => exact absurd rfl nonempty
  | cons key path ih =>
      cases held : Entries.get? key later with
      | none => exact laidOver_of_none keyed held path
      | some value =>
          cases isTable : value.isTable with
          | false => exact laidOver_of_not_isTable keyed held isTable path
          | true =>
              obtain ⟨inner, rfl⟩ := Document.exists_of_isTable isTable
              cases path with
              | nil => exact laidOver_singleton keyed held
              | cons next path =>
                  have further : next :: path ≠ [] := List.cons_ne_nil next path
                  exact .cons keyed held further (ih (keyed.of_get? held) further)

end Merge

end Table

end Promptline
