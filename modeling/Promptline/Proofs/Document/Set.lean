import Mathlib.Data.List.Pairwise
import Promptline.Proofs.Document.Merge

/-!
# Values stored at the ends of paths

A value that is stored at the end of a path is found there, everything on the way to it is a table,
and paths that lead elsewhere keep what they had.  A value that is stored again leaves nothing of
the first one.  Values that are stored at paths of which none leads along another can be stored in
any order.
-/

namespace Promptline

namespace Document

/-- Data that differ at most in the order of the keys of their tables. -/
inductive Alike : Document → Document → Prop
  /-- The same data. -/
  | same (d : Document) : Alike d d
  /-- Tables with the same keys and with data under them that are alike. -/
  | table {left right : Entries Document}
      (keys : ∀ key, Option.Rel Alike (Entries.get? key left) (Entries.get? key right)) :
      Alike (table left) (table right)

/-- The same data, or two tables. -/
def Resembles (left right : Document) : Prop :=
  left = right ∨ (left.isTable = true ∧ right.isTable = true)

theorem getPath?_cons_of_table {entries : Entries Document} {key : String} {d : Document}
    (held : Entries.get? key entries = some d) (path : List String) :
    (table entries).getPath? (key :: path) = d.getPath? path := by
  rw [getPath?, get?, Document.entries, held, Option.bind_some]

theorem getPath?_singleton (key : String) (entries : Entries Document) :
    (table entries).getPath? [key] = Entries.get? key entries := by
  rw [getPath?, get?, Document.entries]
  cases Entries.get? key entries <;> rfl

/-- What is related in one way is related in another one, if what is there is. -/
theorem rel_of_rel {α β : Type} {R S : α → β → Prop} {first : Option α} {second : Option β}
    (rel : Option.Rel R first second)
    (inner : ∀ a b, first = some a → second = some b → S a b) : Option.Rel S first second := by
  cases rel with
  | none => exact .none
  | some => exact .some (inner _ _ rfl rfl)

/-- Data that resemble each other at the end of every path are alike. -/
theorem alike_of_resembles (left right : Document)
    (paths : ∀ path, Option.Rel Resembles (left.getPath? path) (right.getPath? path)) :
    Alike left right := by
  obtain rfl | ⟨isTable, alsoTable⟩ : Resembles left right := by
    cases paths [] with
    | some here => exact here
  · exact .same left
  · obtain ⟨entries, shape⟩ := exists_of_isTable isTable
    obtain ⟨others, rfl⟩ := exists_of_isTable alsoTable
    rw [shape] at paths ⊢
    refine .table fun key => ?_
    have here := paths [key]
    rw [getPath?_singleton, getPath?_singleton] at here
    refine rel_of_rel here fun d e first second => ?_
    -- The recursion is on the data under a key, which are smaller than the table.
    have smaller : sizeOf d < sizeOf left := by
      have inside := List.sizeOf_lt_of_mem (Entries.mem_of_get? first)
      rw [shape, table.sizeOf_spec]
      simp at inside
      omega
    refine alike_of_resembles d e fun path => ?_
    have within := paths (key :: path)
    rwa [getPath?_cons_of_table first, getPath?_cons_of_table second] at within
termination_by sizeOf left

end Document

namespace Table

/-- Neither of two paths leads along the other. -/
def Apart (path other : List String) : Prop :=
  ¬ path <+: other ∧ ¬ other <+: path

theorem Apart.symm {path other : List String} (apart : Apart path other) : Apart other path :=
  ⟨apart.2, apart.1⟩

/-- No path leads along two paths that are apart. -/
theorem Apart.not_both {path other whole : List String} (apart : Apart path other)
    (along : path <+: whole) (alsoAlong : other <+: whole) : False :=
  (List.prefix_or_prefix_of_prefix along alsoAlong).elim apart.1 apart.2

/-- Paths stay apart when one of them leads further. -/
theorem Apart.append {path other : List String} (apart : Apart path other) (rest : List String) :
    Apart path (other ++ rest) := by
  exact ⟨fun along => apart.not_both along (List.prefix_append other rest),
    fun along => apart.2 ((List.prefix_append other rest).trans along)⟩

theorem apart_cons_iff {key : String} {path other : List String} :
    Apart (key :: path) (key :: other) ↔ Apart path other := by
  rw [Apart, Apart, List.prefix_cons_inj, List.prefix_cons_inj]

theorem Apart.ne_nil {path other : List String} (apart : Apart path other) : other ≠ [] := by
  rintro rfl
  exact apart.2 List.nil_prefix

/-- Two paths are apart, or one of them is the other or leads to a place on the way to it. -/
theorem apart_or (path other : List String) :
    other <+: path ∨ path <+: other ∨ Apart path other := by
  by_cases along : other <+: path
  · exact .inl along
  · by_cases back : path <+: other
    · exact .inr (.inl back)
    · exact .inr (.inr ⟨back, along⟩)

section Set

variable (value : Document) (values : Table)

/-- A value that is stored further on is stored in the table under the first key. -/
theorem set_cons (key : String) {path : List String} (further : path ≠ []) :
    set value (key :: path) values =
      Entries.insert key (.table (set value path (values.child key))) values := by
  obtain ⟨next, path, rfl⟩ := List.exists_cons_of_ne_nil further
  rw [set]
  exact fun same => absurd same (by simp)

theorem child_set (key : String) {path : List String} (further : path ≠ []) :
    (set value (key :: path) values).child key = set value path (values.child key) := by
  rw [set_cons value values key further]
  exact child_of_table (Entries.get?_insert_self _ _ _)

/-- Where a path leads to something beyond its first key, there is a table under that key. -/
theorem get?_child_of_get? {key : String} {path : List String} (further : path ≠ [])
    {value : Document} {values : Table} (held : values.get? (key :: path) = some value) :
    Entries.get? key values = some (.table (values.child key)) := by
  obtain ⟨next, path, rfl⟩ := List.exists_cons_of_ne_nil further
  rw [get?_cons] at held
  obtain ⟨d, here, inside⟩ := Option.bind_eq_some_iff.mp held
  cases isTable : d.isTable with
  | false =>
      rw [Document.getPath?_cons_of_not_isTable isTable] at inside
      cases inside
  | true =>
      obtain ⟨inner, rfl⟩ := Document.exists_of_isTable isTable
      rw [here, child_of_table here]

/-- A stored value is found at the end of its path, with everything in it. -/
theorem get?_set_append {path : List String} (nonempty : path ≠ []) (rest : List String) :
    (set value path values).get? (path ++ rest) = value.getPath? rest := by
  induction path generalizing values with
  | nil => exact absurd rfl nonempty
  | cons key path ih =>
      cases path with
      | nil => rw [List.singleton_append, get?_cons, set, Entries.get?_insert_self]; rfl
      | cons next path =>
          have further : next :: path ≠ [] := List.cons_ne_nil next path
          have beyond := List.append_ne_nil_of_left_ne_nil further rest
          rw [List.cons_append, get?_cons_child key beyond, child_set value values key further,
            ih _ further]

/-- Paths that are apart from that of a stored value keep what they had. -/
theorem get?_set_of_apart {path other : List String} (apart : Apart path other) :
    (set value path values).get? other = values.get? other := by
  induction path generalizing values other with
  | nil => exact absurd rfl apart.symm.ne_nil
  | cons key path ih =>
      obtain ⟨name, other, rfl⟩ := List.exists_cons_of_ne_nil apart.ne_nil
      by_cases same : name = key
      · subst same
        have beyond := apart_cons_iff.mp apart
        rw [get?_cons_child name beyond.ne_nil, child_set value values name beyond.symm.ne_nil,
          get?_cons_child name beyond.ne_nil, ih _ beyond]
      · rw [get?_cons, get?_cons]
        cases path with
        | nil => rw [set, Entries.get?_insert_of_ne _ _ same]
        | cons next path =>
            rw [set_cons value values key (List.cons_ne_nil next path),
              Entries.get?_insert_of_ne _ _ same]

/-- On the way to a stored value there is a table, which has what a table in its place had, and
the value. -/
theorem get?_set_of_proper {front back : List String} (nonempty : front ≠ [])
    (further : back ≠ []) :
    (set value (front ++ back) values).get? front =
      some (.table (set value back (values.entriesAt front))) := by
  induction front generalizing values with
  | nil => exact absurd rfl nonempty
  | cons key front ih =>
      cases front with
      | nil =>
          rw [List.singleton_append, set_cons value values key further, get?_cons,
            Entries.get?_insert_self, entriesAt_singleton]
          rfl
      | cons next front =>
          have beyond : next :: front ≠ [] := List.cons_ne_nil next front
          rw [List.cons_append, get?_cons_child key beyond,
            child_set value values key (List.append_ne_nil_of_left_ne_nil beyond back),
            entriesAt_cons_child key beyond, ih _ beyond]

/-- A value that is stored where another one was stored leaves nothing of the first one. -/
theorem set_set (second first : Document) (path : List String) (values : Table) :
    set second path (set first path values) = set second path values := by
  induction path generalizing values with
  | nil => rfl
  | cons key path ih =>
      cases path with
      | nil => exact Entries.insert_insert key second first values
      | cons next path =>
          have further : next :: path ≠ [] := List.cons_ne_nil next path
          rw [set_cons second _ key further, child_set first values key further, ih,
            set_cons first values key further, Entries.insert_insert,
            set_cons second values key further]

/-- Storing what is there already changes nothing. -/
theorem set_of_get? {value : Document} {path : List String} {values : Table}
    (held : values.get? path = some value) : set value path values = values := by
  induction path generalizing values with
  | nil => rfl
  | cons key path ih =>
      cases path with
      | nil =>
          rw [get?, Document.getPath?_singleton] at held
          exact Entries.insert_of_get? held
      | cons next path =>
          have further : next :: path ≠ [] := List.cons_ne_nil next path
          have inner : (values.child key).get? (next :: path) = some value := by
            rwa [get?_cons_child key further] at held
          rw [set_cons value values key further, ih inner,
            Entries.insert_of_get? (get?_child_of_get? further held)]

end Set

/-- Store values at the ends of paths, one after the other. -/
def setAll (writes : List (List String × Document)) (values : Table) : Table :=
  writes.foldl (fun values write => set write.2 write.1 values) values

theorem setAll_cons (write : List String × Document) (writes : List (List String × Document))
    (values : Table) :
    setAll (write :: writes) values = setAll writes (set write.2 write.1 values) := rfl

/-- Paths that are apart from those of all stored values keep what they had. -/
theorem get?_setAll_of_apart {writes : List (List String × Document)} {path : List String}
    (apart : ∀ write ∈ writes, Apart write.1 path) (values : Table) :
    (setAll writes values).get? path = values.get? path := by
  induction writes generalizing values with
  | nil => rfl
  | cons write writes ih =>
      obtain ⟨first, others⟩ := List.forall_mem_cons.mp apart
      rw [setAll_cons, ih others, get?_set_of_apart _ _ first]

/-- A path holds a table. -/
def HasTable (values : Table) (path : List String) : Prop :=
  ∃ inner, values.get? path = some (.table inner)

/-- A table stays a table, with other entries, as long as nothing is stored in its place or in
place of a table on the way to it. -/
theorem HasTable.set {values : Table} {front path : List String} (nonempty : front ≠ [])
    (held : values.HasTable front) (value : Document) (beside : ¬ path <+: front) :
    (set value path values).HasTable front := by
  obtain along | ⟨back, rfl⟩ | apart := apart_or front path
  · exact absurd along beside
  · have further : back ≠ [] := by
      rintro rfl
      exact beside (by simp)
    exact ⟨_, get?_set_of_proper value values nonempty further⟩
  · obtain ⟨inner, held⟩ := held
    exact ⟨inner, by rw [get?_set_of_apart _ _ apart.symm, held]⟩

theorem HasTable.setAll {values : Table} {front : List String} (nonempty : front ≠ [])
    (held : values.HasTable front) {writes : List (List String × Document)}
    (beside : ∀ write ∈ writes, ¬ write.1 <+: front) : (setAll writes values).HasTable front := by
  induction writes generalizing values with
  | nil => exact held
  | cons write writes ih =>
      obtain ⟨first, others⟩ := List.forall_mem_cons.mp beside
      exact ih (held.set nonempty write.2 first) others

/-- There is a table on the way to each stored value, if nothing is stored in its place or in
place of a table on the way to it. -/
theorem hasTable_setAll {writes : List (List String × Document)} {front : List String}
    (nonempty : front ≠ []) (beside : ∀ write ∈ writes, ¬ write.1 <+: front)
    (toward : ∃ write ∈ writes, front <+: write.1) (values : Table) :
    (setAll writes values).HasTable front := by
  induction writes generalizing values with
  | nil =>
      obtain ⟨write, member, -⟩ := toward
      cases member
  | cons write writes ih =>
      obtain ⟨first, others⟩ := List.forall_mem_cons.mp beside
      obtain ⟨other, member, back, split⟩ := toward
      rw [setAll_cons]
      obtain rfl | later := List.mem_cons.mp member
      · -- The first write makes the table, and no later one takes its place.
        have further : back ≠ [] := by
          rintro rfl
          exact first (by simp [← split])
        refine HasTable.setAll nonempty ?_ others
        rw [← split]
        exact ⟨_, get?_set_of_proper _ _ nonempty further⟩
      · exact ih others ⟨other, later, back, split⟩ _

/-- Values that are stored at the ends of paths of which none leads along another. -/
structure Scattered (writes : List (List String × Document)) : Prop where
  /-- Every path leads somewhere. -/
  nonempty : ∀ write ∈ writes, write.1 ≠ []
  /-- No path leads along another. -/
  apart : writes.Pairwise fun write other => Apart write.1 other.1

namespace Scattered

variable {writes others : List (List String × Document)}

theorem tail {write : List String × Document} (scattered : Scattered (write :: writes)) :
    Scattered writes :=
  ⟨(List.forall_mem_cons.mp scattered.nonempty).2, (List.pairwise_cons.mp scattered.apart).2⟩

/-- The order of the values does not matter for their paths. -/
theorem perm (scattered : Scattered writes) (same : others.Perm writes) : Scattered others :=
  ⟨fun write member => scattered.nonempty write (same.mem_iff.mp member),
    scattered.apart.perm same.symm fun apart => apart.symm⟩

/-- Every stored value is found at the end of its path, with everything in it. -/
theorem get?_setAll (scattered : Scattered writes) {write : List String × Document}
    (member : write ∈ writes) (rest : List String) (values : Table) :
    (setAll writes values).get? (write.1 ++ rest) = write.2.getPath? rest := by
  induction writes generalizing values with
  | nil => cases member
  | cons first writes ih =>
      rw [setAll_cons]
      obtain rfl | later := List.mem_cons.mp member
      · have beyond := (List.pairwise_cons.mp scattered.apart).1
        have keeps := get?_setAll_of_apart
          fun other held => (beyond other held).symm.append rest
        rw [keeps, get?_set_append _ _ (scattered.nonempty write member)]
      · exact ih scattered.tail later _

/-- Along a path leads that of one value at most. -/
theorem eq_of_prefix (scattered : Scattered writes) {write other : List String × Document}
    {path : List String} (member : write ∈ writes) (along : write.1 <+: path)
    (alsoMember : other ∈ writes) (alsoAlong : other.1 <+: path) : write = other := by
  have : Std.Symm fun write other : List String × Document => Apart write.1 other.1 :=
    ⟨fun _ _ => Apart.symm⟩
  by_contra differ
  exact (scattered.apart.forall member alsoMember differ).not_both along alsoAlong

/-- What is at the end of a path after values were stored in an empty table: something of the
value whose path leads along it, or a table on the way to a value, or else nothing. -/
theorem get?_setAll_cases (scattered : Scattered writes) {path : List String}
    (nonempty : path ≠ []) :
    (∃ write ∈ writes, ∃ rest, write.1 ++ rest = path ∧
        (setAll writes []).get? path = write.2.getPath? rest) ∨
      ((∃ write ∈ writes, path <+: write.1 ∧ path ≠ write.1) ∧ (setAll writes []).HasTable path) ∨
        (∀ write ∈ writes, Apart write.1 path) ∧ (setAll writes []).get? path = none := by
  by_cases along : ∃ write ∈ writes, write.1 <+: path
  · obtain ⟨write, member, rest, split⟩ := along
    exact .inl ⟨write, member, rest, split, split ▸ scattered.get?_setAll member rest []⟩
  · have beside : ∀ write ∈ writes, ¬ write.1 <+: path :=
      fun write member leads => along ⟨write, member, leads⟩
    by_cases toward : ∃ write ∈ writes, path <+: write.1
    · obtain ⟨write, member, leads⟩ := toward
      have proper : path ≠ write.1 := fun same => beside write member (same ▸ List.prefix_rfl)
      exact .inr (.inl ⟨⟨write, member, leads, proper⟩,
        hasTable_setAll nonempty beside ⟨write, member, leads⟩ []⟩)
    · have apart : ∀ write ∈ writes, Apart write.1 path :=
        fun write member => ⟨beside write member, fun leads => toward ⟨write, member, leads⟩⟩
      obtain ⟨key, path, rfl⟩ := List.exists_cons_of_ne_nil nonempty
      exact .inr (.inr ⟨apart, get?_setAll_of_apart apart []⟩)

/-- Values that are stored in an empty table can be stored in any order. -/
theorem alike_of_perm (scattered : Scattered writes) (same : others.Perm writes) :
    Document.Alike (.table (setAll others [])) (.table (setAll writes [])) := by
  refine Document.alike_of_resembles _ _ fun path => ?_
  by_cases nonempty : path = []
  · subst nonempty
    exact .some (.inr ⟨rfl, rfl⟩)
  · change Option.Rel _ ((setAll others []).get? path) ((setAll writes []).get? path)
    obtain ⟨write, member, rest, rfl, held⟩ | ⟨⟨write, member, leads, proper⟩, inner, held⟩ |
      ⟨apart, held⟩ := scattered.get?_setAll_cases nonempty
    · rw [held, (scattered.perm same).get?_setAll (same.mem_iff.mpr member)]
      cases write.2.getPath? rest with
      | none => exact .none
      | some d => exact .some (.inl rfl)
    · have beside : ∀ other ∈ others, ¬ other.1 <+: path := by
        intro other alsoMember along
        obtain rfl := scattered.eq_of_prefix (same.mem_iff.mp alsoMember) (along.trans leads)
          member List.prefix_rfl
        exact proper (leads.eq_of_length_le along.length_le)
      obtain ⟨other, alsoHeld⟩ := hasTable_setAll nonempty beside
        ⟨write, same.mem_iff.mpr member, leads⟩ []
      rw [held, alsoHeld]
      exact .some (.inr ⟨rfl, rfl⟩)
    · -- No value leads here or further, in whatever order they are stored.
      rw [held, get?_setAll_of_apart fun other member => apart other (same.mem_iff.mp member)]
      obtain ⟨key, path, rfl⟩ := List.exists_cons_of_ne_nil nonempty
      exact .none

end Scattered

end Table

end Promptline
