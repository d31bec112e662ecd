import Promptline.Proofs.Document.Merge

/-!
# Tables laid over one another twice

A table that has taken in a later one holds what the later one brings, so laying the later one over
it again changes nothing.  With what a merged table holds at the end of every path, this gives the
laws of merging.
-/

namespace Promptline

namespace Document

theorem getPath?_append (front back : List String) (d : Document) :
    d.getPath? (front ++ back) = (d.getPath? front).bind (getPath? back) := by
  induction front generalizing d with
  | nil => rfl
  | cons key front ih =>
      rw [List.cons_append, getPath?, getPath?, Option.bind_assoc]
      exact congrArg _ (funext ih)

/-- What a keyed value holds at the end of a path is keyed. -/
theorem Keyed.of_getPath? {d inner : Document} (keyed : d.Keyed) {path : List String}
    (held : d.getPath? path = some inner) : inner.Keyed := by
  intro rest found further
  refine keyed (path ++ rest) found ?_
  rw [getPath?_append, held, Option.bind_some, further]

/-- Entries that are there already are laid over others without effect. -/
theorem mergeEntries_of_absorbed {base later : Entries Document}
    (absorbed : ∀ key value, (key, value) ∈ later → ∃ held, Entries.get? key base = some held ∧
      layOver (some held) value = held) : mergeEntries base later = base := by
  induction later with
  | nil => rw [mergeEntries]
  | cons entry rest ih =>
      obtain ⟨key, value⟩ := entry
      obtain ⟨held, found, same⟩ := absorbed key value List.mem_cons_self
      rw [mergeEntries, found, same, Entries.insert_of_get? found]
      exact ih fun name inner member => absorbed name inner (List.mem_cons_of_mem _ member)

/-- A value that was laid over another is laid over the result without effect. -/
theorem layOver_layOver (earlier : Option Document) {later : Document} (keyed : later.Keyed) :
    layOver (some (layOver earlier later)) later = layOver earlier later := by
  cases isTable : later.isTable with
  | false => rw [layOver_of_not_isTable isTable, layOver_of_not_isTable isTable]
  | true =>
      obtain ⟨inner, shape⟩ := exists_of_isTable isTable
      rw [shape] at keyed ⊢
      rw [layOver_table keyed.nodup earlier, layOver_table keyed.nodup]
      refine congrArg table (mergeEntries_of_absorbed fun key value member => ?_)
      have found := Entries.get?_of_mem keyed.nodup member
      have laid := get?_mergeEntries key ((earlier.map Document.entries).getD []) keyed.nodup
      rw [found] at laid
      -- The recursion is on the values of the later table, which are smaller than it.
      have smaller : sizeOf value < sizeOf later := by
        have inside := List.sizeOf_lt_of_mem member
        rw [shape, table.sizeOf_spec]
        simp at inside
        omega
      exact ⟨_, laid, layOver_layOver _ (keyed.of_get? found)⟩
termination_by sizeOf later

end Document

namespace Table

variable {base later : Table}

/-- An empty table takes in a later one as it is. -/
theorem nil_merge (keyed : (Document.table later).Keyed) : Table.merge [] later = later :=
  Document.mergeEntries_of_fresh keyed.nodup

/-- Merging with the same table again changes nothing. -/
theorem merge_merge (base : Table) (keyed : (Document.table later).Keyed) :
    (base.merge later).merge later = base.merge later := by
  have twice := Document.layOver_layOver (some (.table base)) keyed
  simp only [Document.layOver] at twice
  exact Document.table.inj twice

/-- Nothing but a table has entries. -/
theorem entriesAt_eq_nil {path : List String}
    (other : ∀ held, base.get? path ≠ some (.table held)) : base.entriesAt path = [] := by
  rw [entriesAt]
  cases found : base.get? path with
  | none => rfl
  | some value =>
      cases value with
      | table held => exact absurd found (other held)
      | _ => rfl

/-- Merging, path by path.  A value of the later table that is no table is there afterwards.  Where
the later table has a table there is one afterwards, the same one unless the earlier table has a
table there too.  Where the later table has nothing there is nothing if it has a value on the way
that is no table, and what the earlier table has, if anything, otherwise.  So the second of two
equal merges changes nothing, an empty table makes no difference on either side, and lists are
replaced as a whole. -/
theorem merge_path_by_path (base : Table) (keyed : (Document.table later).Keyed) :
    (∀ path, path ≠ [] →
      (∀ value, later.get? path = some value → value.isTable = false →
        (base.merge later).get? path = some value) ∧
      (∀ inner, later.get? path = some (.table inner) →
        (∃ merged, (base.merge later).get? path = some (.table merged)) ∧
        ((∀ held, base.get? path ≠ some (.table held)) →
          (base.merge later).get? path = some (.table inner))) ∧
      (later.get? path = none →
        (later.Blocks path → (base.merge later).get? path = none) ∧
        (¬ later.Blocks path → (base.merge later).get? path = base.get? path))) ∧
    (base.merge later).merge later = base.merge later ∧
    base.merge [] = base ∧ Table.merge [] later = later ∧
    ∀ path items, later.get? path = some (.list items) →
      (base.merge later).get? path = some (.list items) := by
  refine ⟨fun path nonempty => ?_, merge_merge base keyed, merge_nil base, nil_merge keyed, ?_⟩
  · have laid := @laidOver base later path keyed nonempty
    refine ⟨laid.plain, fun inner found => ⟨⟨_, laid.table inner found⟩, fun other => ?_⟩,
      fun nothing => ⟨laid.blocked, fun unblocked => laid.silent ?_⟩⟩
    · have once : (Document.table inner).Keyed := keyed.of_getPath? found
      rw [laid.table inner found, entriesAt_eq_nil other, nil_merge once]
    · rintro (found | blocked)
      · rw [nothing] at found
        cases found
      · exact unblocked blocked
  · intro path items found
    have nonempty : path ≠ [] := by
      rintro rfl
      cases found
    exact (laidOver keyed nonempty).plain _ found rfl

theorem list_takes_the_place_of_a_table :
    let base : Table := [
      ("render", .table [("marks", .table [("open", .int 1)]), ("strict", .bool true)]),
      ("logging", .int 3)]
    let later : Table := [
      ("render", .table [("marks", .list [.null])]), ("logging", .table [("level", .null)])]
    (Document.table later).Keyed ∧
      (base.merge later).get? ["render", "marks"] = some (.list [.null]) ∧
      (base.merge later).get? ["render", "marks", "open"] = none ∧
      (base.merge later).get? ["render", "strict"] = some (.bool true) ∧
      (base.merge later).get? ["logging"] = some (.table [("level", .null)]) ∧
      (base.merge later).merge later = base.merge later := by
  intro base later
  have plain {d : Document} (other : d.isTable = false) (once : d.NamesOnce) : d.Keyed :=
    Document.keyed_of_not_isTable other once
  have marks := Document.keyed_nil.insert "marks" (plain (d := .list [.null]) rfl trivial)
  have level := Document.keyed_nil.insert "level" (plain (d := .null) rfl trivial)
  have keyed : (Document.table later).Keyed :=
    (Document.keyed_nil.insert "render" marks).insert "logging" level
  have unblocked : ¬ later.Blocks ["render", "strict"] := by
    rw [blocks_cons_iff]
    rintro ⟨-, value, held, other | ⟨inner, rfl, blocked⟩⟩
    · obtain rfl := Option.some.inj held
      cases other
    · obtain rfl := Document.table.inj (Option.some.inj held)
      exact (blocks_cons_iff.mp blocked).1 rfl
  obtain ⟨paths, twice, -, -, lists⟩ := merge_path_by_path base keyed
  have blocked := ((paths ["render", "marks", "open"] (by simp)).2.2 rfl).1
  have kept := ((paths ["render", "strict"] (by simp)).2.2 rfl).2 unblocked
  have replaced := ((paths ["logging"] (by simp)).2.1 _ rfl).2
  exact ⟨keyed, lists _ _ rfl, blocked ⟨["render", "marks"], ["open"], _, rfl, by simp, rfl, rfl⟩,
    kept, replaced (by rintro held ⟨⟩), twice⟩

end Table

end Promptline
