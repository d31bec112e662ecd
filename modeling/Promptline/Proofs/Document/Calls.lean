import Promptline.Document.Calls
import Promptline.Proofs.Entries

/-!
# How many calls merging takes

A merged table is nested no more deeply than the two tables that it is made from, so laying tables
over one another takes no more nested calls than copying the deepest of them, and one.
-/

namespace Promptline

namespace Document

/-- Nested calls for copying what may be there. -/
def copyCalls? (earlier : Option Document) : Nat :=
  earlier.elim 0 copyCalls

theorem copyCalls_le_of_get? {key : String} {value : Document} {entries : Entries Document}
    (held : Entries.get? key entries = some value) : value.copyCalls ≤ entryCalls entries := by
  induction entries with
  | nil => cases held
  | cons entry rest ih =>
      obtain ⟨name, first⟩ := entry
      rw [Entries.get?] at held
      rw [entryCalls]
      split at held
      · obtain rfl := Option.some.inj held
        omega
      · have later := ih held
        omega

theorem copyCalls?_get?_le (key : String) (entries : Entries Document) :
    copyCalls? (Entries.get? key entries) ≤ entryCalls entries := by
  cases held : Entries.get? key entries with
  | none => exact Nat.zero_le _
  | some value => exact copyCalls_le_of_get? held

theorem entryCalls_insert_le (key : String) (value : Document) (entries : Entries Document) :
    entryCalls (Entries.insert key value entries) ≤ max value.copyCalls (entryCalls entries) := by
  induction entries with
  | nil => simp [Entries.insert, entryCalls]
  | cons entry rest ih =>
      obtain ⟨name, first⟩ := entry
      rw [Entries.insert]
      split <;> simp only [entryCalls] <;> omega

mutual

/-- A value laid over another is nested no more deeply than one of them. -/
theorem copyCalls_layOver_le (earlier : Option Document) (d : Document) :
    (layOver earlier d).copyCalls ≤ max (copyCalls? earlier) d.copyCalls := by
  cases d with
  | table later =>
      unfold layOver
      split
      · next base =>
          have merged := entryCalls_mergeEntries_le base later
          simp only [copyCalls?, Option.elim, copyCalls]
          omega
      · exact Nat.le_max_right _ _
  | _ => exact Nat.le_max_right _ _

theorem entryCalls_mergeEntries_le (base : Entries Document) (later : List (String × Document)) :
    entryCalls (mergeEntries base later) ≤ max (entryCalls base) (entryCalls later) := by
  cases later with
  | nil =>
      rw [mergeEntries]
      exact Nat.le_max_left _ _
  | cons entry rest =>
      obtain ⟨key, value⟩ := entry
      have laid := copyCalls_layOver_le (Entries.get? key base) value
      have held := copyCalls?_get?_le key base
      have entered := entryCalls_insert_le key (layOver (Entries.get? key base) value) base
      have others := entryCalls_mergeEntries_le
        (Entries.insert key (layOver (Entries.get? key base) value) base) rest
      rw [mergeEntries, entryCalls]
      omega

end

mutual

theorem layCalls_le (earlier : Option Document) (d : Document) :
    layCalls earlier d ≤ 1 + max (copyCalls? earlier) d.copyCalls := by
  cases d with
  | table later =>
      unfold layCalls
      split
      · next base =>
          have merged := mergeCalls_le base later
          simp only [copyCalls?, Option.elim, copyCalls]
          omega
      · omega
  | _ => simp only [layCalls]; omega

theorem mergeCalls_le (base : Entries Document) (later : List (String × Document)) :
    mergeCalls base later ≤ 1 + max (entryCalls base) (entryCalls later) := by
  cases later with
  | nil =>
      rw [mergeCalls]
      exact Nat.zero_le _
  | cons entry rest =>
      obtain ⟨key, value⟩ := entry
      have laid := layCalls_le (Entries.get? key base) value
      have copied := copyCalls_layOver_le (Entries.get? key base) value
      have held := copyCalls?_get?_le key base
      have entered := entryCalls_insert_le key (layOver (Entries.get? key base) value) base
      have others := mergeCalls_le
        (Entries.insert key (layOver (Entries.get? key base) value) base) rest
      rw [mergeCalls, entryCalls]
      omega

end

end Document

namespace Table

theorem copyCalls_merge_le (earlier later : Table) :
    (Document.table (earlier.merge later)).copyCalls ≤
      max (Document.table earlier).copyCalls (Document.table later).copyCalls := by
  have merged := Document.entryCalls_mergeEntries_le earlier later
  simp only [merge, Document.copyCalls]
  omega

/-- Merging takes one call more than copying one of the tables. -/
theorem mergeCalls_le (earlier later : Table) :
    earlier.mergeCalls later ≤
      1 + max (Document.table earlier).copyCalls (Document.table later).copyCalls :=
  Document.layCalls_le (some (.table earlier)) (.table later)

end Table

end Promptline
