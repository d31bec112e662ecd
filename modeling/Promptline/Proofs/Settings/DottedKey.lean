import Promptline.Proofs.Document.Set
import Promptline.Proofs.Text.Split
import Promptline.Settings

/-!
# Settings under dotted keys

A dotted key is a lens into the table of the settings: what is stored under it is found under it and
under the keys that go on from it, keys that lead elsewhere hold what they held, and a value that is
stored again leaves nothing of the first one.  A table on the way to the value keeps its entries,
and anything else there gives way to a table.
-/

namespace Promptline

namespace Table

theorem path_ne_nil (key : String) : path key ≠ [] :=
  Text.split_ne_nil '.' key

/-- A point between two dotted keys joins their paths. -/
theorem path_append (key further : String) :
    path (key ++ "." ++ further) = path key ++ path further := by
  have point : ".".toList = ['.'] := rfl
  rw [path, path, path, Text.split, Text.split, Text.split, String.toList_append,
    String.toList_append, point, List.append_assoc, List.singleton_append,
    Text.splitOn_append_cons, List.map_append]

end Table

namespace Settings

/-- Settings in whose table a value is stored under a dotted key.  The sections are not read
again. -/
def set (value : Document) (key : String) (settings : Settings) : Settings :=
  { settings with data := Table.set value (Table.path key) settings.data }

/-- What is found under a key that goes on from the key of a stored value is in that value. -/
theorem get?_set_append (value : Document) (settings : Settings) (key further : String) :
    (settings.set value key).get? (key ++ "." ++ further) =
      value.getPath? (Table.path further) := by
  rw [get?, set, Table.path_append]
  exact Table.get?_set_append value settings.data (Table.path_ne_nil key) (Table.path further)

theorem get?_set_self (value : Document) (settings : Settings) (key : String) :
    (settings.set value key).get? key = some value := by
  have found := Table.get?_set_append value settings.data (Table.path_ne_nil key) []
  rwa [List.append_nil] at found

/-- On the way to a stored value there is a table, with the entries of what was in its place. -/
theorem get?_set_front (value : Document) (settings : Settings) (front back : String) :
    (settings.set value (front ++ "." ++ back)).get? front =
      some (.table (Table.set value (Table.path back)
        (settings.data.entriesAt (Table.path front)))) := by
  rw [get?, set, Table.path_append]
  exact Table.get?_set_of_proper value settings.data (Table.path_ne_nil front)
    (Table.path_ne_nil back)

theorem get?_set_of_apart (value : Document) (settings : Settings) {key other : String}
    (apart : Table.Apart (Table.path key) (Table.path other)) :
    (settings.set value key).get? other = settings.get? other :=
  Table.get?_set_of_apart value settings.data apart

theorem set_set (settings : Settings) (second first : Document) (key : String) :
    (settings.set first key).set second key = settings.set second key := by
  rw [set, set, set, Table.set_set]

theorem set_of_get? {value : Document} {key : String} {settings : Settings}
    (held : settings.get? key = some value) : settings.set value key = settings := by
  rw [set, Table.set_of_get? held]

/-- A dotted key is a lens into the table of the settings.  What is stored under it is found under
it, and what is in it under the keys that go on from it.  A table on the way to it keeps its other
entries, and anything else there gives way to a table.  Keys apart from it hold what they held.
Storing another value leaves nothing of the first one, and storing what is there changes nothing. -/
theorem dotted_key_is_a_lens (settings : Settings) (key : String) (value : Document) :
    let stored := settings.set value key
    stored.get? key = some value ∧
      (∀ further, stored.get? (key ++ "." ++ further) = value.getPath? (Table.path further)) ∧
      (∀ front back, key = front ++ "." ++ back →
        stored.get? front = some (.table (Table.set value (Table.path back)
          (settings.data.entriesAt (Table.path front))))) ∧
      (∀ other, Table.Apart (Table.path key) (Table.path other) →
        stored.get? other = settings.get? other) ∧
      (∀ second, stored.set second key = settings.set second key) ∧
      (settings.get? key = some value → stored = settings) := by
  intro stored
  refine ⟨get?_set_self value settings key, get?_set_append value settings key, ?_,
    fun other apart => get?_set_of_apart value settings apart,
    fun second => set_set settings second value key, set_of_get?⟩
  rintro front back rfl
  exact get?_set_front value settings front back

/-- A table takes the place of a text on the way to a value.  A key that held nothing still holds
nothing, and one that held a null still holds it. -/
theorem text_gives_way_to_table :
    let settings : Settings :=
      { data := [("render", .string "plain"), ("logging", .table [("level", .null)])] }
    let value := Document.table [("on", .bool true)]
    let stored := settings.set value "render.marks"
    Table.Apart (Table.path "render.marks") (Table.path "render.strict") ∧
      Table.Apart (Table.path "render.marks") (Table.path "logging.level") ∧
      stored.get? "render.marks" = some value ∧
      stored.get? "render.marks.on" = some (.bool true) ∧
      stored.get? "render" = some (.table [("marks", value)]) ∧
      stored.get? "render.strict" = none ∧
      stored.get? "logging.level" = some .null ∧
      (stored.set .null "render.marks").get? "render.marks.on" = none ∧
      stored.set value "render.marks" = stored := by
  intro settings value stored
  have key : Table.path "render.marks" = ["render", "marks"] := by decide +kernel
  have strict : Table.path "render.strict" = ["render", "strict"] := by decide +kernel
  have level : Table.path "logging.level" = ["logging", "level"] := by decide +kernel
  have beside : Table.Apart (Table.path "render.marks") (Table.path "render.strict") := by
    simp [Table.Apart, key, strict]
  have elsewhere : Table.Apart (Table.path "render.marks") (Table.path "logging.level") := by
    simp [Table.Apart, key, level]
  obtain ⟨found, within, onTheWay, keeps, last, -⟩ :=
    dotted_key_is_a_lens settings "render.marks" value
  refine ⟨beside, elsewhere, found, within "on", onTheWay "render" "marks" rfl, ?_, ?_, ?_, ?_⟩
  · rw [keeps "render.strict" beside]
    rfl
  · rw [keeps "logging.level" elsewhere]
    rfl
  · rw [last]
    exact (dotted_key_is_a_lens settings "render.marks" .null).2.1 "on"
  · exact (dotted_key_is_a_lens stored "render.marks" value).2.2.2.2.2 found

end Settings

end Promptline
