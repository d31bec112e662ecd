import Promptline.Document.Json

/-!
# What can be written as JSON

Whether data can be written depends on its form and on its integers alone: neither the layout nor
the depth nor the texts in it can make writing fail.
-/

namespace Promptline

namespace Document

mutual

/-- The integers in data, at any depth. -/
def integers : Document → List Int
  | int n => [n]
  | list items => itemIntegers items
  | table entries => entryIntegers entries
  | _ => []

/-- The integers in the items of a sequence. -/
def itemIntegers : List Document → List Int
  | [] => []
  | item :: items => item.integers ++ itemIntegers items

/-- The integers in the values of a table. -/
def entryIntegers : List (String × Document) → List Int
  | [] => []
  | (_, value) :: entries => value.integers ++ entryIntegers entries

end

mutual

/-- Whether JSON has the form of data: there are no bytes in it, and all keys are texts. -/
def isPlain : Document → Bool
  | bytes _ => false
  | mapping _ => false
  | list items => itemsArePlain items
  | table entries => entriesArePlain entries
  | _ => true

/-- Whether JSON has the form of every item of a sequence. -/
def itemsArePlain : List Document → Bool
  | [] => true
  | item :: items => item.isPlain && itemsArePlain items

/-- Whether JSON has the form of every value of a table. -/
def entriesArePlain : List (String × Document) → Bool
  | [] => true
  | (_, value) :: entries => value.isPlain && entriesArePlain entries

end

theorem entryIntegers_mapValues_string (entries : Entries String) :
    entryIntegers (Entries.mapValues .string entries) = [] := by
  induction entries with
  | nil => rfl
  | cons entry entries ih => exact ih

theorem entriesArePlain_mapValues_string (entries : Entries String) :
    entriesArePlain (Entries.mapValues .string entries) = true := by
  induction entries with
  | nil => rfl
  | cons entry entries ih => exact ih

end Document

namespace Json

/-- The integers that a style can write. -/
def Style.Admits (style : Style) (n : Int) : Prop :=
  style.integers = .unbounded ∨ isWord n = true

instance (style : Style) (n : Int) : Decidable (style.Admits n) :=
  inferInstanceAs (Decidable (_ ∨ _))

/-- What writing integers comes to: a text if the style can write all of them, and a failure that
names the reason otherwise. -/
inductive Writes (style : Style) (integers : List Int) : Except WriteFault String → Prop
  /-- All are written. -/
  | done {text : String} (admitted : ∀ n ∈ integers, style.Admits n) :
      Writes style integers (.ok text)
  /-- One of them cannot be written. -/
  | beyond {n : Int} (member : n ∈ integers) (refused : ¬ style.Admits n) :
      Writes style integers (.error .beyondWord)

namespace Writes

variable {style : Style}

theorem nothing (text : String) : Writes style [] (.ok text) :=
  .done (by simp)

/-- Writing one thing after another writes the integers of both. -/
theorem andThen {first second : List Int} {answer : Except WriteFault String}
    {continuation : String → Except WriteFault String} (writes : Writes style first answer)
    (next : ∀ text, Writes style second (continuation text)) :
    Writes style (first ++ second) (answer >>= continuation) := by
  cases writes with
  | beyond member refused => exact .beyond (List.mem_append_left _ member) refused
  | @done text admitted =>
      show Writes style (first ++ second) (continuation text)
      have rest := next text
      cases written : continuation text with
      | ok whole =>
          rw [written] at rest
          cases rest with
          | done also => exact .done (List.forall_mem_append.mpr ⟨admitted, also⟩)
      | error fault =>
          rw [written] at rest
          cases rest with
          | beyond member refused => exact .beyond (List.mem_append_right _ member) refused

/-- A text around what is written changes nothing. -/
theorem within {integers : List Int} {answer : Except WriteFault String}
    (writes : Writes style integers answer) (wrap : String → String) :
    Writes style integers (answer >>= fun text => .ok (wrap text)) := by
  have wrapped := writes.andThen fun text => nothing (wrap text)
  rwa [List.append_nil] at wrapped

theorem ok_iff {integers : List Int} {answer : Except WriteFault String}
    (writes : Writes style integers answer) :
    (∃ text, answer = .ok text) ↔ ∀ n ∈ integers, style.Admits n := by
  cases writes with
  | @done text admitted => exact ⟨fun _ => admitted, fun _ => ⟨text, rfl⟩⟩
  | beyond member refused =>
      exact ⟨fun ⟨_, written⟩ => (nomatch written),
        fun admitted => absurd (admitted _ member) refused⟩

theorem eq_error_iff {integers : List Int} {answer : Except WriteFault String}
    (writes : Writes style integers answer) :
    answer = .error .beyondWord ↔ ¬ ∀ n ∈ integers, style.Admits n := by
  cases writes with
  | done admitted => exact ⟨fun failed => (nomatch failed), fun absent => absurd admitted absent⟩
  | beyond member refused =>
      exact ⟨fun _ admitted => refused (admitted _ member), fun _ => rfl⟩

end Writes

mutual

/-- Data that has a form of JSON is written unless one of its integers cannot be. -/
theorem writes_writeAt (style : Style) (level : Nat) :
    ∀ d : Document, d.isPlain = true → Writes style d.integers (writeAt style level d)
  | .null, _ => .nothing _
  | .bool _, _ => .nothing _
  | .float _, _ => .nothing _
  | .string _, _ => .nothing _
  | .moment _, _ => .nothing _
  | .date _ _ _, _ => .nothing _
  | .clock _ _ _ _, _ => .nothing _
  | .int n, _ => by
      rw [writeAt]
      split
      · next admitted => exact .done (List.forall_mem_singleton.mpr admitted)
      · next refused => exact .beyond (List.mem_singleton_self n) refused
  | .bytes _, plain => by cases plain
  | .mapping _, plain => by cases plain
  | .list [], _ => .nothing _
  | .list (item :: items), plain => by
      obtain ⟨head, tail⟩ := Bool.and_eq_true_iff.mp plain
      exact (writes_writeAt style (level + 1) item head).andThen fun _ =>
        (writes_writeItems style (level + 1) items tail).within _
  | .table [], _ => .nothing _
  | .table ((_, value) :: entries), plain => by
      obtain ⟨head, tail⟩ := Bool.and_eq_true_iff.mp plain
      exact (writes_writeAt style (level + 1) value head).andThen fun _ =>
        (writes_writeEntries style (level + 1) entries tail).within _

theorem writes_writeItems (style : Style) (level : Nat) :
    ∀ items : List Document, Document.itemsArePlain items = true →
      Writes style (Document.itemIntegers items) (writeItems style level items)
  | [], _ => .nothing _
  | item :: items, plain => by
      obtain ⟨head, tail⟩ := Bool.and_eq_true_iff.mp plain
      exact (writes_writeAt style level item head).andThen fun _ =>
        (writes_writeItems style level items tail).within _

theorem writes_writeEntries (style : Style) (level : Nat) :
    ∀ entries : List (String × Document), Document.entriesArePlain entries = true →
      Writes style (Document.entryIntegers entries) (writeEntries style level entries)
  | [], _ => .nothing _
  | (_, value) :: entries, plain => by
      obtain ⟨head, tail⟩ := Bool.and_eq_true_iff.mp plain
      exact (writes_writeAt style level value head).andThen fun _ =>
        (writes_writeEntries style level entries tail).within _

end

/-- Data that has a form of JSON can be written exactly if all its integers can be. -/
theorem writes_write (style : Style) {d : Document} (plain : d.isPlain = true) :
    Writes style d.integers (write style d) :=
  writes_writeAt style 0 d plain

end Json

end Promptline
