import Promptline.Document.Table

/-!
# Nested calls

Tables are copied before they are laid over one another, by a function that calls itself for what
stands in a table or a list. How many of its calls are nested depends on how deeply values are.
-/

namespace Promptline

namespace Document

mutual

/-- Nested calls for copying a value: one for each value, and one for each table or list to go
through what stands in it. -/
def copyCalls : Document → Nat
  | table entries => 2 + entryCalls entries
  | mapping entries => 2 + pairCalls entries
  | list items => 2 + itemCalls items
  | _ => 1

/-- Nested calls for copying the values of a table. -/
def entryCalls : List (String × Document) → Nat
  | [] => 0
  | (_, value) :: rest => max value.copyCalls (entryCalls rest)

/-- Nested calls for copying the values of a table of which some keys are no texts. -/
def pairCalls : List (Document × Document) → Nat
  | [] => 0
  | (_, value) :: rest => max value.copyCalls (pairCalls rest)

/-- Nested calls for copying the items of a list. -/
def itemCalls : List Document → Nat
  | [] => 0
  | item :: rest => max item.copyCalls (itemCalls rest)

end

mutual

/-- Nested calls for laying a value over an earlier one: of two tables the earlier one is copied
first, and anything else is copied in its place. -/
def layCalls (earlier : Option Document) : Document → Nat
  | table later =>
      match earlier with
      | some (table base) => 1 + max (table base).copyCalls (mergeCalls base later)
      | _ => (table later).copyCalls
  | d => d.copyCalls

/-- Nested calls for laying entries over a table, one after the other. -/
def mergeCalls (base : List (String × Document)) : List (String × Document) → Nat
  | [] => 0
  | (key, value) :: rest =>
      max (layCalls (Entries.get? key base) value)
        (mergeCalls (Entries.insert key (layOver (Entries.get? key base) value) base) rest)

end

end Document

/-- Nested calls for laying a table over another. -/
def Table.mergeCalls (earlier later : Table) : Nat :=
  Document.layCalls (some (.table earlier)) (.table later)

end Promptline
