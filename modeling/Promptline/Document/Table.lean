import Promptline.Document
import Promptline.Text.Pieces

/-!
# Nested tables

Reading and writing at the end of a path of keys, and laying one table over another.
-/

namespace Promptline

/-- A table with text keys. -/
abbrev Table := Entries Document

namespace Document

mutual

/-- A value laid over an earlier one: two tables are merged, anything else replaces it. -/
def layOver (earlier : Option Document) : Document → Document
  | table later =>
      match earlier with
      | some (table base) => table (mergeEntries base later)
      | _ => table later
  | d => d

/-- Lay entries over a table, one after the other. -/
def mergeEntries (base : List (String × Document)) :
    List (String × Document) → List (String × Document)
  | [] => base
  | (key, value) :: rest =>
      mergeEntries (Entries.insert key (layOver (Entries.get? key base) value) base) rest

end

end Document

namespace Table

/-- Lay a table over another: tables on both sides are merged key by key, and any other value of
the later table replaces the earlier one. -/
def merge (earlier later : Table) : Table :=
  Document.mergeEntries earlier later

/-- The table under a key; an empty one if there is none. -/
def child (key : String) (table : Table) : Table :=
  ((Entries.get? key table).map Document.entries).getD []

/-- The value at the end of a path of keys. -/
def get? (path : List String) (table : Table) : Option Document :=
  Document.getPath? path (.table table)

/-- Store a value at the end of a path of keys. Tables are created on the way, also in place of
other values. -/
def set (value : Document) : List String → Table → Table
  | [], table => table
  | [key], table => Entries.insert key value table
  | key :: path, table => Entries.insert key (.table (set value path (child key table))) table

/-- The path that a dotted key names. -/
def path (dotted : String) : List String :=
  Text.split '.' dotted

end Table

end Promptline
