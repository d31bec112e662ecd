import Promptline.Document

/-!
# Trees of TOML statements

Statements build a tree. A table that a heading or a dotted key has defined is closed: later
statements may add to it only from the section that defined it, and values are closed for good.
-/

namespace Promptline.Toml

/-- A node of the tree. -/
inductive Node
  /-- A value, to which nothing can be added. -/
  | leaf (value : Document)
  /-- A table, and the section that defined it; a table that is only on the way to another one is
  not defined yet. -/
  | table (definedIn : Option Nat) (entries : List (String × Node))
  /-- A list of tables, of which the last one is being written. -/
  | tables (earlier : List (List (String × Node))) (last : List (String × Node))

/-- The entries of a table under construction. -/
abbrev Nodes := List (String × Node)

mutual

/-- The value that a node stands for. -/
def Node.toDocument : Node → Document
  | .leaf value => value
  | .table _ entries => .table (entriesToDocument entries)
  | .tables earlier last => .list (tablesToDocument earlier ++ [.table (entriesToDocument last)])

/-- The entries that nodes stand for. -/
def entriesToDocument : List (String × Node) → List (String × Document)
  | [] => []
  | (key, node) :: rest => (key, node.toDocument) :: entriesToDocument rest

/-- The tables that lists of nodes stand for. -/
def tablesToDocument : List (List (String × Node)) → List Document
  | [] => []
  | entries :: rest => .table (entriesToDocument entries) :: tablesToDocument rest

end

namespace Nodes

/-- Enter a value under a dotted key, from a section. Tables on the way are defined by it, unless
another section has defined them. -/
def assign? (now : Option Nat) (value : Document) : List String → Nodes → Option Nodes
  | [], _ => none
  | [key], nodes =>
      if Entries.has key nodes then none else some (Entries.insert key (.leaf value) nodes)
  | key :: path, nodes =>
      match Entries.get? key nodes with
      | none =>
          (assign? now value path []).map fun inner => Entries.insert key (.table now inner) nodes
      | some (.table definedIn inner) =>
          if definedIn.isSome ∧ definedIn ≠ now then none
          else (assign? now value path inner).map fun inner =>
            Entries.insert key (.table now inner) nodes
      | some _ => none

/-- Change the table that a heading names: the last one of a list, and a new one where there is
none. -/
def under? (change : Nodes → Option Nodes) : List String → Nodes → Option Nodes
  | [], nodes => change nodes
  | key :: path, nodes =>
      match Entries.get? key nodes with
      | none =>
          (under? change path []).map fun inner => Entries.insert key (.table none inner) nodes
      | some (.table definedIn inner) =>
          (under? change path inner).map fun inner =>
            Entries.insert key (.table definedIn inner) nodes
      | some (.tables earlier last) =>
          (under? change path last).map fun last =>
            Entries.insert key (.tables earlier last) nodes
      | some (.leaf _) => none

/-- Define a table by a heading. -/
def define? (now : Nat) (key : String) (nodes : Nodes) : Option Nodes :=
  match Entries.get? key nodes with
  | none => some (Entries.insert key (.table (some now) []) nodes)
  | some (.table none inner) => some (Entries.insert key (.table (some now) inner) nodes)
  | some _ => none

/-- Start another table of a list. -/
def extend? (key : String) (nodes : Nodes) : Option Nodes :=
  match Entries.get? key nodes with
  | none => some (Entries.insert key (.tables [] []) nodes)
  | some (.tables earlier last) =>
      some (Entries.insert key (.tables (earlier ++ [last]) []) nodes)
  | some _ => none

end Nodes

end Promptline.Toml
