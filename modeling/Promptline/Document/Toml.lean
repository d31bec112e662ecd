import Promptline.Document.Table
import Promptline.Document.Toml.Scalar
import Promptline.Document.Toml.Tree

/-!
# TOML

Reading TOML documents. Statements are headings of tables, headings of lists of tables, and values
under dotted keys. Lists and tables inside one another are read by nested calls, and there is room
for so many of these only.
-/

namespace Promptline.Toml

/-- Drop white space, line ends and comments. -/
def skipLines : Nat → List Char → Except DecodeFault (List Char)
  | 0, cs => .ok cs
  | fuel + 1, cs =>
      match cs.dropWhile isSpaceOrBreak with
      | '#' :: rest => do skipLines fuel (← skipComment ('#' :: rest))
      | rest => .ok rest

/-- Nested calls for what stands in a list. -/
def listCalls : Nat := 2

/-- Nested calls for what stands in a table on one line. -/
def tableCalls : Nat := 3

/-- The nested calls that are enough for reading a text. -/
def calls (cs : List Char) : Nat :=
  listCalls * cs.count '[' + tableCalls * cs.count '\x7b'

/-- The room that is left after a number of nested calls. -/
def enter (calls room : Nat) : Except DecodeFault Nat :=
  if calls ≤ room then .ok (room - calls) else .error .tooDeep

mutual

/-- A value. -/
def value : Nat → Nat → List Char → Except DecodeFault (Document × List Char)
  | 0, _, _ => malformed
  | fuel + 1, room, '[' :: cs => do
      let room ← enter listCalls room
      match ← skipLines cs.length cs with
      | ']' :: after => .ok (.list [], after)
      | rest =>
          let (items, after) ← items fuel room rest
          .ok (.list items, after)
  | fuel + 1, room, '\x7b' :: cs => do
      let room ← enter tableCalls room
      match skip cs with
      | '\x7d' :: after => .ok (.table [], after)
      | rest => inlineTable fuel room [] rest
  | _ + 1, _, cs => scalar cs

/-- The items of a list up to its closing bracket; a comma may follow the last one. -/
def items : Nat → Nat → List Char → Except DecodeFault (List Document × List Char)
  | 0, _, _ => malformed
  | fuel + 1, room, cs => do
      let (item, rest) ← value fuel room cs
      match ← skipLines rest.length rest with
      | ']' :: after => .ok ([item], after)
      | ',' :: rest =>
          match ← skipLines rest.length rest with
          | ']' :: after => .ok ([item], after)
          | rest =>
              let (more, after) ← items fuel room rest
              .ok (item :: more, after)
      | _ => malformed

/-- The entries of a table on one line up to its closing brace. -/
def inlineTable : Nat → Nat → Nodes → List Char → Except DecodeFault (Document × List Char)
  | 0, _, _, _ => malformed
  | fuel + 1, room, nodes, cs => do
      let (path, rest) ← key cs
      match rest with
      | '=' :: rest =>
          let (item, rest) ← value fuel room (skip rest)
          match nodes.assign? none item path with
          | none => malformed
          | some nodes =>
              match skip rest with
              | '\x7d' :: after => .ok (.table (entriesToDocument nodes), after)
              | ',' :: rest => inlineTable fuel room nodes (skip rest)
              | _ => malformed
      | _ => malformed

end

/-- What the statements so far amount to. -/
structure State where
  /-- The tree. -/
  nodes : Nodes := []
  /-- Key of the current heading. -/
  heading : List String := []
  /-- Number of headings. -/
  sections : Nat := 0

/-- The tree with a change, or nothing valid. -/
def change (nodes : Option Nodes) (state : State) : Except DecodeFault State :=
  match nodes with
  | some nodes => .ok { state with nodes := nodes }
  | none => malformed

/-- Start a section under a heading. -/
def startSection (path : List String) (enter : Nat → String → Nodes → Option Nodes)
    (state : State) : Except DecodeFault State :=
  let number := state.sections + 1
  change (Nodes.under? (enter number (path.getLast?.getD "")) path.dropLast state.nodes)
    { state with heading := path, sections := number }

/-- One statement at the start of a line, and the text after it. -/
def statement (room : Nat) (state : State) : List Char → Except DecodeFault (State × List Char)
  | '[' :: '[' :: cs => do
      let (path, rest) ← key (skip cs)
      let state ← startSection path (fun _ => Nodes.extend?) state
      match rest with
      | ']' :: ']' :: after => .ok (state, after)
      | _ => malformed
  | '[' :: cs => do
      let (path, rest) ← key (skip cs)
      let state ← startSection path Nodes.define? state
      match rest with
      | ']' :: after => .ok (state, after)
      | _ => malformed
  | '#' :: cs => .ok (state, '#' :: cs)
  | cs => do
      let (path, rest) ← key cs
      match rest with
      | '=' :: rest =>
          let (item, after) ← value (2 * rest.length + 1) room (skip rest)
          let nodes := Nodes.under? (Nodes.assign? (some state.sections) item path)
            state.heading state.nodes
          .ok (← change nodes state, after)
      | _ => malformed

/-- All statements; each one ends its line. -/
def statements (room : Nat) : Nat → State → List Char → Except DecodeFault State
  | 0, state, _ => .ok state
  | fuel + 1, state, cs =>
      match skip cs with
      | [] => .ok state
      | '\n' :: rest => statements room fuel state rest
      | line => do
          let (state, rest) ← statement room state line
          match ← skipComment (skip rest) with
          | [] => .ok state
          | '\n' :: rest => statements room fuel state rest
          | _ => malformed

/-- Read a TOML document with room for nested calls. -/
def read (room : Nat) (text : String) : Except DecodeFault Table :=
  let cs := Text.replaceAll ['\r', '\n'] ['\n'] text.toList
  (statements room (cs.length + 1) {} cs).map fun state => entriesToDocument state.nodes

end Promptline.Toml
