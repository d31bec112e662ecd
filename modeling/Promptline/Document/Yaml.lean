import Promptline.Document.Yaml.Lexer
import Promptline.Document.Yaml.Node
import Promptline.Document.Yaml.Scalar

/-!
# YAML

Reading YAML documents: tokens, nodes, and the data that nodes stand for. A table may take over
the entries of other tables; its own entries come after them and win.
-/

namespace Promptline.Yaml

/-- Whether a text may hold a character. -/
def isAllowed (c : Char) : Bool :=
  let code := c.toNat
  code == 0x09 || code == 0x0A || code == 0x0D || (0x20 ≤ code && code ≤ 0x7E) ||
    code == 0x85 || (0xA0 ≤ code && code ≤ 0xFFFD) || 0x10000 ≤ code

/-- Front of the standard tags. -/
def standardLead : String := "tag:yaml.org,2002:"

/-- The name of a standard tag. -/
def standardName? (tag : String) : Option String :=
  (Text.afterPrefix? standardLead.toList tag.toList).map String.ofList

/-- The text breaks a rule. -/
def malformed {α : Type} : Except DecodeFault α := .error .malformed

/-- The kind of a scalar, if its tag is a standard one for scalars. -/
def kind? (tag : Option String) (plain : Bool) (text : String) : Option ScalarKind :=
  match tag with
  | none => some (if plain then Scalar.kindOf text else .text)
  | some tag => (standardName? tag).bind (Scalar.kinds.lookup ·)

/-- The kind of a key that is a scalar. -/
def keyKind? : Node → Option ScalarKind
  | .scalar tag plain text => kind? tag plain text
  | _ => none

/-- Forms of tables and lists that standard tags name. -/
inductive Form
  /-- A list. -/
  | sequence
  /-- A table. -/
  | mapping
  /-- A table whose keys alone matter. -/
  | set
  /-- A list of single pairs. -/
  | pairs
  deriving DecidableEq, Repr

/-- Forms by the last part of their standard tags. -/
def forms : List (String × Form) := [
  ("seq", .sequence), ("map", .mapping), ("set", .set), ("pairs", .pairs), ("omap", .pairs)]

/-- The form that a tag names, or the given one without a tag. -/
def form? (tag : Option String) (untagged : Form) : Option Form :=
  match tag with
  | none => some untagged
  | some tag => (standardName? tag).bind (forms.lookup ·)

mutual

/-- The entries of a table with those of the tables that it merges in front. -/
def flatten (fuel : Nat) (entries : List (Node × Node)) :
    Except DecodeFault (List (Node × Node)) :=
  match fuel with
  | 0 => malformed
  | fuel + 1 => do
      let merged ← (entries.filter (keyKind? ·.1 == some .merge)).mapM fun entry =>
        mergedEntries fuel entry.2
      .ok (merged.flatten ++ entries.filter (keyKind? ·.1 != some .merge))

/-- The entries that a table takes over from a table, or from a list of tables of which the
first one wins. -/
def mergedEntries (fuel : Nat) (node : Node) : Except DecodeFault (List (Node × Node)) :=
  match fuel with
  | 0 => malformed
  | fuel + 1 =>
      match node with
      | .mapping _ entries => flatten fuel entries
      | .sequence _ items => do
          let all ← items.mapM fun item =>
            match item with
            | .mapping _ entries => flatten fuel entries
            | _ => malformed
          .ok all.reverse.flatten
      | .scalar .. => malformed

end

/-- The number that data stands for as a key, truth values counting as zero and one. -/
def keyNumber? : Document → Option Float
  | .bool b => some (if b then 1.0 else 0.0)
  | .int n => some (Float.ofInt n)
  | .float x => some x
  | _ => none

/-- Whether two keys are the same key. -/
def sameKey (first second : Document) : Bool :=
  match first, second with
  | .null, .null => true
  | .int m, .int n => m == n
  | .string s, .string t => s == t
  | .moment m, .moment n => m == n
  | .date y m d, .date y' m' d' => y == y' && m == m' && d == d'
  | .bytes b, .bytes b' => b == b'
  | first, second =>
      match keyNumber? first, keyNumber? second with
      | some x, some y => x == y
      | _, _ => false

/-- Whether data can be a key. -/
def isKey : Document → Bool
  | .list _ => false
  | .table _ => false
  | .mapping _ => false
  | _ => true

/-- Enter a value under a key, in place of the old one if there is one. -/
def enter (key value : Document) : List (Document × Document) → List (Document × Document)
  | [] => [(key, value)]
  | (other, old) :: rest =>
      if sameKey other key then (other, value) :: rest else (other, old) :: enter key value rest

/-- A table of entries; one with text keys only is told apart. -/
def tableOf (entries : List (Document × Document)) : Document :=
  let texts := entries.filterMap fun
    | (.string key, value) => some (key, value)
    | _ => none
  if texts.length = entries.length then .table texts else .mapping entries

mutual

/-- The data that a node stands for. -/
def construct (fuel : Nat) (node : Node) : Except DecodeFault Document :=
  match fuel with
  | 0 => malformed
  | fuel + 1 =>
      match node with
      | .scalar tag plain text =>
          match kind? tag plain text with
          | some kind => Scalar.value kind text
          | none => malformed
      | .sequence tag items =>
          match form? tag .sequence with
          | some .sequence => (items.mapM (construct fuel)).map .list
          | some .pairs => (items.mapM (pair fuel)).map .list
          | _ => malformed
      | .mapping tag entries =>
          match form? tag .mapping with
          | some .mapping => (constructEntries fuel entries).map tableOf
          | some .set => (constructEntries fuel entries).map fun entries =>
              .list (entries.map (·.1))
          | _ => malformed

/-- A single pair, as a list of two. -/
def pair (fuel : Nat) (node : Node) : Except DecodeFault Document :=
  match fuel with
  | 0 => malformed
  | fuel + 1 =>
      match node with
      | .mapping _ [(key, value)] => do
          let key ← construct fuel key
          let value ← construct fuel value
          .ok (.list [key, value])
      | _ => malformed

/-- The entries of a table; a later value replaces an earlier one. -/
def constructEntries (fuel : Nat) (entries : List (Node × Node)) :
    Except DecodeFault (List (Document × Document)) :=
  match fuel with
  | 0 => malformed
  | fuel + 1 => do
      let flat ← flatten fuel entries
      flat.foldlM (fun table entry => do
        let key ←
          match keyKind? entry.1, entry.1 with
          | some .self, .scalar _ _ text => .ok (.string text)
          | _, node => construct fuel node
        if !isKey key then malformed
        let value ← construct fuel entry.2
        .ok (enter key value table)) []

end

/-- Read a YAML document. An empty text stands for no value. -/
def read (text : String) : Except DecodeFault Document :=
  let cs := text.toList
  if !cs.all isAllowed then malformed
  else match (Lexer.tokens? cs).bind Node.ofTokens? with
    | none => malformed
    | some none => .ok .null
    | some (some node) => construct (4 * cs.length + 8) node

end Promptline.Yaml
