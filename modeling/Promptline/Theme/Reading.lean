import Promptline.Theme
import Promptline.Validation.Scalar

/-!
# Reading themes

Checking decoded data for the shape of a theme. Unknown keys are ignored.
-/

namespace Promptline.Theme

open Checked (field optional part required)

mutual

/-- Check that a value consists of what JSON can express. -/
def jsonValue : Document → List Problem
  | .null => []
  | .bool _ => []
  | .int _ => []
  | .float _ => []
  | .string _ => []
  | .list items => (jsonItems 0 items).map fun p => { p with location := "list" :: p.location }
  | .table entries =>
      (jsonEntries entries).map fun p => { p with location := "dict" :: p.location }
  | .mapping entries =>
      (jsonPairs entries).map fun p => { p with location := "dict" :: p.location }
  | d => [{ message := "input was not a valid JSON value", input := d }]

/-- Check the items of a list from a position on. -/
def jsonItems (position : Nat) : List Document → List Problem
  | [] => []
  | item :: items =>
      (jsonValue item).map (fun p => { p with location := toString position :: p.location }) ++
        jsonItems (position + 1) items

/-- Check the entries of a table. -/
def jsonEntries : List (String × Document) → List Problem
  | [] => []
  | (name, value) :: entries =>
      (jsonValue value).map (fun p => { p with location := name :: p.location }) ++
        jsonEntries entries

/-- Check the entries of a table of which some keys are no texts. -/
def jsonPairs : List (Document × Document) → List Problem
  | [] => []
  | (key, value) :: entries =>
      let name := key.keyText.getD ""
      (((Checked.text key).within "[key]").within name).problems ++
      (jsonValue value).map (fun p => { p with location := name :: p.location }) ++
        jsonPairs entries

end

mutual

/-- A value in which all keys are texts. -/
def named : Document → Document
  | .list items => .list (namedItems items)
  | .table entries => .table (namedEntries entries)
  | .mapping entries => .ofPairs (namedPairs entries)
  | d => d

/-- Items in which all keys are texts. -/
def namedItems : List Document → List Document
  | [] => []
  | item :: items => named item :: namedItems items

/-- Entries in which all keys are texts. -/
def namedEntries : List (String × Document) → List (String × Document)
  | [] => []
  | (name, value) :: entries => (name, named value) :: namedEntries entries

/-- The entries whose keys are texts or stand for texts. -/
def namedPairs : List (Document × Document) → List (String × Document)
  | [] => []
  | (key, value) :: entries =>
      (key.text?.map fun name => (name, named value)).toList ++ namedPairs entries

end

/-- Check free-form settings: a table of JSON values under text keys. -/
def properties (d : Document) : Checked (List (String × Document)) :=
  let problems := match d with
    | .table entries => jsonEntries entries
    | .mapping entries => jsonPairs entries
    | _ => [⟨[], "Input should be a valid dictionary", none, d⟩]
  if problems.isEmpty then .valid (named d).entries else .invalid problems

/-- Check a sequence item by item. -/
def sequence {α : Type} (check : Document → Checked α) (d : Document) : Checked (List α) :=
  match d with
  | .list items =>
      Checked.all (fun position item => (check item).within (toString position)) 0 items
  | _ => .fail "Input should be a valid tuple" d

/-- Check a segment. -/
def segment : Document → Checked Segment :=
  part "Segment" fun entries =>
    Segment.mk
      <$> required "type" .nonEmptyText entries
      <*> field ["style"] .plain (.choice Style.options) entries
      <*> field ["foreground"] "" .text entries
      <*> field ["background"] "" .text entries
      <*> field ["leading_diamond"] "" .text entries
      <*> field ["trailing_diamond"] "" .text entries
      <*> field ["template"] none (optional .text) entries
      <*> field ["alias"] none (optional .text) entries
      <*> field ["properties"] [] properties entries

/-- Check a block. -/
def block : Document → Checked Block :=
  part "Block" fun entries =>
    Block.mk
      <$> field ["type"] "prompt" .text entries
      <*> field ["alignment"] .left (.choice Alignment.options) entries
      <*> field ["newline"] false .truth entries
      <*> field ["segments"] [] (sequence segment) entries

/-- Check a theme. -/
def read : Document → Checked Theme :=
  part "ThemeDocument" fun entries =>
    Theme.mk
      <$> field ["blocks"] [] (sequence block) entries
      <*> field ["final_space"] false .truth entries

/-- Text of the refusal of a theme with that many problems. -/
def refusal (count : Nat) : String :=
  "Invalid theme: " ++ toString count ++ " validation error(s)"

end Promptline.Theme
