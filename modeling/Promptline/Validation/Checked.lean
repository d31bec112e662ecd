import Promptline.Document

/-!
# Checked data

Checking data yields a value or every problem found, each with the place where it lies.
-/

namespace Promptline

/-- A problem of a piece of data. -/
structure Problem where
  /-- Names and positions that lead to the data, from the outside in. -/
  location : List String := []
  /-- What is wrong. -/
  message : String
  /-- What would have been accepted, where only a few values are. -/
  expected : Option String := none
  /-- The data. -/
  input : Document

namespace Problem

/-- The location with dots between its parts. -/
def dotted (problem : Problem) : String :=
  String.intercalate "." problem.location

/-- Location and message; a problem of the whole is located at the root. -/
def line (problem : Problem) : String :=
  (if problem.location.isEmpty then "<root>" else problem.dotted) ++ ": " ++ problem.message

end Problem

/-- The result of checking data. -/
inductive Checked (α : Type)
  /-- The data is acceptable and stands for a value. -/
  | valid (value : α)
  /-- Everything that is wrong with the data, in order. -/
  | invalid (problems : List Problem)

namespace Checked

variable {α β : Type}

/-- Apply a function to the value. -/
def map (f : α → β) : Checked α → Checked β
  | valid value => valid (f value)
  | invalid problems => invalid problems

/-- Combine two results; the problems of both are kept. -/
def both (first : Checked (α → β)) (second : Checked α) : Checked β :=
  match first, second with
  | valid f, valid value => valid (f value)
  | valid _, invalid problems => invalid problems
  | invalid problems, valid _ => invalid problems
  | invalid problems, invalid more => invalid (problems ++ more)

instance : Applicative Checked where
  pure := valid
  seq first second := both first (second ())

/-- One problem of a piece of data. -/
def fail (message : String) (input : Document) : Checked α :=
  invalid [{ message := message, input := input }]

/-- Place the problems inside a part of the data. -/
def within (part : String) : Checked α → Checked α
  | valid value => valid value
  | invalid problems => invalid (problems.map fun p => { p with location := part :: p.location })

/-- The problems, if there are any. -/
def problems : Checked α → List Problem
  | valid _ => []
  | invalid problems => problems

/-- The value, if the data is acceptable. -/
def value? : Checked α → Option α
  | valid value => some value
  | invalid _ => none

/-- Check every item; the problems of all of them are kept. -/
def all (check : Nat → α → Checked β) (start : Nat) : List α → Checked (List β)
  | [] => valid []
  | item :: items => both ((check start item).map List.cons) (all check (start + 1) items)

/-- Check data unless it is null. -/
def optional (check : Document → Checked α) : Document → Checked (Option α)
  | .null => valid none
  | d => (check d).map some

/-- Check a field under the first of its names that is present; an absent field has a default. -/
def field (names : List String) (default : α) (check : Document → Checked α)
    (entries : Entries Document) : Checked α :=
  match names.findSome? fun name => (Entries.get? name entries).map (name, ·) with
  | some (name, d) => (check d).within name
  | none => valid default

/-- Check a field that has to be there. -/
def required (name : String) (check : Document → Checked α) (entries : Entries Document) :
    Checked α :=
  match Entries.get? name entries with
  | some d => (check d).within name
  | none => invalid [⟨[name], "Field required", none, .table entries⟩]

end Checked

namespace Document

/-- The entries of a table whose keys are texts. -/
def textEntries? : Document → Option (Entries Document)
  | table entries => some entries
  | mapping entries =>
      some (entries.filterMap fun
        | (string key, value) => some (key, value)
        | _ => none)
  | _ => none

/-- The entries of a table whose keys are texts, also those that are given by their bytes. -/
def namedEntries? : Document → Option (Entries Document)
  | table entries => some entries
  | mapping entries =>
      some (entries.filterMap fun entry => entry.1.text?.map fun name => (name, entry.2))
  | _ => none

end Document

namespace Checked

/-- Check a table of a named shape: its fields are checked, keys that are no texts are ignored. -/
def part {α : Type} (model : String) (check : Entries Document → Checked α) (d : Document) :
    Checked α :=
  match d.textEntries? with
  | some entries => check entries
  | none => fail ("Input should be a valid dictionary or instance of " ++ model) d

end Checked

end Promptline
