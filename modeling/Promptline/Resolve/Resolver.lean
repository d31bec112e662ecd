import Promptline.Resolve.Cache
import Promptline.Resolve.Issue

/-!
# Resolving templates

A template is resolved into pieces: text, and placeholders that failed. What a failed
placeholder shows is decided only when the pieces are put together, so the pieces and the issues
do not depend on it.
-/

namespace Promptline

/-- What a failed placeholder shows. -/
inductive ErrorMarker
  /-- The placeholder as written. -/
  | source
  /-- Nothing. -/
  | empty
  deriving DecidableEq, Repr

namespace ErrorMarker

/-- Name of a marker. -/
def name : ErrorMarker → String
  | source => "source"
  | empty => "empty"

end ErrorMarker

/-- A piece of resolved text. -/
inductive Piece
  /-- Text to show. -/
  | text (text : String)
  /-- A placeholder that failed, as written. -/
  | failure (source : String)
  deriving DecidableEq, Repr

namespace Piece

/-- What a piece shows. -/
def render (marker : ErrorMarker) : Piece → String
  | text s => s
  | failure source =>
      match marker with
      | .source => source
      | .empty => ""

/-- What a sequence of pieces shows. -/
def renderAll (marker : ErrorMarker) (pieces : List Piece) : String :=
  String.join (pieces.map (render marker))

end Piece

/-- What has been produced so far by resolving a template. -/
structure Progress where
  /-- The parse cache. -/
  cache : Cache
  /-- Pieces, the last one first. -/
  pieces : List Piece := []
  /-- Issues, the last one first. -/
  issues : List Issue := []

/-- A computation that produces pieces and issues; only an integer that is too long stops it. -/
abbrev Resolving (α : Type) := ExceptT DigitLimit (StateM Progress) α

namespace Resolving

/-- Add a piece. -/
def emit (piece : Piece) : Resolving Unit :=
  modify fun progress => { progress with pieces := piece :: progress.pieces }

/-- Report an issue. -/
def report (issue : Issue) : Resolving Unit :=
  modify fun progress => { progress with issues := issue :: progress.issues }

/-- Look an expression up in the cache. -/
def expression (source : String) : Resolving (Except ExpressionFault Expression) :=
  modifyGet fun progress =>
    let (answer, cache) := progress.cache.expression source
    (answer, { progress with cache := cache })

end Resolving

/-- What templates are resolved with. -/
structure Pass where
  /-- The names that expressions see. -/
  scope : Scope
  /-- The functions that expressions may call. -/
  registry : Registry
  /-- Identifier of the segment that is being resolved, if any. -/
  segment : Option String := none

namespace Pass

open Resolving

/-- The value of an expression, or the issue that it has instead. -/
def value (pass : Pass) (source : String) : Resolving (Except Issue Value) := do
  match ← expression source with
  | .error (.tooLong limit) => throw limit
  | .error (.parse error) => return .error (.ofParseError pass.segment error)
  | .ok expression =>
      match expression.eval pass.scope pass.registry with
      | .error error => return .error (.ofEvalError pass.segment error)
      | .ok value => return .ok value

/-- Resolve a placeholder. -/
def action (pass : Pass) (source body : String) : Resolving Unit := do
  match ← pass.value body with
  | .error issue =>
      report issue
      emit (.failure source)
  | .ok value =>
      match value.text with
      | .ok text => emit (.text text)
      | .error limit => throw limit

/-- Whether a guard holds; one that fails does not. -/
def holds (pass : Pass) (condition : String) : Resolving Bool := do
  match ← pass.value condition with
  | .error issue =>
      report issue
      return false
  | .ok value => return value.isTruthy

mutual

/-- Resolve a part of a template. -/
def part (pass : Pass) : Template.Part → Resolving Unit
  | .text text => emit (.text text)
  | .action source body => pass.action source body
  | .conditional branches otherwise => do
      if ← pass.branches branches then return
      pass.parts otherwise

/-- Resolve parts in order. -/
def parts (pass : Pass) : List Template.Part → Resolving Unit
  | [] => return
  | first :: rest => do
      pass.part first
      pass.parts rest

/-- Resolve the first branch whose guard holds, and tell whether there is one. -/
def branches (pass : Pass) : List Template.Branch → Resolving Bool
  | [] => return false
  | .mk _ condition body :: rest => do
      if ← pass.holds condition then
        pass.parts body
        return true
      else pass.branches rest

end

/-- Resolve a template; its remainder is kept as it is. -/
def template (pass : Pass) (parsed : Template.Parsed) : Resolving Unit := do
  pass.parts parsed.parts
  match parsed.error with
  | some error =>
      report (.ofParseError pass.segment error)
      emit (.text parsed.remainder)
  | none => return

/-- Resolve the text of a template. -/
def source (pass : Pass) (template : String) : Resolving Unit := do
  let parsed ← modifyGet fun (progress : Progress) =>
    let (parsed, cache) := progress.cache.template template
    (parsed, { progress with cache := cache })
  pass.template parsed

end Pass

/-- Resolved text with the issues met while producing it. -/
structure Resolution where
  /-- The text. -/
  text : String
  /-- The issues, in order. -/
  issues : List Issue
  deriving DecidableEq, Repr

/-- Outcome of a run that shares a cache: the answer, the cache afterwards, and the issues that
were reported, also by a run without an answer. -/
structure Outcome (α : Type) where
  /-- The answer. -/
  answer : Except DigitLimit α
  /-- The cache afterwards. -/
  cache : Cache
  /-- The issues reported on the way. -/
  reported : List Issue

namespace Pass

/-- The pieces of a template. -/
def pieces (pass : Pass) (template : String) (cache : Cache) : Outcome (List Piece) :=
  let (answer, progress) := (pass.source template).run.run { cache := cache }
  ⟨answer.map fun _ => progress.pieces.reverse, progress.cache, progress.issues.reverse⟩

/-- The text and the issues of a template. -/
def resolve (pass : Pass) (marker : ErrorMarker) (template : String) (cache : Cache) :
    Outcome Resolution :=
  let outcome := pass.pieces template cache
  { outcome with
    answer := outcome.answer.map fun pieces =>
      ⟨Piece.renderAll marker pieces, outcome.reported⟩ }

end Pass

end Promptline
