import Promptline.Resolve.Resolver
import Promptline.Segment.Derived
import Promptline.Theme

/-!
# Resolved segments

A segment is resolved against a context in which its own fields are already published. Inside a
block each segment sees the fields of those before it; blocks do not see each other.
-/

namespace Promptline

/-- What segments are resolved with. -/
structure Processor where
  /-- Functions that templates may call. -/
  registry : Registry := .builtin
  /-- What a failed placeholder shows. -/
  marker : ErrorMarker := .source

/-- A segment whose templates have been resolved. -/
structure ResolvedSegment where
  /-- The segment. -/
  segment : Segment
  /-- Identifier that its issues carry. -/
  identifier : String
  /-- Resolved text. -/
  text : String
  /-- Resolved text before it. -/
  before : String
  /-- Resolved text after it. -/
  after : String
  /-- Published fields. -/
  fields : List (String × Value)
  /-- Issues, in order. -/
  issues : List Issue

/-- A block whose segments have been resolved. -/
structure ResolvedBlock where
  /-- Kind of block. -/
  type : String
  /-- Place on the line. -/
  alignment : Alignment
  /-- Whether it starts a new line. -/
  newline : Bool
  /-- Resolved segments, in order. -/
  segments : List ResolvedSegment

namespace Issue

/-- The issue of a rejected property. -/
def ofRejection (identifier : String) (rejected : String × String) : Issue :=
  ⟨.properties, rejected.2, "properties." ++ rejected.1, some identifier⟩

/-- The issue as data. -/
def toDocument (issue : Issue) : Document :=
  .table issue.fields

end Issue

namespace ResolvedSegment

/-- Name of the published fields. -/
def key (resolved : ResolvedSegment) : String :=
  resolved.segment.key

/-- What the segment shows. -/
def displayText (resolved : ResolvedSegment) : String :=
  resolved.before ++ resolved.text ++ resolved.after

/-- The segment as data. -/
def toDocument (resolved : ResolvedSegment) : Document :=
  let segment := resolved.segment
  .table [
    ("type", .string segment.type),
    ("key", .string resolved.key),
    ("style", .string segment.style.name),
    ("foreground", .string segment.foreground),
    ("background", .string segment.background),
    ("leading_diamond", .string segment.leadingDiamond),
    ("trailing_diamond", .string segment.trailingDiamond),
    ("alias", (segment.givenKey.map Document.string).getD .null),
    ("text", .string resolved.text),
    ("prefix", .string resolved.before),
    ("postfix", .string resolved.after),
    ("fields", .table (Value.entriesToDocument resolved.fields)),
    ("issues", .list (resolved.issues.map Issue.toDocument))]

/-- The events of resolving the segment: its issues, and that it is done. -/
def events (resolved : ResolvedSegment) : List Event :=
  resolved.issues.map Issue.event ++
    [⟨.debug, "segment_processed", [
      ("segment", .string resolved.identifier),
      ("type", .string resolved.segment.type),
      ("issues", .int resolved.issues.length)]⟩]

end ResolvedSegment

namespace ResolvedBlock

/-- Issues of all segments, in order. -/
def issues (block : ResolvedBlock) : List Issue :=
  block.segments.flatMap (·.issues)

/-- Events of all segments, in order. -/
def events (block : ResolvedBlock) : List Event :=
  block.segments.flatMap (·.events)

/-- The block as data. -/
def toDocument (block : ResolvedBlock) : Document :=
  .table [
    ("type", .string block.type),
    ("alignment", .string block.alignment.name),
    ("newline", .bool block.newline),
    ("segments", .list (block.segments.map (·.toDocument)))]

end ResolvedBlock

namespace Segment

/-- Whether an optional text is given and not empty. -/
def nonEmpty? (text : Option String) : Option String :=
  text.filter (· != "")

/-- The template of a segment's text: its own, that of its properties, the text of its
properties, or its kind in brackets. -/
def textTemplate (segment : Segment) (properties : Properties) : String :=
  ((nonEmpty? segment.template).orElse fun _ =>
    (nonEmpty? properties.template).orElse fun _ => nonEmpty? properties.text).getD
      ("[" ++ segment.type ++ "]")

end Segment

namespace Processor

/-- Resolve a template; an empty one needs no resolution. -/
def resolveText (processor : Processor) (pass : Pass) (template : String) (cache : Cache) :
    Outcome Resolution :=
  if template = "" then ⟨.ok ⟨"", []⟩, cache, []⟩
  else pass.resolve processor.marker template cache

/-- Resolve the three templates of a segment in a pass that sees its fields. Issues carry the
identifier. -/
def resolveTemplates (processor : Processor) (pass : Pass) (segment : Segment)
    (identifier : String) (properties : Properties) (refused : List Issue) (cache : Cache) :
    Outcome ResolvedSegment :=
  let text := processor.resolveText pass (segment.textTemplate properties) cache
  match text.answer with
  | .error limit => ⟨.error limit, text.cache, refused ++ text.reported⟩
  | .ok shown =>
  let before := processor.resolveText pass properties.before text.cache
  let reported := refused ++ text.reported ++ before.reported
  match before.answer with
  | .error limit => ⟨.error limit, before.cache, reported⟩
  | .ok lead =>
  let after := processor.resolveText pass properties.after before.cache
  let reported := reported ++ after.reported
  match after.answer with
  | .error limit => ⟨.error limit, after.cache, reported⟩
  | .ok tail =>
      ⟨.ok ⟨segment, identifier, shown.text, lead.text, tail.text, pass.scope.fields, reported⟩,
        after.cache, reported⟩

/-- Resolve a segment: reject properties, derive its fields, then resolve its templates. -/
def segment (processor : Processor) (segment : Segment) (identifier : String)
    (context : Context) (cache : Cache) : Outcome ResolvedSegment :=
  let (properties, rejected) :=
    Properties.validate (PropertyKind.ofType segment.type) segment.properties
  let refused := rejected.map (Issue.ofRejection identifier)
  match Derived.fields segment.type context properties with
  | .error limit => ⟨.error limit, cache, refused⟩
  | .ok fields =>
      let pass : Pass := {
        scope := { context := context.withSegment segment.key fields, fields := fields }
        registry := processor.registry
        segment := some identifier }
      processor.resolveTemplates pass segment identifier properties refused cache

/-- Resolve segments from left to right, each one in a context that holds the fields of those
before it. -/
def segments (processor : Processor) (block : Nat) :
    Nat → List Segment → Context → Cache → Outcome (List ResolvedSegment)
  | _, [], _, cache => ⟨.ok [], cache, []⟩
  | position, segment :: rest, context, cache =>
      let identifier := toString block ++ "." ++ toString position ++ ":" ++ segment.key
      let first := processor.segment segment identifier context cache
      match first.answer with
      | .error limit => ⟨.error limit, first.cache, first.reported⟩
      | .ok resolved =>
          let others := processor.segments block (position + 1) rest
            (context.withSegment resolved.key resolved.fields) first.cache
          ⟨others.answer.map (resolved :: ·), others.cache, first.reported ++ others.reported⟩

/-- Resolve the block with the given position. -/
def block (processor : Processor) (position : Nat) (block : Block) (context : Context)
    (cache : Cache) : Outcome ResolvedBlock :=
  let outcome := processor.segments position 0 block.segments context cache
  { outcome with
    answer := outcome.answer.map fun segments =>
      ⟨block.type, block.alignment, block.newline, segments⟩ }

/-- Resolve blocks from the given position on, all in the same context. -/
def blocks (processor : Processor) (context : Context) :
    Nat → List Block → Cache → Outcome (List ResolvedBlock)
  | _, [], cache => ⟨.ok [], cache, []⟩
  | position, next :: rest, cache =>
      let first := processor.block position next context cache
      match first.answer with
      | .error limit => ⟨.error limit, first.cache, first.reported⟩
      | .ok resolved =>
          let others := processor.blocks context (position + 1) rest first.cache
          ⟨others.answer.map (resolved :: ·), others.cache, first.reported ++ others.reported⟩

/-- Resolve a theme. -/
def theme (processor : Processor) (theme : Theme) (context : Context) (cache : Cache) :
    Outcome (List ResolvedBlock) :=
  processor.blocks context 0 theme.blocks cache

end Processor

end Promptline
