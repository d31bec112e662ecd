import Promptline.Document
import Promptline.Evaluate

/-!
# Issues and events

A template problem is reported as an issue and logged as a warning; it never stops a render.
-/

namespace Promptline

/-- Severity of a logged event. -/
inductive Severity
  /-- Detail for finding faults. -/
  | debug
  /-- Normal progress. -/
  | info
  /-- Something that may need attention. -/
  | warning
  /-- Something that failed. -/
  | error
  deriving DecidableEq, Repr

namespace Severity

/-- Name of a severity. -/
def name : Severity → String
  | debug => "debug"
  | info => "info"
  | warning => "warning"
  | error => "error"

/-- Position on the scale, from the least severe. -/
def rank : Severity → Nat
  | debug => 10
  | info => 20
  | warning => 30
  | error => 40

end Severity

/-- A logged event. -/
structure Event where
  /-- Severity. -/
  severity : Severity
  /-- What happened. -/
  name : String
  /-- Details by name. -/
  fields : Entries Document

/-- Category of an issue. -/
inductive IssueKind
  /-- An expression or a template is malformed. -/
  | parse
  /-- An expression has no value. -/
  | evaluation
  /-- A segment property was rejected. -/
  | properties
  deriving DecidableEq, Repr

namespace IssueKind

/-- Name of a category. -/
def name : IssueKind → String
  | parse => "parse"
  | evaluation => "evaluation"
  | properties => "properties"

end IssueKind

/-- A problem that is reported next to the rendered text. -/
structure Issue where
  /-- Category. -/
  kind : IssueKind
  /-- Description. -/
  message : String
  /-- Source text of the offending expression, action or property. -/
  expression : String
  /-- Identifier of the segment that was being resolved, if any. -/
  segment : Option String
  deriving DecidableEq, Repr

namespace Issue

/-- The issue of a parse error. -/
def ofParseError (segment : Option String) (error : ParseError) : Issue :=
  ⟨.parse, error.message, error.expression, segment⟩

/-- The issue of an evaluation error. -/
def ofEvalError (segment : Option String) (error : EvalError) : Issue :=
  ⟨.evaluation, error.fault.message, error.expression, segment⟩

/-- The issue as entries, in order. -/
def fields (issue : Issue) : Entries Document :=
  [ ("kind", .string issue.kind.name),
    ("message", .string issue.message),
    ("expression", .string issue.expression),
    ("segment", (issue.segment.map Document.string).getD .null) ]

/-- The warning that an issue is logged as. -/
def event (issue : Issue) : Event :=
  ⟨.warning, "template_issue", issue.fields⟩

end Issue

end Promptline
