import Promptline.Resolve.Resolver

/-!
# Transcripts of resolutions

What resolving a template produces, read off the template without any cache: the pieces, the
issues, the expression texts that are looked up, and the integer that is too long if one stops the
resolution.  Transcripts compose like the parts of a template, and a transcript that has stopped
swallows whatever would follow it.
-/

namespace Promptline

/-- What a resolution produces, apart from the parse cache. -/
structure Transcript where
  /-- Pieces, in order. -/
  pieces : List Piece := []
  /-- Issues, in order. -/
  issues : List Issue := []
  /-- Expression texts that are looked up, in order. -/
  lookups : List String := []
  /-- The integer that is too long, if one stops the resolution. -/
  limit : Option DigitLimit := none

namespace Transcript

/-- What is produced by one resolution and then by another; a stopped resolution has no sequel. -/
def append (first second : Transcript) : Transcript :=
  match first.limit with
  | some _ => first
  | none =>
      { pieces := first.pieces ++ second.pieces
        issues := first.issues ++ second.issues
        lookups := first.lookups ++ second.lookups
        limit := second.limit }

instance : Append Transcript := ⟨append⟩

/-- The result of a computation with the given transcript. -/
def outcome {α : Type} (transcript : Transcript) (result : α) : Except DigitLimit α :=
  match transcript.limit with
  | some limit => .error limit
  | none => .ok result

/-- The text that a transcript shows and the issues in it. -/
def resolution (transcript : Transcript) (marker : ErrorMarker) : Resolution :=
  ⟨Piece.renderAll marker transcript.pieces, transcript.issues⟩

/-- The transcript of looking an expression up. -/
def looking (source : String) : Transcript := { lookups := [source] }

/-- The transcript of meeting an integer that is too long. -/
def stopped (limit : DigitLimit) : Transcript := { limit := some limit }

theorem outcome_eq_ok_iff {α : Type} (transcript : Transcript) (result answer : α) :
    transcript.outcome result = .ok answer ↔ transcript.limit = none ∧ result = answer := by
  rw [outcome]
  cases transcript.limit <;> simp

theorem append_of_stopped {first : Transcript} {limit : DigitLimit}
    (stopped : first.limit = some limit) (second : Transcript) : first ++ second = first := by
  change append first second = first
  simp [append, stopped]

theorem append_of_complete {first : Transcript} (complete : first.limit = none)
    (second : Transcript) :
    first ++ second =
      { pieces := first.pieces ++ second.pieces
        issues := first.issues ++ second.issues
        lookups := first.lookups ++ second.lookups
        limit := second.limit } := by
  change append first second = _
  simp [append, complete]

@[simp]
theorem nil_append (transcript : Transcript) : ({} : Transcript) ++ transcript = transcript := by
  simp [append_of_complete]

@[simp]
theorem append_nil (transcript : Transcript) : transcript ++ ({} : Transcript) = transcript := by
  cases stop : transcript.limit with
  | none => rw [append_of_complete stop]; simp [← stop]
  | some limit => exact append_of_stopped stop _

@[simp]
theorem limit_append (first second : Transcript) :
    (first ++ second).limit = first.limit.or second.limit := by
  cases stop : first.limit with
  | none => simp [append_of_complete stop]
  | some limit => simp [append_of_stopped stop, stop]

theorem append_assoc (first second third : Transcript) :
    first ++ second ++ third = first ++ (second ++ third) := by
  cases stop : first.limit with
  | some limit => simp [append_of_stopped stop]
  | none =>
      cases later : second.limit with
      | none =>
          have both : (first ++ second).limit = none := by simp [stop, later]
          rw [append_of_complete both, append_of_complete stop, append_of_complete stop,
            append_of_complete later]
          simp [List.append_assoc]
      | some limit =>
          have both : (first ++ second).limit = some limit := by simp [stop, later]
          rw [append_of_stopped both, append_of_stopped later]

end Transcript

namespace Expression

/-- What looking an expression up answers: the result of parsing it, where a defect is shown with
the text that was looked up. -/
def lookup (source : String) : Except ExpressionFault Expression :=
  match parse source with
  | .error (.parse error) => .error (.parse ⟨error.fault, source⟩)
  | .error (.tooLong limit) => .error (.tooLong limit)
  | .ok expression => .ok expression

end Expression

namespace Pass

/-- The value of an expression text, the issue that it has instead, or the integer in it that is
too long. -/
def reading (pass : Pass) (source : String) : Except DigitLimit (Except Issue Value) :=
  match Expression.lookup source with
  | .error (.tooLong limit) => .error limit
  | .error (.parse error) => .ok (.error (.ofParseError pass.segment error))
  | .ok expression =>
      match expression.eval pass.scope pass.registry with
      | .error error => .ok (.error (.ofEvalError pass.segment error))
      | .ok value => .ok (.ok value)

/-- Whether a guard holds; one that has no value does not. -/
def guardHolds (pass : Pass) (condition : String) : Bool :=
  match pass.reading condition with
  | .ok (.ok value) => value.isTruthy
  | _ => false

/-- What resolving a placeholder produces. -/
def actionTranscript (pass : Pass) (source body : String) : Transcript :=
  .looking body ++
    match pass.reading body with
    | .error limit => .stopped limit
    | .ok (.error issue) => { pieces := [.failure source], issues := [issue] }
    | .ok (.ok value) =>
        match value.text with
        | .error limit => .stopped limit
        | .ok text => { pieces := [.text text] }

/-- What testing a guard produces. -/
def guardTranscript (pass : Pass) (condition : String) : Transcript :=
  .looking condition ++
    match pass.reading condition with
    | .error limit => .stopped limit
    | .ok (.error issue) => { issues := [issue] }
    | .ok (.ok _) => {}

/-- Whether one of several branches is taken. -/
def takes (pass : Pass) (branches : List Template.Branch) : Bool :=
  branches.any fun branch => pass.guardHolds branch.condition

mutual

/-- What resolving a part of a template produces. -/
def partTranscript (pass : Pass) : Template.Part → Transcript
  | .text text => { pieces := [.text text] }
  | .action source body => pass.actionTranscript source body
  | .conditional branches otherwise =>
      pass.branchesTranscript branches ++
        if pass.takes branches then {} else pass.partsTranscript otherwise

/-- What resolving parts in order produces. -/
def partsTranscript (pass : Pass) : List Template.Part → Transcript
  | [] => {}
  | first :: rest => pass.partTranscript first ++ pass.partsTranscript rest

/-- What testing guards and resolving the first branch whose guard holds produces. -/
def branchesTranscript (pass : Pass) : List Template.Branch → Transcript
  | [] => {}
  | .mk _ condition body :: rest =>
      pass.guardTranscript condition ++
        if pass.guardHolds condition then pass.partsTranscript body
        else pass.branchesTranscript rest

end

/-- What the structural defect of a template produces: an issue, and the remainder as it is. -/
def defectTranscript (pass : Pass) (parsed : Template.Parsed) : Transcript :=
  match parsed.error with
  | some error =>
      { pieces := [.text parsed.remainder], issues := [.ofParseError pass.segment error] }
  | none => {}

/-- What resolving a parsed template produces. -/
def parsedTranscript (pass : Pass) (parsed : Template.Parsed) : Transcript :=
  pass.partsTranscript parsed.parts ++ pass.defectTranscript parsed

/-- What resolving the text of a template produces. -/
def transcript (pass : Pass) (template : String) : Transcript :=
  pass.parsedTranscript (Template.parse template)

theorem defectTranscript_limit (pass : Pass) (parsed : Template.Parsed) :
    (pass.defectTranscript parsed).limit = none := by
  rw [defectTranscript]
  split <;> rfl

theorem partsTranscript_append (pass : Pass) (front back : List Template.Part) :
    pass.partsTranscript (front ++ back) =
      pass.partsTranscript front ++ pass.partsTranscript back := by
  induction front with
  | nil => simp [partsTranscript]
  | cons first rest ih =>
      rw [List.cons_append, partsTranscript, partsTranscript, ih, Transcript.append_assoc]

end Pass

end Promptline
