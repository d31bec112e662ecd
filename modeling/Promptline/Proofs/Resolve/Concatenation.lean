import Mathlib
import Promptline.Proofs.Resolve.Session
import Promptline.Proofs.Template.Concatenation

/-!
# Resolving concatenations

Behind a template without a structural defect another one is resolved as if alone: the text is the
text of both, and the issues are those of both, except for the offsets that are quoted for an action
or a comment without an end.
-/

namespace Promptline

/-- An issue of a template that stands at another place: only the offset of an action or a comment
without an end is another one. -/
structure Issue.Moved (distance : Nat) (issue moved : Issue) : Prop where
  /-- The category stays. -/
  kind : moved.kind = issue.kind
  /-- The source text stays. -/
  expression : moved.expression = issue.expression
  /-- The segment stays. -/
  segment : moved.segment = issue.segment
  /-- The description stays, or the offset in it is moved. -/
  message : moved.message = issue.message ∨
    ∃ what ∈ ["unclosed action", "unclosed comment"], ∃ offset,
      issue.message = ParseFault.atOffset what offset ∧
        moved.message = ParseFault.atOffset what (offset + distance)

theorem Issue.Moved.refl (distance : Nat) (issue : Issue) : Issue.Moved distance issue issue :=
  ⟨rfl, rfl, rfl, .inl rfl⟩

theorem Issue.moved_ofParseError (distance : Nat) (segment : Option String) (error : ParseError) :
    Issue.Moved distance (.ofParseError segment error)
      (.ofParseError segment (error.moved distance)) := by
  obtain ⟨fault, expression⟩ := error
  refine ⟨rfl, rfl, rfl, ?_⟩
  cases fault with
  | unclosedAction offset => exact .inr ⟨_, List.mem_cons_self, offset, rfl, rfl⟩
  | unclosedComment offset => exact .inr ⟨_, by simp, offset, rfl, rfl⟩
  | _ => exact .inl rfl

theorem Piece.renderAll_append (marker : ErrorMarker) (front back : List Piece) :
    renderAll marker (front ++ back) = renderAll marker front ++ renderAll marker back := by
  simp [renderAll, String.join_eq]

/-- What one resolution gives and then another. -/
def Resolution.append (first second : Resolution) : Resolution :=
  ⟨first.text ++ second.text, first.issues ++ second.issues⟩

instance : Append Resolution := ⟨Resolution.append⟩

theorem Resolution.text_append (first second : Resolution) :
    (first ++ second).text = first.text ++ second.text :=
  rfl

theorem Resolution.append_assoc (first second third : Resolution) :
    first ++ second ++ third = first ++ (second ++ third) :=
  congrArg₂ Resolution.mk String.append_assoc (List.append_assoc _ _ _)

namespace Transcript

theorem resolution_append {first : Transcript} (complete : first.limit = none)
    (second : Transcript) (marker : ErrorMarker) :
    (first ++ second).resolution marker = first.resolution marker ++ second.resolution marker := by
  rw [append_of_complete complete]
  simp only [resolution, Piece.renderAll_append]
  rfl

theorem resolution_text (text : String) (marker : ErrorMarker) :
    ({ pieces := [.text text] } : Transcript).resolution marker = ⟨text, []⟩ := by
  simp [resolution, Piece.renderAll, Piece.render, String.join_eq]

end Transcript

namespace Pass

variable (pass : Pass)

/-- Parts that are joined show what both show, with the issues of both. -/
theorem partsTranscript_of_joined {first second whole : List Template.Part}
    (joined : Template.JoinedParts first second whole)
    (first_complete : (pass.partsTranscript first).limit = none)
    (second_complete : (pass.partsTranscript second).limit = none) :
    (pass.partsTranscript whole).limit = none ∧
      ∀ marker,
        (pass.partsTranscript whole).resolution marker =
          (pass.partsTranscript first).resolution marker ++
            (pass.partsTranscript second).resolution marker := by
  rcases joined with rfl | ⟨front, left, right, back, rfl, rfl, rfl⟩
  · rw [partsTranscript_append]
    refine ⟨by simp [first_complete, second_complete], fun marker => ?_⟩
    exact Transcript.resolution_append first_complete _ marker
  · simp only [partsTranscript_append, partsTranscript, partTranscript, Transcript.append_nil]
      at first_complete second_complete ⊢
    have front_complete : (pass.partsTranscript front).limit = none := by
      simpa using first_complete
    have back_complete : (pass.partsTranscript back).limit = none := by
      simpa using second_complete
    refine ⟨by simp [front_complete, back_complete], fun marker => ?_⟩
    have together : (⟨left ++ right, []⟩ : Resolution) = ⟨left, []⟩ ++ ⟨right, []⟩ := rfl
    rw [Transcript.resolution_append front_complete, Transcript.resolution_append rfl,
      Transcript.resolution_append front_complete, Transcript.resolution_append rfl]
    simp only [Transcript.resolution_text, together, Resolution.append_assoc]

/-- Moving a template moves only the offset that the issue of its defect quotes. -/
theorem defectTranscript_after (parsed : Template.Parsed) (distance : Nat)
    (whole : Template.Parsed) (error : whole.error = parsed.error.map (ParseError.moved distance))
    (remainder : whole.remainder = parsed.remainder) (marker : ErrorMarker) :
    ((pass.defectTranscript whole).resolution marker).text =
        ((pass.defectTranscript parsed).resolution marker).text ∧
      List.Forall₂ (Issue.Moved distance) ((pass.defectTranscript parsed).resolution marker).issues
        ((pass.defectTranscript whole).resolution marker).issues := by
  simp only [defectTranscript, error, remainder]
  cases parsed.error with
  | none => exact ⟨rfl, .nil⟩
  | some error => exact ⟨rfl, .cons (Issue.moved_ofParseError distance pass.segment error) .nil⟩

/-- Resolving is a homomorphism for concatenation, after any sessions: behind a template without a
structural defect, another one gives its own text and its own issues, where only the offset of an
action or a comment without an end is another one, and its own remainder. -/
theorem resolve_append {front back : String} (complete : (Template.parse front).error = none)
    (unmarked_front : Template.Unmarked (Template.scan front).items)
    (unmarked_back : Template.Unmarked (Template.scan back).items)
    (apart : ¬ (front.toList.getLast? = some '{' ∧ back.toList.head? = some '{'))
    {marker : ErrorMarker} {before between : List Session.Step} {first second : Resolution}
    (answer_front :
      (pass.resolve marker front (Session.cacheAfter before)).answer = .ok first)
    (answer_back :
      (pass.resolve marker back (Session.cacheAfter between)).answer = .ok second)
    (history : List Session.Step) :
    (∃ issues,
      (pass.resolve marker (front ++ back) (Session.cacheAfter history)).answer =
          .ok ⟨first.text ++ second.text, first.issues ++ issues⟩ ∧
        List.Forall₂ (Issue.Moved front.length) second.issues issues) ∧
      (Template.parse (front ++ back)).error =
        (Template.parse back).error.map (ParseError.moved front.length) ∧
      (Template.parse (front ++ back)).remainder = (Template.parse back).remainder := by
  obtain ⟨joined, error, remainder⟩ :=
    Template.parse_append complete unmarked_front unmarked_back apart
  refine ⟨?_, error, remainder⟩
  rw [pass.answer_eq_ok_iff marker _ (Session.cacheAfter_sound before)] at answer_front
  rw [pass.answer_eq_ok_iff marker _ (Session.cacheAfter_sound between)] at answer_back
  obtain ⟨front_complete, rfl⟩ := answer_front
  obtain ⟨back_complete, rfl⟩ := answer_back
  have front_parts : pass.transcript front = pass.partsTranscript (Template.parse front).parts := by
    rw [transcript, parsedTranscript, defectTranscript, complete, Transcript.append_nil]
  rw [front_parts] at front_complete ⊢
  rw [transcript, parsedTranscript] at back_complete ⊢
  have parts_complete : (pass.partsTranscript (Template.parse back).parts).limit = none := by
    simpa [defectTranscript_limit] using back_complete
  obtain ⟨whole_complete, resolved⟩ :=
    pass.partsTranscript_of_joined joined front_complete parts_complete
  obtain ⟨text, issues⟩ := pass.defectTranscript_after _ _ _ error remainder marker
  rw [Transcript.resolution_append parts_complete]
  refine ⟨_, ?_, List.rel_append (List.forall₂_same.mpr fun issue _ => .refl _ issue) issues⟩
  rw [pass.answer_eq_ok_iff marker _ (Session.cacheAfter_sound history), transcript,
    parsedTranscript]
  refine ⟨by simp [whole_complete, defectTranscript_limit], ?_⟩
  rw [Transcript.resolution_append whole_complete, resolved, Resolution.append_assoc]
  refine congrArg₂ Resolution.mk ?_ rfl
  rw [Resolution.text_append, Resolution.text_append, text]

theorem unclosed_action_is_moved :
    let pass : Pass :=
      ⟨⟨.sample ⟨2024, 3, 9, 14, 5, 7, 0, none, false⟩, [("N", .string "x")]⟩, .builtin, none⟩
    let front := "a{{ .N }}b"
    let back := "c\x7b\x7b .N"
    (Template.parse front).error = none ∧ Template.Unmarked (Template.scan front).items ∧
      Template.Unmarked (Template.scan back).items ∧
      ¬ (front.toList.getLast? = some '{' ∧ back.toList.head? = some '{') ∧
      (pass.resolve .empty front (Session.cacheAfter [])).answer = .ok ⟨"axb", []⟩ ∧
      (pass.resolve .empty back (Session.cacheAfter [])).answer =
        .ok ⟨back, [⟨.parse, "unclosed action at offset 1", "\x7b\x7b .N", none⟩]⟩ ∧
      (∃ issues,
        (pass.resolve .empty (front ++ back) (Session.cacheAfter [])).answer =
            .ok ⟨"axb" ++ back, [] ++ issues⟩ ∧
          List.Forall₂ (Issue.Moved front.length)
            [⟨.parse, "unclosed action at offset 1", "\x7b\x7b .N", none⟩] issues) ∧
      (Template.parse (front ++ back)).error =
        (Template.parse back).error.map (ParseError.moved front.length) ∧
      (Template.parse (front ++ back)).remainder = (Template.parse back).remainder := by
  have scanned_front : (Template.scan "a{{ .N }}b").items =
      [.text ['a'] 0, .action ⟨"{{ .N }}".toList, ['.', 'N'], 1, false, false, false⟩,
        .text ['b'] 9] := by cbv
  have scanned_back : (Template.scan "c\x7b\x7b .N").items = [.text ['c'] 0] := by cbv
  have parsed_back : Template.parse "c\x7b\x7b .N" =
      ⟨[.text "c"], some ⟨.unclosedAction 1, "\x7b\x7b .N"⟩, "\x7b\x7b .N"⟩ := by cbv
  have complete : (Template.parse "a{{ .N }}b").error = none := by cbv
  have answer_front (context : Context) :
      (resolve ⟨⟨context, [("N", .string "x")]⟩, .builtin, none⟩ .empty "a{{ .N }}b"
        (Session.cacheAfter [])).answer = .ok ⟨"axb", []⟩ := by cbv
  intro pass front back
  have unmarked_front : Template.Unmarked (Template.scan front).items := by
    simp [front, Template.Unmarked, scanned_front]
  have unmarked_back : Template.Unmarked (Template.scan back).items := by
    simp [back, Template.Unmarked, scanned_back]
  have apart : ¬ (front.toList.getLast? = some '{' ∧ back.toList.head? = some '{') := by decide
  have answer_back : (pass.resolve .empty back (Session.cacheAfter [])).answer =
      .ok ⟨back, [⟨.parse, "unclosed action at offset 1", "\x7b\x7b .N", none⟩]⟩ := by
    rw [answer_eq_ok_iff _ _ _ (Session.cacheAfter_sound []), transcript, parsed_back]
    exact ⟨rfl, by decide⟩
  exact ⟨complete, unmarked_front, unmarked_back, apart, answer_front _, answer_back,
    pass.resolve_append complete unmarked_front unmarked_back apart (answer_front _) answer_back
      []⟩

end Pass

end Promptline
