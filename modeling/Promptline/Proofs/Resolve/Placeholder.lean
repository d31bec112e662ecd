import Promptline.Proofs.Resolve.Concatenation
import Promptline.Proofs.Template.Placeholder

/-!
# Resolving placeholders

A template that is one expression between delimiters shows the value of the expression.  If the
expression has no value, the template shows itself or nothing, with one issue.
-/

namespace Promptline

theorem Expression.exists_tokens_of_parse {source : String} {expression : Expression}
    (parsed : parse source = .ok expression) :
    ∃ tokens, Lexer.tokenize (Text.trim source) = .ok tokens := by
  rw [parse] at parsed
  split at parsed
  · contradiction
  · rw [parseTrimmed] at parsed
    split at parsed
    · contradiction
    · contradiction
    · next tokens lexed => exact ⟨tokens, lexed⟩

theorem Transcript.resolution_failure (source : String) (issue : Issue) (marker : ErrorMarker) :
    ({ pieces := [.failure source], issues := [issue] } : Transcript).resolution marker =
      ⟨match marker with
        | .source => source
        | .empty => "", [issue]⟩ := by
  cases marker <;> simp [resolution, Piece.renderAll, Piece.render, String.join_eq]

namespace Pass

/-- An expression is read as it is evaluated, with or without the white space around it. -/
theorem reading_trim (pass : Pass) {source : String} {expression : Expression}
    (parsed : Expression.parse source = .ok expression) :
    pass.reading (Text.trim source) =
      .ok ((expression.eval pass.scope pass.registry).mapError (.ofEvalError pass.segment)) := by
  rw [reading, Expression.lookup, Expression.parse_trim parsed]
  simp only
  cases expression.eval pass.scope pass.registry <;> rfl

/-- The scanner of templates and the lexer of expressions agree: an expression that does not start
with a keyword, put between delimiters, is one placeholder.  So, after any session, the template
shows the value of the expression; without a value, it shows itself or nothing, with the one issue
that tells why. -/
theorem resolve_placeholder {source : String} {expression : Expression}
    (parsed : Expression.parse source = .ok expression)
    (plain : ¬ Template.StartsWithKeyword source) :
    Template.parse (Template.placeholder source) =
        { parts := [.action (Template.placeholder source) (Text.trim source)]
          error := none, remainder := "" } ∧
      ∀ (pass : Pass) (history : List Session.Step),
        (∀ value text, expression.eval pass.scope pass.registry = .ok value →
          value.text = .ok text → ∀ marker,
            (pass.resolve marker (Template.placeholder source)
              (Session.cacheAfter history)).answer = .ok ⟨text, []⟩) ∧
        ∀ error, expression.eval pass.scope pass.registry = .error error → ∀ marker,
          (pass.resolve marker (Template.placeholder source)
              (Session.cacheAfter history)).answer =
            .ok ⟨match marker with
              | .source => Template.placeholder source
              | .empty => "",
              [⟨.evaluation, error.fault.message, error.expression, pass.segment⟩]⟩ := by
  obtain ⟨tokens, lexed⟩ := Expression.exists_tokens_of_parse parsed
  have template := Template.parse_placeholder lexed plain
  refine ⟨template, fun pass history => ?_⟩
  have transcript : pass.transcript (Template.placeholder source) =
      pass.actionTranscript (Template.placeholder source) (Text.trim source) := by
    rw [Pass.transcript, parsedTranscript, template]
    simp only [partsTranscript, partTranscript, defectTranscript, Transcript.append_nil]
  have read := pass.reading_trim parsed
  constructor
  · intro value text evaluated shown marker
    rw [pass.answer_eq_ok_iff marker _ (Session.cacheAfter_sound history), transcript,
      actionTranscript, read, evaluated]
    simp only [Except.mapError, shown]
    rw [Transcript.append_of_complete rfl]
    exact ⟨rfl, Transcript.resolution_text text marker⟩
  · intro error failed marker
    rw [pass.answer_eq_ok_iff marker _ (Session.cacheAfter_sound history), transcript,
      actionTranscript, read, failed]
    simp only [Except.mapError]
    rw [Transcript.append_of_complete rfl]
    exact ⟨rfl, Transcript.resolution_failure _ _ marker⟩

theorem delimiters_in_strings_are_data :
    let source := " replace \x60\x7d\x7d\x60 \"\\\"\x7b\x7b\" .N"
    let expression : Expression :=
      ⟨"replace \x60\x7d\x7d\x60 \"\\\"\x7b\x7b\" .N", .call "replace"
        [.literal (.string "\x7d\x7d"), .literal (.string "\"\x7b\x7b"), .path ["N"]]⟩
    let pass (n : Value) : Pass :=
      ⟨⟨.sample ⟨2024, 3, 9, 14, 5, 7, 0, none, false⟩, [("N", n)]⟩, .builtin, none⟩
    Expression.parse source = .ok expression ∧ ¬ Template.StartsWithKeyword source ∧
      Template.parse (Template.placeholder source) =
        { parts := [.action (Template.placeholder source) (Text.trim source)] } ∧
      ((pass (.string "a\x7d\x7db")).resolve .source (Template.placeholder source)
        (Session.cacheAfter [])).answer = .ok ⟨"a\"\x7b\x7bb", []⟩ ∧
      ((pass (.int 3)).resolve .empty (Template.placeholder source)
        (Session.cacheAfter [])).answer =
          .ok ⟨"", [⟨.evaluation, "error calling replace: replace: expected string, got number",
            "replace \x60\x7d\x7d\x60 \"\\\"\x7b\x7b\" .N", none⟩]⟩ := by
  have parsed : Expression.parse " replace \x60\x7d\x7d\x60 \"\\\"\x7b\x7b\" .N" =
      .ok ⟨"replace \x60\x7d\x7d\x60 \"\\\"\x7b\x7b\" .N", .call "replace"
        [.literal (.string "\x7d\x7d"), .literal (.string "\"\x7b\x7b"), .path ["N"]]⟩ := by cbv
  have first_lexeme : (Lexer.tokenize
      (Text.trim " replace \x60\x7d\x7d\x60 \"\\\"\x7b\x7b\" .N")).map
        (fun tokens => tokens.head?.map Token.lexeme) = .ok (some (.identifier "replace")) := by
    cbv
  have replaced (context : Context) :
      (Node.call "replace"
        [.literal (.string "\x7d\x7d"), .literal (.string "\"\x7b\x7b"), .path ["N"]]).eval
          ⟨context, [("N", .string "a\x7d\x7db")]⟩ .builtin = .ok (.string "a\"\x7b\x7bb") := by
    cbv
  have refused (context : Context) :
      (Node.call "replace"
        [.literal (.string "\x7d\x7d"), .literal (.string "\"\x7b\x7b"), .path ["N"]]).eval
          ⟨context, [("N", .int 3)]⟩ .builtin =
        .error (.failed "replace" (.expectedString "replace" "number")) := by
    cbv
  intro source expression pass
  have plain : ¬ Template.StartsWithKeyword source := by
    rintro ⟨first, later, read, word, listed, lexeme⟩
    have other : ∀ word ∈ Template.keywords, "replace" ≠ String.ofList word := by decide
    rw [read] at first_lexeme
    have same := Option.some.inj (Except.ok.inj first_lexeme)
    exact other word listed (Lexeme.identifier.inj (same.symm.trans lexeme))
  have value : expression.eval (pass (.string "a\x7d\x7db")).scope .builtin =
      .ok (.string "a\"\x7b\x7bb") := by
    rw [Expression.eval, replaced]
  have error : expression.eval (pass (.int 3)).scope .builtin =
      .error ⟨.failed "replace" (.expectedString "replace" "number"), expression.source⟩ := by
    rw [Expression.eval, refused]
  obtain ⟨template, resolved⟩ := resolve_placeholder parsed plain
  exact ⟨parsed, plain, template, (resolved (pass _) []).1 _ _ value rfl .source,
    (resolved (pass _) []).2 _ error .empty⟩

end Pass

end Promptline
