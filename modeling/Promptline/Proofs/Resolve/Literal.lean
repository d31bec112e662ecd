import Promptline.Proofs.Expression.Literal
import Promptline.Proofs.Resolve.Placeholder

/-!
# Literals show what they denote

A literal passes the scanner of templates, the lexer and the printer of values.  Whatever stands in
a string, and however it is spelled, the placeholder shows the text that the literal denotes; and an
integer shows its own digits.
-/

namespace Promptline

theorem Number.isTooLong_eq_false_iff {n : Int} :
    isTooLong n = false ↔ (Nat.toDigits 10 n.natAbs).length ≤ Number.digitLimit := by
  rw [isTooLong, decide_eq_false_iff_not, Number.pow_ten_le_iff (by decide), Nat.not_lt]

namespace Pass

open Lexer (IsToken)
open Text.JsonString (EscapesUnit Spells SpellsChar Denotes)

/-- After any session a placeholder shows the value of its expression. -/
theorem answer_placeholder (pass : Pass) (marker : ErrorMarker) (history : List Session.Step)
    {source text : String} {expression : Expression} {value : Value}
    (parsed : Expression.parse source = .ok expression)
    (plain : ¬ Template.StartsWithKeyword source)
    (evaluated : expression.eval pass.scope pass.registry = .ok value)
    (shown : value.text = .ok text) :
    (pass.resolve marker (Template.placeholder source) (Session.cacheAfter history)).answer =
      .ok ⟨text, []⟩ := by
  obtain ⟨tokens, lexed⟩ := Expression.exists_tokens_of_parse parsed
  have read := pass.reading_trim parsed
  have transcript : pass.transcript (Template.placeholder source) =
      .looking (Text.trim source) ++ { pieces := [.text text] } := by
    rw [Pass.transcript, parsedTranscript, Template.parse_placeholder lexed plain]
    simp only [partsTranscript, partTranscript, actionTranscript, defectTranscript, read, evaluated,
      Except.mapError, shown, Transcript.append_nil]
  rw [pass.answer_eq_ok_iff marker _ (Session.cacheAfter_sound history), transcript,
    Transcript.append_of_complete rfl]
  exact ⟨rfl, Transcript.resolution_text text marker⟩

/-- A constant token that is not a name shows the text of its value. -/
theorem answer_constant (pass : Pass) (marker : ErrorMarker) (history : List Session.Step)
    (constant : Literal) {source : List Char} {lexeme : Lexeme} {text : String}
    (token : IsToken source lexeme) (unnamed : ∀ name, lexeme ≠ .identifier name)
    (step : ∀ state start, Parser.State.step state ⟨lexeme, source, start⟩ =
      .ok (state.push (.node (.literal constant))))
    (shown : constant.toValue.text = .ok text) :
    (pass.resolve marker (Template.placeholder (String.ofList source))
      (Session.cacheAfter history)).answer = .ok ⟨text, []⟩ := by
  have parsed := Expression.parse_of_isToken token step
  have lexed : Lexer.tokenize (Text.trim (String.ofList source)) = .ok [⟨lexeme, source, 0⟩] := by
    rw [Text.trim, String.toList_ofList, token.trimmed, Lexer.tokenize, String.toList_ofList,
      token.lexed]
  have plain : ¬ Template.StartsWithKeyword (String.ofList source) := by
    rintro ⟨first, rest, read, word, -, named⟩
    rw [lexed] at read
    obtain ⟨rfl, -⟩ := List.cons.inj (Except.ok.inj read)
    exact unnamed _ named
  exact pass.answer_placeholder marker history parsed plain rfl shown

/-- A JSON string literal shows the text that it denotes, a text without back quotes is shown as it
stands between two of them, and an integer of at most 4300 digits shows its own digits. -/
theorem literals_show_what_they_denote (pass : Pass) (marker : ErrorMarker)
    (history : List Session.Step) :
    (∀ literal text : String, Text.JsonString.Denotes literal text →
      (pass.resolve marker (Template.placeholder literal) (Session.cacheAfter history)).answer =
        .ok ⟨text, []⟩) ∧
    (∀ text : String, '\x60' ∉ text.toList →
      (pass.resolve marker (Template.placeholder ("\x60" ++ text ++ "\x60"))
        (Session.cacheAfter history)).answer = .ok ⟨text, []⟩) ∧
    ∀ n : Int, (Nat.toDigits 10 n.natAbs).length ≤ 4300 →
      (pass.resolve marker (Template.placeholder (toString n))
        (Session.cacheAfter history)).answer = .ok ⟨toString n, []⟩ := by
  refine ⟨?_, ?_, ?_⟩
  · rintro literal text ⟨inner, written, spells⟩
    have token := Lexer.isToken_quoted spells
    have answer := pass.answer_constant marker history (.string text) token (by rintro _ ⟨⟩)
      (fun _ _ => by rw [Parser.State.step, String.ofList_toList]) rfl
    rwa [← written, String.ofList_toList] at answer
  · intro text plain
    have token := Lexer.isToken_raw plain
    have answer := pass.answer_constant marker history (.string text) token (by rintro _ ⟨⟩)
      (fun _ _ => by rw [Parser.State.step, String.ofList_toList]) rfl
    have written : String.ofList (Lexer.rawMark :: (text.toList ++ [Lexer.rawMark])) =
        "\x60" ++ text ++ "\x60" := by
      apply String.toList_inj.mp
      simp [Lexer.rawMark]
    rwa [written] at answer
  · intro n short
    have small : Number.isTooLong n = false := Number.isTooLong_eq_false_iff.mpr short
    have shown : (Value.int n).text = .ok (toString n) := by
      rw [Value.text, small, Number.intText_eq_toString]
      rfl
    have token := Lexer.isToken_intText short
    have answer := pass.answer_constant marker history (.int n) token (by rintro _ ⟨⟩)
      (fun _ _ => rfl) shown
    rwa [String.ofList_toList, Number.intText_eq_toString] at answer

theorem awkward_literals_are_shown :
    let pass : Pass := ⟨⟨.sample ⟨2024, 3, 9, 14, 5, 7, 0, none, false⟩, []⟩, .builtin, none⟩
    let literal := "\"\\ud83d\\uDE00\x7d\x7d\\\"\\u005c\\/*\""
    let text := "😀\x7d\x7d\"\\/*"
    let raw := "\x7b\x7b end -\x7d\x7d\n\\\"/*"
    Denotes literal text ∧
      (pass.resolve .empty (Template.placeholder literal) (Session.cacheAfter [])).answer =
        .ok ⟨text, []⟩ ∧
      '\x60' ∉ raw.toList ∧
      (pass.resolve .empty (Template.placeholder ("\x60" ++ raw ++ "\x60"))
        (Session.cacheAfter [])).answer = .ok ⟨raw, []⟩ ∧
      (Nat.toDigits 10 (-120 : Int).natAbs).length ≤ 4300 ∧
      (pass.resolve .empty (Template.placeholder (toString (-120 : Int)))
        (Session.cacheAfter [])).answer = .ok ⟨toString (-120 : Int), []⟩ := by
  intro pass literal text raw
  have high : EscapesUnit ['\\', 'u', 'd', '8', '3', 'd'] (0xD800 + 0x3D) :=
    .digits (i := 13) (j := 8) (k := 3) (l := 13) ⟨by decide, .inl rfl⟩ ⟨by decide, .inl rfl⟩
      ⟨by decide, .inl rfl⟩ ⟨by decide, .inl rfl⟩
  have low : EscapesUnit ['\\', 'u', 'D', 'E', '0', '0'] (0xDC00 + 0x200) :=
    .digits (i := 13) (j := 14) (k := 0) (l := 0) ⟨by decide, .inr rfl⟩ ⟨by decide, .inr rfl⟩
      ⟨by decide, .inl rfl⟩ ⟨by decide, .inl rfl⟩
  have pair : SpellsChar ['\\', 'u', 'd', '8', '3', 'd', '\\', 'u', 'D', 'E', '0', '0'] '😀' :=
    .pair high low (by decide) (by decide) rfl
  have brace : SpellsChar ['\x7d'] '\x7d' := .raw (by decide) (by decide) (by decide)
  have quote : SpellsChar ['\\', '"'] '"' := .short (by decide)
  have backslash : SpellsChar ['\\', 'u', '0', '0', '5', 'c'] '\\' :=
    .unit (.digits (i := 0) (j := 0) (k := 5) (l := 12) ⟨by decide, .inl rfl⟩ ⟨by decide, .inl rfl⟩
      ⟨by decide, .inl rfl⟩ ⟨by decide, .inl rfl⟩)
  have slash : SpellsChar ['\\', '/'] '/' := .short (by decide)
  have star : SpellsChar ['*'] '*' := .raw (by decide) (by decide) (by decide)
  have spelled := Spells.cons pair <| .cons brace <| .cons brace <| .cons quote <|
    .cons backslash <| .cons slash <| .cons star .nil
  have spells : Denotes literal text := by
    have letters : text.toList = ['😀', '\x7d', '\x7d', '"', '\\', '/', '*'] := by decide
    rw [Denotes, letters]
    refine ⟨_, ?_, spelled⟩
    decide
  have short : (Nat.toDigits 10 (-120 : Int).natAbs).length ≤ 4300 := by decide
  have plain : '\x60' ∉ raw.toList := by decide
  obtain ⟨quoted, between, integer⟩ := pass.literals_show_what_they_denote .empty []
  exact ⟨spells, quoted literal text spells, plain, between raw plain, short, integer (-120) short⟩

end Pass

end Promptline
