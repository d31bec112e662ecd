import Promptline.Proofs.Resolve.Concatenation
import Promptline.Proofs.Template.Recovery

/-!
# Resolving templates with a defect

A template with a structural defect shows what the source before the cut shows, and then the rest of
the source as it is; the defect is the last issue.
-/

namespace Promptline

theorem Transcript.outcome_eq_error_iff {α : Type} (transcript : Transcript) (result : α)
    (limit : DigitLimit) : transcript.outcome result = .error limit ↔
      transcript.limit = some limit := by
  rw [outcome]
  cases transcript.limit <;> simp

namespace Pass

variable (pass : Pass)

theorem defectTranscript_resolution {parsed : Template.Parsed} {error : ParseError}
    (failed : parsed.error = some error) (marker : ErrorMarker) :
    (pass.defectTranscript parsed).resolution marker =
      ⟨parsed.remainder, [.ofParseError pass.segment error]⟩ := by
  rw [defectTranscript, failed]
  exact congrArg₂ Resolution.mk
    (congrArg Resolution.text (Transcript.resolution_text parsed.remainder marker)) rfl

theorem transcript_of_complete {template : String}
    (complete : (Template.parse template).error = none) :
    pass.transcript template = pass.partsTranscript (Template.parse template).parts := by
  rw [transcript, parsedTranscript, defectTranscript, complete, Transcript.append_nil]

/-- The parts that are left stop at the integer at which the source before the cut stops.  If there
is none, they show the same, apart from the white space that was removed before the cut. -/
theorem partsTranscript_of_recovery {source lost : String} {offset : Nat}
    (recovery : Template.Recovery source offset lost) :
    (pass.partsTranscript (Template.parse source).parts).limit =
        (pass.transcript (Template.beforeCut source offset)).limit ∧
      ((pass.transcript (Template.beforeCut source offset)).limit = none → ∀ marker,
        ∃ kept issues,
          (pass.transcript (Template.beforeCut source offset)).resolution marker =
              ⟨kept ++ lost, issues⟩ ∧
            (pass.partsTranscript (Template.parse source).parts).resolution marker =
              ⟨kept, issues⟩) := by
  rw [pass.transcript_of_complete recovery.complete]
  by_cases trims : Template.TrimsBefore source offset
  · obtain ⟨parts, last, good, whole, split⟩ := recovery.trimmed trims
    rw [good, whole]
    simp only [partsTranscript_append, partsTranscript, partTranscript, Transcript.append_nil,
      Transcript.limit_append, Option.or_none, true_and]
    intro complete marker
    rw [Transcript.resolution_append complete, Transcript.resolution_append complete,
      Transcript.resolution_text, Transcript.resolution_text]
    generalize (pass.partsTranscript parts).resolution marker = front
    refine ⟨front.text ++ Template.withoutMargin last, front.issues ++ [], ?_, rfl⟩
    have joined : front.text ++ Template.withoutMargin last ++ lost = front.text ++ last := by
      rw [String.append_assoc, ← split]
    rw [joined]
    rfl
  · obtain ⟨rfl, same⟩ := recovery.kept trims
    rw [same]
    refine ⟨rfl, fun _ marker => ?_⟩
    generalize Transcript.resolution _ marker = shown
    exact ⟨shown.text, shown.issues, by rw [String.append_empty], rfl⟩

/-- A structural defect keeps the good part of a template and loses nothing.  The source is cut
before the outermost construct that is not complete; before the cut it is parsed and, after any
session, resolved as if nothing followed, except that white space just before the cut may be
trimmed; from the cut on it is kept as it is, and the defect is the one issue more, the last one. -/
theorem resolve_recovers {source : String} {error : ParseError}
    (failed : (Template.parse source).error = some error) :
    ∃ offset lost, Template.Recovery source offset lost ∧
      ∀ (pass : Pass) (marker : ErrorMarker) (earlier later : List Session.Step),
        (∀ limit,
          (pass.resolve marker (Template.beforeCut source offset)
            (Session.cacheAfter earlier)).answer = .error limit →
          (pass.resolve marker source (Session.cacheAfter later)).answer = .error limit) ∧
        ∀ text issues,
          (pass.resolve marker (Template.beforeCut source offset)
            (Session.cacheAfter earlier)).answer = .ok ⟨text, issues⟩ →
          ∃ kept, text = kept ++ lost ∧
            (pass.resolve marker source (Session.cacheAfter later)).answer =
              .ok ⟨kept ++ Template.behindCut source offset,
                issues ++ [.ofParseError pass.segment error]⟩ := by
  obtain ⟨offset, lost, recovery⟩ := Template.exists_recovery failed
  refine ⟨offset, lost, recovery, fun pass marker earlier later => ?_⟩
  obtain ⟨limits, shows⟩ := pass.partsTranscript_of_recovery recovery
  have whole_limit : (pass.transcript source).limit =
      (pass.transcript (Template.beforeCut source offset)).limit := by
    rw [transcript, parsedTranscript, Transcript.limit_append, defectTranscript_limit, limits,
      Option.or_none]
  constructor
  · intro limit stopped
    rw [pass.resolve_eq marker _ (Session.cacheAfter_sound _)] at stopped ⊢
    rw [Transcript.outcome_eq_error_iff] at stopped ⊢
    rw [whole_limit, stopped]
  · intro text issues answered
    rw [pass.answer_eq_ok_iff marker _ (Session.cacheAfter_sound earlier)] at answered
    obtain ⟨complete, resolution⟩ := answered
    obtain ⟨kept, found, good, whole⟩ := shows complete marker
    obtain ⟨rfl, rfl⟩ := Resolution.mk.inj (good.symm.trans resolution)
    refine ⟨kept, rfl, ?_⟩
    rw [pass.answer_eq_ok_iff marker _ (Session.cacheAfter_sound later), whole_limit]
    refine ⟨complete, ?_⟩
    rw [transcript, parsedTranscript,
      Transcript.resolution_append (limits.trans complete), whole,
      pass.defectTranscript_resolution failed, recovery.remainder]
    rfl

theorem nested_defect_is_cut_outside :
    let pass : Pass :=
      ⟨⟨.sample ⟨2024, 3, 9, 14, 5, 7, 0, none, false⟩, [("N", .string "x")]⟩, .builtin, none⟩
    let rest := "\x7b\x7b- if .X \x7d\x7da\x7b\x7b if .Y \x7d\x7db\x7b\x7b end .Z \x7d\x7d"
    let error : ParseError := ⟨.unexpectedAfterEnd ".Z", "\x7b\x7b end .Z \x7d\x7d"⟩
    (Template.parse ("\x7b\x7b .N \x7d\x7d " ++ rest)).error = some error ∧
      ∃ kept lost, "x " = kept ++ lost ∧
        Template.Recovery ("\x7b\x7b .N \x7d\x7d " ++ rest) 9 lost ∧
        (pass.resolve .empty ("\x7b\x7b .N \x7d\x7d " ++ rest) (Session.cacheAfter [])).answer =
          .ok ⟨kept ++ rest, [.ofParseError none error]⟩ := by
  have parsed : Template.parse ("\x7b\x7b .N \x7d\x7d " ++
        "\x7b\x7b- if .X \x7d\x7da\x7b\x7b if .Y \x7d\x7db\x7b\x7b end .Z \x7d\x7d") =
      ⟨[.action "\x7b\x7b .N \x7d\x7d" ".N", .text ""],
        some ⟨.unexpectedAfterEnd ".Z", "\x7b\x7b end .Z \x7d\x7d"⟩,
        "\x7b\x7b- if .X \x7d\x7da\x7b\x7b if .Y \x7d\x7db\x7b\x7b end .Z \x7d\x7d"⟩ := by
    cbv
  have answer_front (context : Context) :
      (resolve ⟨⟨context, [("N", .string "x")]⟩, .builtin, none⟩ .empty "\x7b\x7b .N \x7d\x7d "
        (Session.cacheAfter [])).answer = .ok ⟨"x ", []⟩ := by cbv
  intro pass rest error
  have failed : (Template.parse ("\x7b\x7b .N \x7d\x7d " ++ rest)).error = some error :=
    congrArg Template.Parsed.error parsed
  obtain ⟨offset, lost, recovery, shows⟩ := resolve_recovers failed
  have place := recovery.offset_add_length
  have remainder := recovery.remainder
  rw [parsed] at place remainder
  have place : offset = 9 := Nat.add_right_cancel (place.trans (by decide : _ = 9 + rest.length))
  subst place
  have front : Template.beforeCut ("\x7b\x7b .N \x7d\x7d " ++ rest) 9 =
      "\x7b\x7b .N \x7d\x7d " := by
    decide
  have resolved := (shows pass .empty [] []).2 "x " []
  rw [front, ← remainder] at resolved
  obtain ⟨kept, split, answer⟩ := resolved (answer_front _)
  exact ⟨failed, kept, lost, split, recovery, answer⟩

/-- The white space that trimming removes before the cut is not shown. -/
theorem removed_space_is_not_shown :
    ¬ ∀ (source : String) (error : ParseError), (Template.parse source).error = some error →
      ∃ offset lost, Template.Recovery source offset lost ∧
        ∀ (pass : Pass) (marker : ErrorMarker) (earlier later : List Session.Step)
          (text : String) (issues : List Issue),
          (pass.resolve marker (Template.beforeCut source offset)
            (Session.cacheAfter earlier)).answer = .ok ⟨text, issues⟩ →
          (pass.resolve marker source (Session.cacheAfter later)).answer =
            .ok ⟨text ++ Template.behindCut source offset,
              issues ++ [.ofParseError pass.segment error]⟩ := by
  intro verbatim
  have parsed : Template.parse "a \x7b\x7b- if .X \x7d\x7d" =
      ⟨[.text "a"], some ⟨.missingEnd "\x7b\x7b- if .X \x7d\x7d", "\x7b\x7b- if .X \x7d\x7d"⟩,
        "\x7b\x7b- if .X \x7d\x7d"⟩ := by cbv
  have parsed_front : Template.parse "a " = { parts := [.text "a "] } := by cbv
  obtain ⟨offset, lost, recovery, shows⟩ := verbatim _ _ (congrArg Template.Parsed.error parsed)
  have place := recovery.offset_add_length
  rw [parsed] at place
  have place : offset = 2 := Nat.add_right_cancel (place.trans (by decide : _ = 2 + 12))
  subst place
  let pass : Pass := ⟨⟨.sample ⟨2024, 3, 9, 14, 5, 7, 0, none, false⟩, []⟩, .builtin, none⟩
  have cut : Template.beforeCut "a \x7b\x7b- if .X \x7d\x7d" 2 = "a " := by decide
  have answer_front : (pass.resolve .source "a " (Session.cacheAfter [])).answer =
      .ok ⟨"a ", []⟩ := by
    rw [answer_eq_ok_iff _ _ _ (Session.cacheAfter_sound []), transcript, parsed_front]
    exact ⟨rfl, by decide⟩
  rw [cut] at shows
  have claimed := shows pass .source [] [] _ _ answer_front
  rw [answer_eq_ok_iff _ _ _ (Session.cacheAfter_sound []), transcript, parsed] at claimed
  exact absurd (congrArg Resolution.text claimed.2) (by decide)

end Pass

end Promptline
