import Promptline.Proofs.Resolve.Places
import Promptline.Proofs.Resolve.Recovery

/-!
# What the error marker changes

The marker decides only what a placeholder without a value shows.  The issues are the same under
both markers, and there is one sequence of pieces of which one text has all and the other all but
the failures.  A guard without a value shows nothing, and its branch might as well not be there.
-/

namespace Promptline

namespace Piece

/-- The text of a piece, which for a failure is the placeholder as written. -/
def written : Piece → String
  | text shown => shown
  | failure source => source

/-- Whether a piece is a placeholder that failed. -/
def isFailure : Piece → Bool
  | text _ => false
  | failure _ => true

theorem renderAll_source (pieces : List Piece) :
    renderAll .source pieces = String.join (pieces.map written) := by
  have same : render .source = written := by
    funext piece
    cases piece <;> rfl
  rw [renderAll, same]

theorem renderAll_empty (pieces : List Piece) :
    renderAll .empty pieces =
      String.join ((pieces.filter fun piece => !piece.isFailure).map written) := by
  induction pieces with
  | nil => rfl
  | cons piece pieces ih =>
      rw [← List.singleton_append, renderAll_append, ih, List.filter_append, List.map_append]
      cases piece <;>
        simp [renderAll, render, String.join_eq, isFailure, written]

end Piece

/-! ## Templates without the branches that fail -/

namespace Pass

variable (pass : Pass)

mutual

/-- A part without the branches whose guards have no value. -/
def prunePart : Template.Part → Template.Part
  | .text text => .text text
  | .action source body => .action source body
  | .conditional branches otherwise =>
      .conditional (pruneBranches branches) (pruneParts otherwise)

/-- Parts without the branches whose guards have no value. -/
def pruneParts : List Template.Part → List Template.Part
  | [] => []
  | first :: rest => prunePart first :: pruneParts rest

/-- The branches whose guards have a value. -/
def pruneBranches : List Template.Branch → List Template.Branch
  | [] => []
  | .mk source condition body :: rest =>
      if pass.fails condition then pruneBranches rest
      else .mk source condition (pruneParts body) :: pruneBranches rest

end

/-- A parsed template without the branches whose guards have no value. -/
def prune (parsed : Template.Parsed) : Template.Parsed :=
  { parsed with parts := pass.pruneParts parsed.parts }

/-- What resolving a parsed template gives. -/
def resolveParsed (marker : ErrorMarker) (parsed : Template.Parsed) (cache : Cache) :
    Except DigitLimit Resolution :=
  let (answer, progress) := (pass.template parsed).run.run { cache := cache }
  answer.map fun _ =>
    ⟨Piece.renderAll marker progress.pieces.reverse, progress.issues.reverse⟩

theorem resolve_answer_eq_resolveParsed (marker : ErrorMarker) (template : String)
    (cache : Cache) :
    (pass.resolve marker template cache).answer =
      pass.resolveParsed marker (cache.template template).1 (cache.template template).2 := by
  have started : (pass.source template).run.run { cache := cache } =
      (pass.template (cache.template template).1).run.run
        { cache := (cache.template template).2 } := rfl
  rw [resolve, pieces, started, resolveParsed]
  obtain ⟨answer, progress⟩ := (pass.template (cache.template template).1).run.run
    { cache := (cache.template template).2 }
  cases answer <;> rfl

theorem resolveParsed_eq (marker : ErrorMarker) (parsed : Template.Parsed) {cache : Cache}
    (sound : cache.Sound) :
    pass.resolveParsed marker parsed cache =
      (pass.parsedTranscript parsed).outcome
        ((pass.parsedTranscript parsed).resolution marker) := by
  rw [resolveParsed, pass.performs_template parsed _ sound]
  simp only [Progress.extend, List.append_nil, List.reverse_reverse]
  cases stop : (pass.parsedTranscript parsed).limit <;>
    simp [Transcript.outcome, Transcript.resolution, stop, Except.map]

theorem takes_pruneBranches (branches : List Template.Branch) :
    pass.takes (pass.pruneBranches branches) = pass.takes branches := by
  induction branches with
  | nil => rw [pruneBranches]
  | cons branch rest ih =>
      obtain ⟨source, condition, body⟩ := branch
      rw [pruneBranches]
      split
      · next failed =>
          rw [ih, takes, takes, List.any_cons, Template.Branch.condition,
            guardHolds_of_fails failed, Bool.false_or]
      · rw [takes, takes, List.any_cons, List.any_cons, ← takes, ← takes, ih]
        rfl

/-- Whether a place is anything but a guard without a value. -/
def keeps (place : Place) : Bool :=
  !(place.isGuard && place.fails pass)

mutual

theorem partPlaces_prunePart (part : Template.Part) :
    pass.partPlaces (pass.prunePart part) = (pass.partPlaces part).filter pass.keeps := by
  cases part with
  | text text => rfl
  | action source body => rfl
  | conditional branches otherwise =>
      rw [prunePart, partPlaces, partPlaces, takes_pruneBranches, List.filter_append,
        branchesPlaces_pruneBranches branches]
      split
      · rfl
      · rw [partsPlaces_pruneParts otherwise]

/-- Without the branches that fail, a resolution comes to the same places, except for the guards of
these branches. -/
theorem partsPlaces_pruneParts (parts : List Template.Part) :
    pass.partsPlaces (pass.pruneParts parts) = (pass.partsPlaces parts).filter pass.keeps := by
  cases parts with
  | nil => rfl
  | cons first rest =>
      rw [pruneParts, partsPlaces, partsPlaces, List.filter_append, partPlaces_prunePart first,
        partsPlaces_pruneParts rest]

theorem branchesPlaces_pruneBranches (branches : List Template.Branch) :
    pass.branchesPlaces (pass.pruneBranches branches) =
      (pass.branchesPlaces branches).filter pass.keeps := by
  cases branches with
  | nil => rfl
  | cons branch rest =>
      obtain ⟨source, condition, body⟩ := branch
      rw [pruneBranches, branchesPlaces]
      split
      · next failed =>
          have dropped : ¬ pass.keeps (.guard source condition) = true := by
            simp [keeps, Place.isGuard, Place.fails, failed]
          rw [List.filter_cons_of_neg dropped, guardHolds_of_fails failed,
            branchesPlaces_pruneBranches rest]
          rfl
      · next works =>
          have kept : pass.keeps (.guard source condition) = true := by
            simpa [keeps, Place.isGuard, Place.fails] using works
          rw [branchesPlaces, List.filter_cons_of_pos kept]
          split
          · rw [partsPlaces_pruneParts body]
          · rw [branchesPlaces_pruneBranches rest]

end

variable {pass} in
theorem transcript_of_not_keeps {place : Place} (dropped : ¬ pass.keeps place = true) :
    (place.transcript pass).limit = none ∧ (place.transcript pass).pieces = [] := by
  cases place with
  | text chars => simp [keeps, Place.isGuard] at dropped
  | placeholder source body => simp [keeps, Place.isGuard] at dropped
  | guard source condition =>
      have failed : pass.fails condition = true := by
        simpa [keeps, Place.isGuard, Place.fails] using dropped
      obtain ⟨issue, read⟩ := (pass.fails_iff condition).mp failed
      rw [Place.transcript, guardTranscript, Transcript.append_of_complete rfl, read]
      exact ⟨rfl, rfl⟩

/-- Guards without a value show nothing and stop nothing. -/
theorem placesTranscript_filter_keeps (places : List Place) :
    (pass.placesTranscript (places.filter pass.keeps)).limit =
        (pass.placesTranscript places).limit ∧
      (pass.placesTranscript (places.filter pass.keeps)).pieces =
        (pass.placesTranscript places).pieces ∧
      (pass.placesTranscript (places.filter pass.keeps)).issues.Sublist
        (pass.placesTranscript places).issues := by
  induction places with
  | nil => exact ⟨rfl, rfl, List.Sublist.refl _⟩
  | cons place places ih =>
      obtain ⟨limit, pieces, issues⟩ := ih
      by_cases kept : pass.keeps place = true
      · rw [List.filter_cons_of_pos kept, placesTranscript, placesTranscript]
        cases stop : (place.transcript pass).limit with
        | some limit =>
            rw [Transcript.append_of_stopped stop, Transcript.append_of_stopped stop]
            exact ⟨rfl, rfl, List.Sublist.refl _⟩
        | none =>
            rw [Transcript.append_of_complete stop, Transcript.append_of_complete stop]
            exact ⟨limit, congrArg (_ ++ ·) pieces, issues.append_left _⟩
      · obtain ⟨complete, nothing⟩ := transcript_of_not_keeps kept
        rw [List.filter_cons_of_neg kept, placesTranscript,
          Transcript.append_of_complete complete, nothing]
        exact ⟨limit, pieces, issues.trans (List.sublist_append_right _ _)⟩

/-! ## Both markers -/

theorem defectTranscript_eq (parsed : Template.Parsed) :
    pass.defectTranscript parsed =
      { pieces := parsed.error.toList.map fun _ => .text parsed.remainder
        issues := parsed.error.toList.map (.ofParseError pass.segment) } := by
  rw [defectTranscript]
  cases parsed.error <;> rfl

/-- Without the branches that fail a template shows the same. -/
theorem parsedTranscript_prune (parsed : Template.Parsed)
    (complete : (pass.parsedTranscript parsed).limit = none) :
    (pass.parsedTranscript (pass.prune parsed)).limit = none ∧
      (pass.parsedTranscript (pass.prune parsed)).pieces =
        (pass.parsedTranscript parsed).pieces ∧
      (pass.parsedTranscript (pass.prune parsed)).issues.Sublist
        (pass.parsedTranscript parsed).issues := by
  have pruned : pass.parsedTranscript (pass.prune parsed) =
      pass.partsTranscript (pass.pruneParts parsed.parts) ++ pass.defectTranscript parsed := rfl
  obtain ⟨limit, pieces, issues⟩ :=
    pass.placesTranscript_filter_keeps (pass.partsPlaces parsed.parts)
  rw [← partsPlaces_pruneParts, placesTranscript_partsPlaces, placesTranscript_partsPlaces]
    at limit pieces issues
  rw [parsedTranscript, Transcript.limit_append, defectTranscript_limit, Option.or_none] at complete
  rw [pruned, parsedTranscript, Transcript.append_of_complete complete,
    Transcript.append_of_complete (limit.trans complete)]
  exact ⟨pass.defectTranscript_limit parsed, congrArg (· ++ _) pieces, issues.append_right _⟩

/-- The pieces and the issues of a template, accounted for place by place. -/
structure Account (template : String) (pieces : List Piece) (issues : List Issue) : Prop where
  /-- Every place but the guards shows one piece; the remainder comes last, as text. -/
  shown : ∃ shown,
    List.Forall₂ (Place.Shows pass)
      ((pass.places template).filter fun place => !place.isGuard) shown ∧
    pieces = shown ++ (Template.parse template).error.toList.map
      fun _ => .text (Template.parse template).remainder
  /-- Every failure reports one issue; a structural error comes last. -/
  reported : ∃ reported,
    List.Forall₂ (Place.Reports pass)
      ((pass.places template).filter (Place.fails pass)) reported ∧
    issues = reported ++ (Template.parse template).error.toList.map (.ofParseError pass.segment)
  /-- The issues are as many as the placeholders that fail, the guards that fail, and the
  structural error if there is one. -/
  count : issues.length =
    (pass.places template).countP (fun place => place.isPlaceholder && place.fails pass) +
      (pass.places template).countP (fun place => place.isGuard && place.fails pass) +
      if (Template.parse template).error.isSome then 1 else 0
  /-- Every placeholder is an action of the template, exactly as it is written there. -/
  written : ∀ source body, .placeholder source body ∈ pass.places template →
    ∃ action, .action action ∈ (Template.scan template).items ∧ action.Is .expression ∧
      action.text = source ∧ String.ofList action.body = body ∧
      action.StandsIn 0 template.toList
  /-- The remainder is the end of the template, as it is written there. -/
  verbatim : (Template.parse template).remainder.toList <:+ template.toList

theorem remainder_suffix (template : String) :
    (Template.parse template).remainder.toList <:+ template.toList := by
  cases parsed : (Template.parse template).error with
  | none =>
      rw [Template.parse_eq_of_complete parsed]
      exact List.nil_suffix
  | some error =>
      obtain ⟨offset, lost, recovery⟩ := Template.exists_recovery parsed
      rw [recovery.remainder, Template.behindCut, String.toList_ofList]
      exact List.drop_suffix offset _

theorem exists_action_of_mem_places {template source body : String}
    (member : .placeholder source body ∈ pass.places template) :
    ∃ action, .action action ∈ (Template.scan template).items ∧ action.Is .expression ∧
      action.text = source ∧ String.ofList action.body = body ∧
      action.StandsIn 0 template.toList := by
  obtain ⟨items, listed, derives⟩ := Template.exists_derives_parts template
  obtain ⟨action, among, is, text, inside⟩ := derives.from_items _ member
  have scanned := Template.action_mem_trimItems.mp (listed among)
  exact ⟨action, scanned, is, text, inside, Template.standsIn_of_mem_scan scanned⟩

theorem account_of_complete {template : String}
    (complete : (pass.transcript template).limit = none) :
    pass.Account template (pass.transcript template).pieces (pass.transcript template).issues := by
  rw [transcript, parsedTranscript, Transcript.limit_append, defectTranscript_limit,
    Option.or_none] at complete
  rw [transcript, parsedTranscript, Transcript.append_of_complete complete, defectTranscript_eq]
  rw [← placesTranscript_partsPlaces] at complete ⊢
  obtain ⟨shown, reported⟩ := pass.placesTranscript_of_complete complete
  refine ⟨⟨_, shown, rfl⟩, ⟨_, reported, rfl⟩, ?_, fun source body member => ?_,
    remainder_suffix template⟩
  · have failures := reported.length_eq
    rw [← List.countP_eq_length_filter, Place.countP_fails] at failures
    rw [List.length_append, ← failures, places]
    cases (Template.parse template).error <;> rfl
  · exact pass.exists_action_of_mem_places member

/-- The error marker changes only what failing placeholders show.  After any session, a template is
stopped by the same integer under both markers, or there is one sequence of pieces and one list of
issues: with the source marker the text is all pieces, with the empty marker all but the failing
placeholders, which are pieces of the source.  The branches whose guards fail might as well not be
there. -/
theorem resolve_by_marker (template : String) :
    (∃ limit reported, ∀ marker history,
      (pass.resolve marker template (Session.cacheAfter history)).answer = .error limit ∧
        (pass.resolve marker template (Session.cacheAfter history)).reported = reported) ∨
    ∃ pieces issues, pass.Account template pieces issues ∧ ∀ history,
      (pass.resolve .source template (Session.cacheAfter history)).answer =
          .ok ⟨String.join (pieces.map Piece.written), issues⟩ ∧
        (pass.resolve .empty template (Session.cacheAfter history)).answer =
          .ok ⟨String.join ((pieces.filter fun piece => !piece.isFailure).map Piece.written),
            issues⟩ ∧
        ∀ marker, ∃ text fewer,
          (pass.resolve marker template (Session.cacheAfter history)).answer =
              .ok ⟨text, issues⟩ ∧
            pass.resolveParsed marker (pass.prune (Template.parse template))
              (Session.cacheAfter history) = .ok ⟨text, fewer⟩ ∧
            fewer.Sublist issues := by
  cases stop : (pass.transcript template).limit with
  | some limit =>
      refine .inl ⟨limit, (pass.transcript template).issues, fun marker history => ?_⟩
      rw [pass.resolve_eq marker template (Session.cacheAfter_sound history)]
      exact ⟨(Transcript.outcome_eq_error_iff _ _ _).mpr stop, rfl⟩
  | none =>
      have answer (marker : ErrorMarker) (history : List Session.Step) :
          (pass.resolve marker template (Session.cacheAfter history)).answer =
            .ok ((pass.transcript template).resolution marker) := by
        have sound := Session.cacheAfter_sound history
        rw [resolve_answer_eq_resolveParsed, sound.template_eq,
          pass.resolveParsed_eq marker _ (sound.learnTemplate template),
          Transcript.outcome_eq_ok_iff]
        exact ⟨stop, rfl⟩
      obtain ⟨limit, pieces, issues⟩ := pass.parsedTranscript_prune _ stop
      refine .inr ⟨_, _, pass.account_of_complete stop, fun history => ⟨?_, ?_, fun marker => ?_⟩⟩
      · rw [answer, Transcript.resolution, Piece.renderAll_source]
      · rw [answer, Transcript.resolution, Piece.renderAll_empty]
      · refine ⟨_, _, answer marker history, ?_, issues⟩
        rw [pass.resolveParsed_eq marker _ (Session.cacheAfter_sound history),
          Transcript.outcome_eq_ok_iff]
        refine ⟨limit, ?_⟩
        rw [Transcript.resolution, pieces]
        rfl

theorem failing_guard_shows_nothing :
    let pass : Pass :=
      ⟨⟨.sample ⟨2024, 3, 9, 14, 5, 7, 0, none, false⟩, [("N", .string "x")]⟩, .builtin, none⟩
    let template := "\x7b\x7b if no \x7d\x7dA\x7b\x7b else \x7d\x7d\x7b\x7b .N \x7d\x7d" ++
      "\x7b\x7b no \x7d\x7d\x7b\x7b end \x7d\x7db\x7b\x7b .N"
    let undefined : Issue := .ofEvalError none ⟨.undefined "no", "no"⟩
    let unclosed : Issue := .ofParseError none ⟨.unclosedAction 48, "\x7b\x7b .N"⟩
    ∃ pieces, pass.Account template pieces [undefined, undefined, unclosed] ∧
      String.join (pieces.map Piece.written) = "x\x7b\x7b no \x7d\x7db\x7b\x7b .N" ∧
      String.join ((pieces.filter fun piece => !piece.isFailure).map Piece.written) =
        "xb\x7b\x7b .N" := by
  have parsed : Template.parse
      ("\x7b\x7b if no \x7d\x7dA\x7b\x7b else \x7d\x7d\x7b\x7b .N \x7d\x7d" ++
        "\x7b\x7b no \x7d\x7d\x7b\x7b end \x7d\x7db\x7b\x7b .N") =
      ⟨[.conditional [.mk "\x7b\x7b if no \x7d\x7d" "no" [.text "A"]]
          [.action "\x7b\x7b .N \x7d\x7d" ".N", .action "\x7b\x7b no \x7d\x7d" "no"], .text "b"],
        some ⟨.unclosedAction 48, "\x7b\x7b .N"⟩, "\x7b\x7b .N"⟩ := by cbv
  have looked : Expression.lookup "no" = .ok ⟨"no", .call "no" []⟩ := by cbv
  have failed (scope : Scope) : (Node.call "no" []).eval scope .builtin =
      .error (.undefined "no") := by cbv
  have shown (context : Context) :
      reading ⟨⟨context, [("N", .string "x")]⟩, .builtin, none⟩ ".N" = .ok (.ok (.string "x")) := by
    cbv
  intro pass template undefined unclosed
  have read : pass.reading "no" = .ok (.error undefined) := by
    rw [reading, looked]
    simp only [Expression.eval, pass, failed]
    rfl
  have transcript : pass.transcript template =
      { pieces := [.text "x", .failure "\x7b\x7b no \x7d\x7d", .text "b", .text "\x7b\x7b .N"]
        issues := [undefined, undefined, unclosed]
        lookups := ["no", ".N", "no"] } := by
    have value : pass.reading ".N" = .ok (.ok (.string "x")) := shown _
    have untaken : pass.guardHolds "no" = false := by rw [guardHolds, read]
    simp only [Pass.transcript, template, parsed, parsedTranscript, partsTranscript,
      partTranscript, branchesTranscript, takes, List.any_cons, List.any_nil,
      Template.Branch.condition, untaken, guardTranscript, actionTranscript, read, value,
      Value.text]
    rfl
  have answer (marker : ErrorMarker) :
      (pass.resolve marker template (Session.cacheAfter [])).answer =
        .ok ((pass.transcript template).resolution marker) := by
    rw [pass.answer_eq_ok_iff marker _ (Session.cacheAfter_sound []), transcript]
    exact ⟨rfl, rfl⟩
  rcases pass.resolve_by_marker template with ⟨limit, _, stopped⟩ | ⟨pieces, issues, account, both⟩
  · have impossible := (stopped .source []).1
    rw [answer] at impossible
    contradiction
  · obtain ⟨whole, without, -⟩ := both []
    rw [answer, transcript] at whole without
    obtain ⟨written, rfl⟩ := Resolution.mk.inj (Except.ok.inj whole)
    obtain ⟨kept, -⟩ := Resolution.mk.inj (Except.ok.inj without)
    exact ⟨pieces, account, by rw [← written]; decide, by rw [← kept]; decide⟩

end Pass

end Promptline
