import Promptline.Proofs.Resolve.Transcript

/-!
# Resolving through the cache

A cache is sound if it holds nothing but parse results.  Looking texts up keeps it sound, and
resolving through a sound cache produces exactly the transcript of the template; what the cache
learns on the way are the texts that the transcript lists.
-/

namespace Promptline

namespace Expression

/-- What a cache keeps of an expression text: nothing if it holds an integer that is too long. -/
def kept? (source : String) : Option (Except ParseFault Expression) :=
  match parse source with
  | .ok expression => some (.ok expression)
  | .error (.parse error) => some (.error error.fault)
  | .error (.tooLong _) => none

/-- Whether parsing ends in an expression or in a parse error, so that a cache keeps the result. -/
def isKept (source : String) : Bool :=
  (kept? source).isSome

theorem answer_of_kept? {source : String} {entry : Except ParseFault Expression}
    (kept : kept? source = some entry) : Cache.answer source entry = lookup source := by
  rw [kept?] at kept
  rw [lookup]
  cases parsed : parse source with
  | ok expression =>
      rw [parsed] at kept
      obtain rfl := Option.some.inj kept
      rfl
  | error fault =>
      rw [parsed] at kept
      cases fault with
      | parse error =>
          obtain rfl := Option.some.inj kept
          rfl
      | tooLong limit => contradiction

end Expression

namespace Cache

/-- A cache holds nothing but what parsing its sources gives. -/
structure Sound (cache : Cache) : Prop where
  /-- Expressions and defects are parse results. -/
  expressions : ∀ source entry,
    Entries.get? source cache.expressions = some entry → Expression.kept? source = some entry
  /-- Templates are parse results. -/
  templates : ∀ source parsed,
    Entries.get? source cache.templates = some parsed → parsed = Template.parse source

/-- The cache after looking an expression up. -/
def learn (cache : Cache) (source : String) : Cache :=
  (cache.expression source).2

/-- The cache after looking expressions up in order. -/
def learnAll (cache : Cache) (sources : List String) : Cache :=
  sources.foldl learn cache

/-- The cache after looking a template up. -/
def learnTemplate (cache : Cache) (source : String) : Cache :=
  (cache.template source).2

theorem sound_empty : Sound {} where
  expressions := by simp [Entries.get?]
  templates := by simp [Entries.get?]

theorem learn_of_known {cache : Cache} {source : String} {entry : Except ParseFault Expression}
    (known : Entries.get? source cache.expressions = some entry) : cache.learn source = cache := by
  simp [learn, expression, known]

theorem learn_of_unknown {cache : Cache} {source : String}
    (unknown : Entries.get? source cache.expressions = none) :
    cache.learn source =
      match Expression.kept? source with
      | some entry =>
          { cache with expressions := Entries.insert source entry cache.expressions }
      | none => cache := by
  simp only [learn, expression, unknown, Expression.kept?]
  cases Expression.parse source with
  | ok parsed => rfl
  | error fault => cases fault <;> rfl

theorem learn_of_not_kept {cache : Cache} {source : String}
    (unknown : Entries.get? source cache.expressions = none)
    (dropped : Expression.kept? source = none) : cache.learn source = cache := by
  rw [learn_of_unknown unknown, dropped]

@[simp]
theorem learn_templates (cache : Cache) (source : String) :
    (cache.learn source).templates = cache.templates := by
  cases known : Entries.get? source cache.expressions with
  | some entry => rw [learn_of_known known]
  | none =>
      rw [learn_of_unknown known]
      cases Expression.kept? source <;> rfl

theorem learnTemplate_of_known {cache : Cache} {source : String} {parsed : Template.Parsed}
    (known : Entries.get? source cache.templates = some parsed) :
    cache.learnTemplate source = cache := by
  simp [learnTemplate, template, known]

theorem learnTemplate_of_unknown {cache : Cache} {source : String}
    (unknown : Entries.get? source cache.templates = none) :
    cache.learnTemplate source =
      { cache with
        templates := Entries.insert source (Template.parse source) cache.templates } := by
  simp [learnTemplate, template, unknown]

/-- A sound cache answers what parsing would. -/
theorem Sound.expression_eq {cache : Cache} (sound : cache.Sound) (source : String) :
    cache.expression source = (Expression.lookup source, cache.learn source) := by
  refine Prod.ext ?_ rfl
  cases known : Entries.get? source cache.expressions with
  | some entry =>
      simp only [expression, known]
      exact Expression.answer_of_kept? (sound.expressions source entry known)
  | none =>
      simp only [expression, known, Expression.lookup]
      cases Expression.parse source with
      | ok parsed => rfl
      | error fault => cases fault <;> rfl

/-- A sound cache gives the parsed template. -/
theorem Sound.template_eq {cache : Cache} (sound : cache.Sound) (source : String) :
    cache.template source = (Template.parse source, cache.learnTemplate source) := by
  refine Prod.ext ?_ rfl
  cases known : Entries.get? source cache.templates with
  | some parsed => simp [template, known, sound.templates source parsed known]
  | none => simp [template, known]

theorem Sound.learn {cache : Cache} (sound : cache.Sound) (source : String) :
    (cache.learn source).Sound := by
  refine ⟨?_, by simpa using sound.templates⟩
  intro other entry found
  cases known : Entries.get? source cache.expressions with
  | some old =>
      rw [learn_of_known known] at found
      exact sound.expressions other entry found
  | none =>
      rw [learn_of_unknown known] at found
      cases kept : Expression.kept? source with
      | none =>
          rw [kept] at found
          exact sound.expressions other entry found
      | some parsed =>
          simp only [kept] at found
          by_cases same : other = source
          · subst other
            rw [Entries.get?_insert_self] at found
            rw [kept, found]
          · rw [Entries.get?_insert_of_ne _ _ same] at found
            exact sound.expressions other entry found

theorem Sound.learnAll {cache : Cache} (sound : cache.Sound) (sources : List String) :
    (cache.learnAll sources).Sound := by
  induction sources generalizing cache with
  | nil => exact sound
  | cons source rest ih => exact ih (sound.learn source)

theorem Sound.learnTemplate {cache : Cache} (sound : cache.Sound) (source : String) :
    (cache.learnTemplate source).Sound := by
  cases known : Entries.get? source cache.templates with
  | some parsed => rwa [learnTemplate_of_known known]
  | none =>
      rw [learnTemplate_of_unknown known]
      refine ⟨sound.expressions, ?_⟩
      intro other parsed found
      by_cases same : other = source
      · subst other
        rw [Entries.get?_insert_self] at found
        exact (Option.some.inj found).symm
      · rw [Entries.get?_insert_of_ne _ _ same] at found
        exact sound.templates other parsed found

end Cache

/-- The progress after a transcript has been added to it. -/
def Progress.extend (progress : Progress) (transcript : Transcript) : Progress where
  cache := progress.cache.learnAll transcript.lookups
  pieces := transcript.pieces.reverse ++ progress.pieces
  issues := transcript.issues.reverse ++ progress.issues

theorem Progress.extend_append (progress : Progress) {first : Transcript}
    (complete : first.limit = none) (second : Transcript) :
    progress.extend (first ++ second) = (progress.extend first).extend second := by
  rw [Transcript.append_of_complete complete]
  simp [extend, Cache.learnAll, List.foldl_append]

namespace Resolving

variable {α β : Type}

/-- From every progress with a sound cache, the computation adds a transcript; unless the
transcript stops, it ends in the result. -/
def Performs (computation : Resolving α) (transcript : Transcript) (result : α) : Prop :=
  ∀ progress : Progress, progress.cache.Sound →
    computation.run.run progress = (transcript.outcome result, progress.extend transcript)

theorem performs_pure (result : α) : Performs (pure result) {} result := by
  intro progress sound
  rfl

/-- Performing one computation and then another adds both transcripts. -/
theorem Performs.bind {first : Resolving α} {next : α → Resolving β} {produced later : Transcript}
    {result : α} {final : β} (performs : Performs first produced result)
    (continues : Performs (next result) later final) :
    Performs (first >>= next) (produced ++ later) final := by
  intro progress sound
  rw [ExceptT.run_bind, StateT.run_bind, performs progress sound]
  cases stop : produced.limit with
  | some limit =>
      rw [Transcript.append_of_stopped stop]
      simp only [Transcript.outcome, stop]
      rfl
  | none =>
      have extended : (progress.extend produced).cache.Sound := sound.learnAll _
      have finished := continues (progress.extend produced) extended
      simp only [Transcript.outcome, stop, Transcript.limit_append, Option.none_or,
        progress.extend_append stop]
      exact finished

theorem Performs.seq {first : Resolving α} {second : Resolving β} {produced later : Transcript}
    {result : α} {final : β} (performs : Performs first produced result)
    (continues : Performs second later final) :
    Performs (first >>= fun _ => second) (produced ++ later) final :=
  performs.bind continues

theorem performs_emit (piece : Piece) : Performs (emit piece) { pieces := [piece] } () := by
  intro progress sound
  rfl

theorem performs_report (issue : Issue) : Performs (report issue) { issues := [issue] } () := by
  intro progress sound
  rfl

theorem performs_expression (source : String) :
    Performs (expression source) (.looking source) (Expression.lookup source) := by
  intro progress sound
  change (Except.ok (progress.cache.expression source).1,
    { progress with cache := (progress.cache.expression source).2 }) = _
  rw [sound.expression_eq source]
  rfl

/-- An integer that is too long stops a computation; no result is reached. -/
theorem performs_throw (limit : DigitLimit) (result : α) :
    Performs (throw limit) (.stopped limit) result := by
  intro progress sound
  rfl

end Resolving

namespace Pass

open Resolving

theorem performs_value (pass : Pass) {source : String} {result : Except Issue Value}
    (read : pass.reading source = .ok result) :
    Performs (pass.value source) (.looking source) result := by
  rw [reading] at read
  rw [← Transcript.append_nil (.looking source)]
  refine Performs.bind (performs_expression source) ?_
  cases found : Expression.lookup source with
  | error fault =>
      rw [found] at read
      cases fault with
      | tooLong limit => contradiction
      | parse error =>
          obtain rfl := Except.ok.inj read
          exact performs_pure _
  | ok expression =>
      simp only [found] at read ⊢
      cases evaluated : expression.eval pass.scope pass.registry with
      | error error =>
          rw [evaluated] at read
          obtain rfl := Except.ok.inj read
          exact performs_pure _
      | ok value =>
          rw [evaluated] at read
          obtain rfl := Except.ok.inj read
          exact performs_pure _

theorem performs_value_of_limit (pass : Pass) {source : String} {limit : DigitLimit}
    (read : pass.reading source = .error limit) (result : Except Issue Value) :
    Performs (pass.value source) (.looking source ++ .stopped limit) result := by
  rw [reading] at read
  refine Performs.bind (performs_expression source) ?_
  cases found : Expression.lookup source with
  | error fault =>
      rw [found] at read
      cases fault with
      | tooLong other =>
          obtain rfl := Except.error.inj read
          exact performs_throw _ _
      | parse error => contradiction
  | ok expression =>
      simp only [found] at read
      split at read <;> contradiction

/-- A computation that starts with a value that cannot be read stops there. -/
theorem performs_value_bind_of_limit (pass : Pass) {source : String} {limit : DigitLimit}
    (read : pass.reading source = .error limit) {β : Type}
    (next : Except Issue Value → Resolving β) (final : β) :
    Performs (pass.value source >>= next) (.looking source ++ .stopped limit) final := by
  intro progress sound
  have stops := performs_value_of_limit pass read (.ok .nil) progress sound
  rw [ExceptT.run_bind, StateT.run_bind, stops]
  rfl

/-- Resolving a placeholder adds its transcript. -/
theorem performs_action (pass : Pass) (source body : String) :
    Performs (pass.action source body) (pass.actionTranscript source body) () := by
  rw [action, actionTranscript]
  cases read : pass.reading body with
  | error limit => exact performs_value_bind_of_limit pass read _ ()
  | ok result =>
      refine Performs.bind (performs_value pass read) ?_
      cases result with
      | error issue => exact (performs_report issue).seq (performs_emit (.failure source))
      | ok value =>
          simp only
          cases value.text with
          | error limit => exact performs_throw limit ()
          | ok text => exact performs_emit (.text text)

/-- Testing a guard adds its transcript. -/
theorem performs_holds (pass : Pass) (condition : String) :
    Performs (pass.holds condition) (pass.guardTranscript condition)
      (pass.guardHolds condition) := by
  rw [holds, guardTranscript, guardHolds]
  cases read : pass.reading condition with
  | error limit => exact performs_value_bind_of_limit pass read _ false
  | ok result =>
      refine Performs.bind (performs_value pass read) ?_
      cases result with
      | error issue => exact (performs_report issue).seq (performs_pure false)
      | ok value => exact performs_pure value.isTruthy

mutual

/-- Resolving a part of a template adds its transcript. -/
theorem performs_part (pass : Pass) (part : Template.Part) :
    Performs (pass.part part) (pass.partTranscript part) () := by
  cases part with
  | text text => exact performs_emit (.text text)
  | action source body => exact pass.performs_action source body
  | conditional branches otherwise =>
      rw [part, partTranscript]
      refine Performs.bind (pass.performs_branches branches) ?_
      cases pass.takes branches with
      | true => exact performs_pure ()
      | false => exact pass.performs_parts otherwise

/-- Resolving parts in order adds their transcripts. -/
theorem performs_parts (pass : Pass) (parts : List Template.Part) :
    Performs (pass.parts parts) (pass.partsTranscript parts) () := by
  cases parts with
  | nil => exact performs_pure ()
  | cons first rest => exact Performs.bind (pass.performs_part first) (pass.performs_parts rest)

/-- Resolving the first branch whose guard holds adds its transcript, and tells whether there is
one. -/
theorem performs_branches (pass : Pass) (branches : List Template.Branch) :
    Performs (pass.branches branches) (pass.branchesTranscript branches)
      (pass.takes branches) := by
  cases branches with
  | nil => exact performs_pure false
  | cons branch rest =>
      obtain ⟨source, condition, body⟩ := branch
      rw [branches, branchesTranscript]
      refine Performs.bind (pass.performs_holds condition) ?_
      cases holds : pass.guardHolds condition with
      | true =>
          have taken : pass.takes (.mk source condition body :: rest) = true := by
            simp [takes, Template.Branch.condition, holds]
          rw [taken, ← Transcript.append_nil (if true = true then _ else _)]
          exact Performs.bind (pass.performs_parts body) (performs_pure true)
      | false =>
          have passed : pass.takes (.mk source condition body :: rest) = pass.takes rest := by
            simp [takes, Template.Branch.condition, holds]
          rw [passed]
          exact pass.performs_branches rest

end

/-- Resolving a parsed template adds its transcript. -/
theorem performs_template (pass : Pass) (parsed : Template.Parsed) :
    Performs (pass.template parsed) (pass.parsedTranscript parsed) () := by
  rw [template, parsedTranscript]
  refine (pass.performs_parts parsed.parts).seq ?_
  rw [defectTranscript]
  cases parsed.error with
  | none => exact performs_pure ()
  | some error =>
      exact (performs_report (.ofParseError pass.segment error)).seq
        (performs_emit (.text parsed.remainder))

/-- Through a sound cache a template gives the pieces and the issues of its transcript, and the
cache learns the template and the expressions that the transcript looks up. -/
theorem pieces_eq (pass : Pass) (template : String) {cache : Cache} (sound : cache.Sound) :
    pass.pieces template cache =
      { answer := (pass.transcript template).outcome (pass.transcript template).pieces
        cache := (cache.learnTemplate template).learnAll (pass.transcript template).lookups
        reported := (pass.transcript template).issues } := by
  have started : (pass.source template).run.run { cache := cache } =
      (pass.template (cache.template template).1).run.run
        { cache := (cache.template template).2 } := rfl
  rw [pieces, started, sound.template_eq template]
  rw [pass.performs_template _ _ (sound.learnTemplate template)]
  simp only [Progress.extend, transcript, List.append_nil, List.reverse_reverse]
  cases stop : (pass.parsedTranscript (Template.parse template)).limit <;>
    simp [Transcript.outcome, stop, Except.map]

/-- Through a sound cache a template gives the text and the issues of its transcript. -/
theorem resolve_eq (pass : Pass) (marker : ErrorMarker) (template : String) {cache : Cache}
    (sound : cache.Sound) :
    pass.resolve marker template cache =
      { answer := (pass.transcript template).outcome ((pass.transcript template).resolution marker)
        cache := (cache.learnTemplate template).learnAll (pass.transcript template).lookups
        reported := (pass.transcript template).issues } := by
  rw [resolve, pass.pieces_eq template sound]
  cases stop : (pass.transcript template).limit <;>
    simp [Transcript.outcome, Transcript.resolution, stop, Except.map]

theorem answer_eq_ok_iff (pass : Pass) (marker : ErrorMarker) (template : String) {cache : Cache}
    (sound : cache.Sound) (resolution : Resolution) :
    (pass.resolve marker template cache).answer = .ok resolution ↔
      (pass.transcript template).limit = none ∧
        (pass.transcript template).resolution marker = resolution := by
  rw [pass.resolve_eq marker template sound, Transcript.outcome_eq_ok_iff]

end Pass

end Promptline
