import Mathlib
import Promptline.Proofs.Resolve.Session
import Promptline.Proofs.Segment.Mentions
import Promptline.Segment.Resolved

/-!
# Segments see only what precedes them

The segments of a block are resolved from left to right, each one in a context that holds the fields
of those before it, and all blocks share one parse cache.  Neither the cache nor another block nor a
later segment shows in what a segment gives.
-/

namespace Promptline

theorem exists_of_map_eq_ok {ε α β : Type} {f : α → β} {answer : Except ε α} {result : β}
    (answered : answer.map f = .ok result) : ∃ value, answer = .ok value ∧ f value = result := by
  cases answer with
  | error fault => cases answered
  | ok value => exact ⟨value, rfl, Except.ok.inj answered⟩

/-- A run with a shared cache gives the same through every sound cache, and leaves it sound. -/
def Transparent {α : Type} (run : Cache → Outcome α) : Prop :=
  ∃ answer reported, ∀ cache : Cache, cache.Sound →
    ∃ after : Cache, after.Sound ∧ run cache = ⟨answer, after, reported⟩

namespace Transparent

variable {α : Type} {run : Cache → Outcome α}

theorem answer_eq (transparent : Transparent run) {cache : Cache} (sound : cache.Sound) :
    (run cache).answer = (run {}).answer := by
  obtain ⟨answer, reported, runs⟩ := transparent
  obtain ⟨_, -, here⟩ := runs cache sound
  obtain ⟨_, -, fresh⟩ := runs {} Cache.sound_empty
  rw [here, fresh]

theorem reported_eq (transparent : Transparent run) {cache : Cache} (sound : cache.Sound) :
    (run cache).reported = (run {}).reported := by
  obtain ⟨answer, reported, runs⟩ := transparent
  obtain ⟨_, -, here⟩ := runs cache sound
  obtain ⟨_, -, fresh⟩ := runs {} Cache.sound_empty
  rw [here, fresh]

theorem sound (transparent : Transparent run) {cache : Cache} (sound : cache.Sound) :
    (run cache).cache.Sound := by
  obtain ⟨answer, reported, runs⟩ := transparent
  obtain ⟨after, kept, here⟩ := runs cache sound
  rwa [here]

end Transparent

namespace Segment

/-- The properties of a segment that pass their checks. -/
def checkedProperties (segment : Segment) : Properties :=
  (Properties.validate (PropertyKind.ofType segment.type) segment.properties).1

/-- The issues of the properties that do not pass their checks. -/
def refused (segment : Segment) (identifier : String) : List Issue :=
  (Properties.validate (PropertyKind.ofType segment.type) segment.properties).2.map
    (Issue.ofRejection identifier)

/-- The fields of a segment, if they can be derived. -/
def derived (segment : Segment) (context : Context) : Except DigitLimit (Entries Value) :=
  Derived.fields segment.type context segment.checkedProperties

/-- The fields that a segment publishes; it publishes none if they cannot be derived. -/
def published (segment : Segment) (context : Context) : Entries Value :=
  (segment.derived context).toOption.getD []

/-- The templates of a segment's text, of what stands before it and of what stands after it. -/
def templates (segment : Segment) : List String :=
  let properties := segment.checkedProperties
  [segment.textTemplate properties, properties.before, properties.after]

/-- Whether a template of a segment has the name in one of its paths. -/
def mentions (name : String) (segment : Segment) : Bool :=
  segment.templates.any (Template.mentions name)

/-- The identifier of the segment with the given position in the block with the given position. -/
def place (block position : Nat) (segment : Segment) : String :=
  toString block ++ "." ++ toString position ++ ":" ++ segment.key

theorem published_of_derived {segment : Segment} {context : Context} {fields : Entries Value}
    (derived : segment.derived context = .ok fields) : segment.published context = fields := by
  rw [published, derived]
  rfl

theorem derived_publishing (segment : Segment) (segments : Entries (Entries Value))
    (context : Context) :
    segment.derived (context.publishing segments) = segment.derived context := by
  unfold derived Derived.fields
  split <;> rfl

theorem published_publishing (segment : Segment) (segments : Entries (Entries Value))
    (context : Context) :
    segment.published (context.publishing segments) = segment.published context := by
  rw [published, segment.derived_publishing, published]

theorem published_withSegment (segment : Segment) (key : String) (fields : Entries Value)
    (context : Context) :
    segment.published (context.withSegment key fields) = segment.published context :=
  segment.published_publishing _ context

end Segment

/-- The context after segments have published their fields, in order. -/
def Context.publishedBy (segments : List Segment) (context : Context) : Context :=
  segments.foldl (fun seen segment => seen.withSegment segment.key (segment.published context))
    context

namespace Context

theorem publishedBy_concat (earlier : List Segment) (segment : Segment) (context : Context) :
    context.publishedBy (earlier ++ [segment]) =
      (context.publishedBy earlier).withSegment segment.key (segment.published context) := by
  rw [publishedBy, List.foldl_append]
  rfl

/-- Publishing changes nothing but the published fields. -/
theorem publishedBy_eq (segments : List Segment) (context : Context) :
    context.publishedBy segments =
      context.publishing (context.publishedBy segments).segments := by
  induction segments using List.reverseRecOn with
  | nil => rfl
  | append_singleton earlier segment ih =>
      rw [publishedBy_concat, ih]
      rfl

theorem published_publishedBy (segment : Segment) (earlier : List Segment) (context : Context) :
    segment.published (context.publishedBy earlier) = segment.published context := by
  rw [publishedBy_eq, segment.published_publishing]

/-- Under every key stand the fields of the last segment with it. -/
theorem get?_publishedBy (key : String) (segments : List Segment) (context : Context) :
    Entries.get? key (context.publishedBy segments).segments =
      ((segments.reverse.find? (·.key == key)).map (·.published context)).or
        (Entries.get? key context.segments) := by
  induction segments using List.reverseRecOn with
  | nil => rfl
  | append_singleton earlier segment ih =>
      rw [publishedBy_concat, withSegment, List.reverse_concat, List.find?_cons]
      by_cases same : segment.key = key
      · subst same
        simp
      · have apart : (segment.key == key) = false := by simpa using same
        rw [apart, Entries.get?_insert_of_ne _ _ (Ne.symm same), ih]

end Context

/-- A resolved segment, put together from what its three templates give. -/
def Segment.assembled (segment : Segment) (identifier : String) (context : Context)
    (text before after : Resolution) : ResolvedSegment where
  segment := segment
  identifier := identifier
  text := text.text
  before := before.text
  after := after.text
  fields := segment.published context
  issues :=
    (Properties.validate (PropertyKind.ofType segment.type) segment.properties).2.map
      (Issue.ofRejection identifier) ++ text.issues ++ before.issues ++ after.issues

namespace Processor

variable (processor : Processor)

/-! ## One segment -/

/-- What the templates of a segment are resolved with. -/
def pass (segment : Segment) (identifier : String) (context : Context) : Pass :=
  let fields := segment.published context
  ⟨⟨context.withSegment segment.key fields, fields⟩, processor.registry, some identifier⟩

theorem pass_publishing (segment : Segment) (identifier : String)
    (segments : Entries (Entries Value)) (context : Context) :
    processor.pass segment identifier (context.publishing segments) =
      (processor.pass segment identifier context).publishing
        (Entries.insert segment.key (segment.published context) segments) := by
  rw [pass, segment.published_publishing]
  rfl

theorem resolveText_transparent (pass : Pass) (template : String) :
    Transparent (processor.resolveText pass template) := by
  by_cases empty : template = ""
  · exact ⟨.ok ⟨"", []⟩, [], fun cache sound => ⟨cache, sound, by rw [resolveText, if_pos empty]⟩⟩
  · let transcript := pass.transcript template
    refine ⟨transcript.outcome (transcript.resolution processor.marker), transcript.issues, ?_⟩
    intro cache sound
    refine ⟨_, (sound.learnTemplate template).learnAll transcript.lookups, ?_⟩
    rw [resolveText, if_neg empty, pass.resolve_eq processor.marker template sound]

theorem resolveText_publishing (segments : Entries (Entries Value)) (pass : Pass)
    {template : String} (absent : Template.mentions "Segments" template = false) {cache : Cache}
    (sound : cache.Sound) :
    processor.resolveText (pass.publishing segments) template cache =
      processor.resolveText pass template cache := by
  rw [resolveText, resolveText, Pass.resolve_eq _ _ _ sound, Pass.resolve_eq _ _ _ sound,
    pass.transcript_publishing segments absent]

theorem segment_of_error {segment : Segment} {context : Context} {limit : DigitLimit}
    (failed : segment.derived context = .error limit) (identifier : String) (cache : Cache) :
    processor.segment segment identifier context cache =
      ⟨.error limit, cache, segment.refused identifier⟩ := by
  rw [Segment.derived, Segment.checkedProperties] at failed
  simp only [Processor.segment, failed, Segment.refused]

/-- A segment whose fields can be derived resolves its templates. -/
theorem segment_of_derived {segment : Segment} {context : Context} {fields : Entries Value}
    (derived : segment.derived context = .ok fields) (identifier : String) (cache : Cache) :
    processor.segment segment identifier context cache =
      processor.resolveTemplates (processor.pass segment identifier context) segment identifier
        segment.checkedProperties (segment.refused identifier) cache := by
  rw [pass, Segment.published_of_derived derived]
  rw [Segment.derived, Segment.checkedProperties] at derived
  simp only [Processor.segment, derived, Segment.refused, Segment.checkedProperties]

theorem resolveTemplates_transparent (pass : Pass) (segment : Segment) (identifier : String)
    (properties : Properties) (refused : List Issue) :
    Transparent
      (processor.resolveTemplates pass segment identifier properties refused) := by
  obtain ⟨text, textIssues, runText⟩ :=
    processor.resolveText_transparent pass (segment.textTemplate properties)
  obtain ⟨before, beforeIssues, runBefore⟩ :=
    processor.resolveText_transparent pass properties.before
  obtain ⟨after, afterIssues, runAfter⟩ :=
    processor.resolveText_transparent pass properties.after
  cases text with
  | error limit =>
      refine ⟨.error limit, refused ++ textIssues, fun cache sound => ?_⟩
      obtain ⟨first, sound, shown⟩ := runText cache sound
      exact ⟨first, sound, by simp only [resolveTemplates, shown]⟩
  | ok text =>
  cases before with
  | error limit =>
      refine ⟨.error limit, refused ++ textIssues ++ beforeIssues, fun cache sound => ?_⟩
      obtain ⟨first, sound, shown⟩ := runText cache sound
      obtain ⟨second, sound, lead⟩ := runBefore first sound
      exact ⟨second, sound, by simp only [resolveTemplates, shown, lead]⟩
  | ok before =>
  let issues := refused ++ textIssues ++ beforeIssues ++ afterIssues
  cases after with
  | error limit =>
      refine ⟨.error limit, issues, fun cache sound => ?_⟩
      obtain ⟨first, sound, shown⟩ := runText cache sound
      obtain ⟨second, sound, lead⟩ := runBefore first sound
      obtain ⟨third, sound, tail⟩ := runAfter second sound
      exact ⟨third, sound, by simp only [resolveTemplates, shown, lead, tail, issues]⟩
  | ok after =>
      refine ⟨.ok ⟨segment, identifier, text.text, before.text, after.text, pass.scope.fields,
        issues⟩, issues, fun cache sound => ?_⟩
      obtain ⟨first, sound, shown⟩ := runText cache sound
      obtain ⟨second, sound, lead⟩ := runBefore first sound
      obtain ⟨third, sound, tail⟩ := runAfter second sound
      exact ⟨third, sound, by simp only [resolveTemplates, shown, lead, tail, issues]⟩

theorem segment_transparent (segment : Segment) (identifier : String) (context : Context) :
    Transparent (processor.segment segment identifier context) := by
  cases derived : segment.derived context with
  | error limit =>
      exact ⟨.error limit, segment.refused identifier, fun cache sound =>
        ⟨cache, sound, processor.segment_of_error derived identifier cache⟩⟩
  | ok fields =>
      have same : processor.segment segment identifier context = _ :=
        funext (processor.segment_of_derived derived identifier)
      rw [same]
      exact processor.resolveTemplates_transparent _ segment identifier _ _

/-- What a template of a segment gives when it is resolved alone. -/
def alone (segment : Segment) (identifier : String) (context : Context) (template : String) :
    Except DigitLimit Resolution :=
  (processor.resolveText (processor.pass segment identifier context) template {}).answer

theorem reported_of_resolveText {pass : Pass} {template : String} {cache : Cache}
    {resolution : Resolution}
    (answered : (processor.resolveText pass template cache).answer = .ok resolution) :
    (processor.resolveText pass template cache).reported = resolution.issues := by
  rw [resolveText] at answered ⊢
  split at answered
  · next empty =>
      obtain rfl := Except.ok.inj answered
      rw [if_pos empty]
  · next given =>
      rw [if_neg given]
      obtain ⟨pieces, -, rfl⟩ := exists_of_map_eq_ok answered
      rfl

/-- A segment whose fields can be derived is put together from what its templates give, each of them
resolved alone. -/
theorem segment_answer (segment : Segment) (identifier : String) (context : Context)
    {cache : Cache} (sound : cache.Sound) :
    (processor.segment segment identifier context cache).answer = do
      let _ ← segment.derived context
      let text ← processor.alone segment identifier context
        (segment.textTemplate segment.checkedProperties)
      let before ← processor.alone segment identifier context segment.checkedProperties.before
      let after ← processor.alone segment identifier context segment.checkedProperties.after
      return segment.assembled identifier context text before after := by
  have transparent (template : String) :=
    processor.resolveText_transparent (processor.pass segment identifier context) template
  have soundText := (transparent (segment.textTemplate segment.checkedProperties)).sound sound
  have soundBefore := (transparent segment.checkedProperties.before).sound soundText
  rw [alone, alone, alone, ← (transparent _).answer_eq sound, ← (transparent _).answer_eq soundText,
    ← (transparent _).answer_eq soundBefore]
  cases derived : segment.derived context with
  | error limit =>
      rw [processor.segment_of_error derived]
      rfl
  | ok fields =>
  rw [processor.segment_of_derived derived, resolveTemplates]
  dsimp only
  split
  · next limit failed => rw [failed]; rfl
  · next text shown =>
      rw [shown, processor.reported_of_resolveText shown]
      split
      · next limit failed => rw [failed]; rfl
      · next before lead =>
          rw [lead, processor.reported_of_resolveText lead]
          split
          · next limit failed => rw [failed]; rfl
          · next after tail =>
              rw [tail, processor.reported_of_resolveText tail]
              rfl

/-- A segment whose fields can be derived and whose templates all have an answer has one. -/
theorem exists_segment_answer {segment : Segment} {identifier : String} {context : Context}
    {fields : Entries Value} (derived : segment.derived context = .ok fields)
    (answered : ∀ template ∈ segment.templates, ∃ resolution,
      (processor.resolveText (processor.pass segment identifier context) template {}).answer =
        .ok resolution) {cache : Cache} (sound : cache.Sound) :
    ∃ resolved, (processor.segment segment identifier context cache).answer = .ok resolved := by
  simp only [Segment.templates, List.forall_mem_cons] at answered
  obtain ⟨⟨text, shown⟩, ⟨before, lead⟩, ⟨after, tail⟩, -⟩ := answered
  rw [segment_answer _ _ _ _ sound, alone, alone, alone, derived, shown, lead, tail]
  exact ⟨_, rfl⟩

/-- A segment that has an answer has fields, and its templates give the answer. -/
theorem exists_derived_of_segment {segment : Segment} {identifier : String} {context : Context}
    {cache : Cache} {resolved : ResolvedSegment}
    (answered : (processor.segment segment identifier context cache).answer = .ok resolved) :
    ∃ fields, segment.derived context = .ok fields ∧
      (processor.resolveTemplates (processor.pass segment identifier context) segment identifier
        segment.checkedProperties (segment.refused identifier) cache).answer = .ok resolved := by
  cases derived : segment.derived context with
  | error limit =>
      rw [processor.segment_of_error derived] at answered
      cases answered
  | ok fields =>
      rw [processor.segment_of_derived derived] at answered
      exact ⟨fields, rfl, answered⟩

/-- A segment keeps its key and publishes its fields, whatever its templates give. -/
theorem published_of_segment {segment : Segment} {identifier : String} {context : Context}
    {cache : Cache} {resolved : ResolvedSegment}
    (answered : (processor.segment segment identifier context cache).answer = .ok resolved) :
    resolved.segment = segment ∧ resolved.fields = segment.published context := by
  obtain ⟨fields, -, answered⟩ := processor.exists_derived_of_segment answered
  simp only [resolveTemplates] at answered
  split at answered
  · cases answered
  split at answered
  · cases answered
  split at answered
  · cases answered
  · obtain rfl := Except.ok.inj answered
    exact ⟨rfl, rfl⟩

/-- A segment that does not mention published fields gives the same, whatever is published. -/
theorem segment_publishing {segment : Segment} (absent : segment.mentions "Segments" = false)
    (segments : Entries (Entries Value)) (identifier : String) (context : Context) {cache : Cache}
    (sound : cache.Sound) :
    processor.segment segment identifier (context.publishing segments) cache =
      processor.segment segment identifier context cache := by
  have unmentioned : ∀ template ∈ segment.templates,
      Template.mentions "Segments" template = false := by
    simpa [Segment.mentions] using absent
  obtain ⟨inText, inRest⟩ := List.forall_mem_cons.mp unmentioned
  obtain ⟨inBefore, inRest⟩ := List.forall_mem_cons.mp inRest
  obtain ⟨inAfter, -⟩ := List.forall_mem_cons.mp inRest
  let pass := processor.pass segment identifier context
  have texts {template : String} (absent : Template.mentions "Segments" template = false)
      {memory : Cache} (sound : memory.Sound) :
      processor.resolveText (processor.pass segment identifier (context.publishing segments))
        template memory = processor.resolveText pass template memory := by
    rw [processor.pass_publishing]
    exact processor.resolveText_publishing _ pass absent sound
  have text := texts inText sound
  have soundText := (processor.resolveText_transparent pass
    (segment.textTemplate segment.checkedProperties)).sound sound
  have before := texts inBefore soundText
  have soundBefore := (processor.resolveText_transparent pass
    segment.checkedProperties.before).sound soundText
  have after := texts inAfter soundBefore
  have same := segment.derived_publishing segments context
  cases derived : segment.derived context with
  | error limit =>
      rw [processor.segment_of_error derived, processor.segment_of_error (same.trans derived)]
  | ok fields =>
      rw [processor.segment_of_derived derived, processor.segment_of_derived (same.trans derived)]
      have kept : (processor.pass segment identifier (context.publishing segments)).scope.fields =
          pass.scope.fields := segment.published_publishing segments context
      simp only [resolveTemplates, text, before, after, kept, pass]

/-! ## The segments of a block -/

section Step

variable {processor} {block position : Nat} {segment : Segment} {context : Context} {cache : Cache}

theorem segments_cons_of_error {limit : DigitLimit}
    (failed : (processor.segment segment (segment.place block position) context cache).answer =
      .error limit) (rest : List Segment) :
    (processor.segments block position (segment :: rest) context cache).answer = .error limit := by
  rw [Segment.place] at failed
  simp only [Processor.segments, failed]

theorem segments_cons_of_ok {resolved : ResolvedSegment}
    (answered : (processor.segment segment (segment.place block position) context cache).answer =
      .ok resolved) (rest : List Segment) :
    (processor.segments block position (segment :: rest) context cache).answer =
      (processor.segments block (position + 1) rest
        (context.withSegment segment.key (segment.published context))
        (processor.segment segment (segment.place block position) context cache).cache).answer.map
          (resolved :: ·) := by
  obtain ⟨kept, published⟩ := processor.published_of_segment answered
  rw [Segment.place] at answered ⊢
  simp only [Processor.segments, answered, ResolvedSegment.key, kept, published]

/-- Segments that all have an answer: the first one has, and so have the others, after it has
published its fields. -/
theorem exists_of_segments_cons {rest : List Segment} {results : List ResolvedSegment}
    (answered : (processor.segments block position (segment :: rest) context cache).answer =
      .ok results) :
    ∃ first others,
      (processor.segment segment (segment.place block position) context cache).answer = .ok first ∧
      (processor.segments block (position + 1) rest
        (context.withSegment segment.key (segment.published context))
        (processor.segment segment (segment.place block position) context cache).cache).answer =
          .ok others ∧
      results = first :: others := by
  cases first : (processor.segment segment (segment.place block position) context cache).answer with
  | error limit =>
      rw [segments_cons_of_error first] at answered
      cases answered
  | ok resolved =>
      rw [segments_cons_of_ok first] at answered
      obtain ⟨others, later, rfl⟩ := exists_of_map_eq_ok answered
      exact ⟨resolved, others, rfl, later, rfl⟩

end Step

/-- Each segment of a block gives what it gives alone, after those before it have published their
fields. -/
theorem segments_answer {block : Nat} {before rest : List Segment} {context : Context}
    {cache : Cache} (sound : cache.Sound) :
    (processor.segments block before.length rest (context.publishedBy before) cache).answer =
      (rest.zipIdx before.length).mapM fun (segment, position) =>
        (processor.segment segment (segment.place block position)
          (context.publishedBy ((before ++ rest).take position)) {}).answer := by
  induction rest generalizing before cache with
  | nil => rfl
  | cons segment rest ih =>
      let seen := context.publishedBy before
      have transparent :=
        processor.segment_transparent segment (segment.place block before.length) seen
      have alone := transparent.answer_eq sound
      have later := @ih (before ++ [segment]) _ (transparent.sound sound)
      rw [List.length_append, List.length_singleton, Context.publishedBy_concat,
        List.append_assoc, List.singleton_append, ← Context.published_publishedBy segment before]
        at later
      have step : (before ++ segment :: rest).take before.length = before := List.take_left
      rw [List.zipIdx_cons, List.mapM_cons]
      simp only [step]
      cases answered : (processor.segment segment (segment.place block before.length) seen
        cache).answer with
      | error limit =>
          rw [segments_cons_of_error answered, ← alone, answered]
          rfl
      | ok resolved =>
          rw [segments_cons_of_ok answered, ← alone, answered, later]
          generalize List.mapM (m := Except DigitLimit) _ _ = others
          cases others <;> rfl

theorem segments_transparent (block position : Nat) (segments : List Segment) (context : Context) :
    Transparent (processor.segments block position segments context) := by
  induction segments generalizing position context with
  | nil => exact ⟨.ok [], [], fun cache sound => ⟨cache, sound, rfl⟩⟩
  | cons segment rest ih =>
      let identifier := segment.place block position
      obtain ⟨first, issues, runFirst⟩ :=
        processor.segment_transparent segment identifier context
      simp only [identifier, Segment.place] at runFirst
      cases first with
      | error limit =>
          refine ⟨.error limit, issues, fun cache sound => ?_⟩
          obtain ⟨after, kept, ran⟩ := runFirst cache sound
          exact ⟨after, kept, by simp only [Processor.segments, ran]⟩
      | ok resolved =>
          obtain ⟨others, laterIssues, runOthers⟩ :=
            ih (position + 1) (context.withSegment resolved.key resolved.fields)
          refine ⟨others.map (resolved :: ·), issues ++ laterIssues, fun cache sound => ?_⟩
          obtain ⟨middle, sound, ran⟩ := runFirst cache sound
          obtain ⟨after, kept, later⟩ := runOthers middle sound
          exact ⟨after, kept, by simp only [Processor.segments, ran, later]⟩

/-- A list of segments that is cut gives the first of what the whole list gives. -/
theorem segments_take {block position : Nat} {segments : List Segment} {context : Context}
    {cache : Cache} {resolved : List ResolvedSegment} (sound : cache.Sound)
    (answered : (processor.segments block position segments context cache).answer = .ok resolved)
    (count : Nat) :
    (processor.segments block position (segments.take count) context cache).answer =
      .ok (resolved.take count) := by
  induction segments generalizing position context cache resolved count with
  | nil =>
      obtain rfl := Except.ok.inj answered
      rw [List.take_nil, List.take_nil]
      rfl
  | cons segment rest ih =>
      cases count with
      | zero => rfl
      | succ count =>
          obtain ⟨first, others, here, later, rfl⟩ := exists_of_segments_cons answered
          have transparent :=
            processor.segment_transparent segment (segment.place block position) context
          rw [List.take_succ_cons, segments_cons_of_ok here,
            ih (transparent.sound sound) later count]
          rfl

/-- The segments of a block publish their fields under their keys. -/
theorem published_of_segments {block position : Nat} {segments : List Segment} {context : Context}
    {cache : Cache} {resolved : List ResolvedSegment}
    (answered : (processor.segments block position segments context cache).answer = .ok resolved) :
    resolved.map (fun result => (result.key, result.fields)) =
      segments.map fun segment => (segment.key, segment.published context) := by
  induction segments generalizing position context cache resolved with
  | nil =>
      obtain rfl := Except.ok.inj answered
      rfl
  | cons segment rest ih =>
      obtain ⟨first, others, here, later, rfl⟩ := exists_of_segments_cons answered
      obtain ⟨kept, published⟩ := processor.published_of_segment here
      have tail := ih later
      simp only [Segment.published_withSegment] at tail
      rw [List.map_cons, List.map_cons, tail, ResolvedSegment.key, kept, published]

/-! ## The blocks of a theme -/

theorem block_transparent (position : Nat) (block : Block) (context : Context) :
    Transparent (processor.block position block context) := by
  obtain ⟨answer, reported, runs⟩ :=
    processor.segments_transparent position 0 block.segments context
  refine ⟨answer.map (ResolvedBlock.mk block.type block.alignment block.newline), reported, ?_⟩
  intro cache sound
  obtain ⟨after, kept, ran⟩ := runs cache sound
  exact ⟨after, kept, by simp only [Processor.block, ran]⟩

/-- Each block gives what it gives alone. -/
theorem blocks_answer (context : Context) {position : Nat} {blocks : List Block} {cache : Cache}
    (sound : cache.Sound) :
    (processor.blocks context position blocks cache).answer =
      (blocks.zipIdx position).mapM fun (block, position) =>
        (processor.block position block context {}).answer := by
  induction blocks generalizing position cache with
  | nil => rfl
  | cons block rest ih =>
      have transparent := processor.block_transparent position block context
      have alone := transparent.answer_eq sound
      have later := @ih (position + 1) _ (transparent.sound sound)
      rw [List.zipIdx_cons, List.mapM_cons]
      simp only [← alone, ← later, Processor.blocks]
      cases (processor.block position block context cache).answer with
      | error limit => rfl
      | ok resolved =>
          simp only
          generalize (processor.blocks _ _ _ _).answer = others
          cases others <;> rfl

/-- Segments depend only on what precedes them in their own block.  Each block of a theme gives what
it gives alone; each segment gives what it gives alone in the context that the segments before it
leave, so that a block cut after some segments gives the first of what the whole block gives; that
context holds under every key the fields of the last segment with it, and differs in nothing else;
and a segment whose templates do not lead to published fields gives what it gives in the original
context. -/
theorem segments_depend_on_what_precedes (context : Context) (history : List Session.Step) :
    (∀ theme : Theme,
      (processor.theme theme context (Session.cacheAfter history)).answer =
        theme.blocks.zipIdx.mapM fun (block, position) =>
          (processor.block position block context {}).answer) ∧
    (∀ (position : Nat) (block : Block),
      (processor.block position block context (Session.cacheAfter history)).answer =
        (block.segments.zipIdx.mapM fun (segment, place) =>
          (processor.segment segment (segment.place position place)
            (context.publishedBy (block.segments.take place)) {}).answer).map
              (ResolvedBlock.mk block.type block.alignment block.newline)) ∧
    (∀ (position : Nat) (block : Block) (resolved : ResolvedBlock),
      (processor.block position block context (Session.cacheAfter history)).answer =
        .ok resolved →
      (∀ count,
        (processor.block position { block with segments := block.segments.take count } context
          {}).answer = .ok { resolved with segments := resolved.segments.take count }) ∧
      resolved.segments.map (fun result => (result.key, result.fields)) =
        block.segments.map fun segment => (segment.key, segment.published context)) ∧
    (∀ earlier : List Segment,
      (∀ key, Entries.get? key (context.publishedBy earlier).segments =
        ((earlier.reverse.find? (·.key == key)).map (·.published context)).or
          (Entries.get? key context.segments)) ∧
      { context.publishedBy earlier with segments := context.segments } = context) ∧
    (processor.registry = .builtin →
      ∀ (earlier : List Segment) (segment : Segment) (identifier : String),
        segment.mentions "Segments" = false →
        (processor.segment segment identifier (context.publishedBy earlier) {}).answer =
          (processor.segment segment identifier context {}).answer) := by
  have sound := Session.cacheAfter_sound history
  refine ⟨fun theme => ?_, fun position block => ?_, fun position block resolved answered => ?_,
    fun earlier => ⟨fun key => ?_, ?_⟩, fun _ earlier segment identifier absent => ?_⟩
  · exact processor.blocks_answer context sound
  · have answers := @segments_answer processor position [] block.segments context _ sound
    exact congrArg (Except.map (ResolvedBlock.mk block.type block.alignment block.newline)) answers
  · have transparent := processor.block_transparent position block context
    rw [transparent.answer_eq sound] at answered
    obtain ⟨results, ran, rfl⟩ := exists_of_map_eq_ok answered
    refine ⟨fun count => ?_, processor.published_of_segments ran⟩
    have cut := processor.segments_take Cache.sound_empty ran count
    simp only [Processor.block, cut, Except.map]
  · exact Context.get?_publishedBy key earlier context
  · rw [Context.publishedBy_eq]
    rfl
  · rw [Context.publishedBy_eq, processor.segment_publishing absent _ identifier context
      Cache.sound_empty]

theorem second_segment_is_cut :
    let processor : Processor := {}
    let context := Context.sample ⟨2024, 3, 9, 14, 5, 7, 0, none, false⟩
    let shell : Segment := { type := "shell" }
    let reader : Segment :=
      { type := "text", template := some "{{ .Segments.Shell.Name }}" }
    let block : Block := { segments := [shell, shell] }
    (∃ resolved,
      (processor.block 0 block context (Session.cacheAfter [])).answer = .ok resolved ∧
      (processor.block 0 { block with segments := [shell] } context {}).answer =
        .ok { resolved with segments := resolved.segments.take 1 }) ∧
    processor.registry = .builtin ∧ shell.mentions "Segments" = false ∧
    reader.mentions "Segments" = true ∧
    (processor.segment shell "0.1:Shell" (context.publishedBy [reader]) {}).answer =
      (processor.segment shell "0.1:Shell" context {}).answer := by
  intro processor context shell reader block
  have bare (pass : Pass) : ∃ resolution,
      (processor.resolveText pass "[shell]" {}).answer = .ok resolution := by
    have parsed : Template.parse "[shell]" = ⟨[.text "[shell]"], none, ""⟩ := by cbv
    rw [resolveText, if_neg (by decide), pass.resolve_eq _ _ Cache.sound_empty, Pass.transcript,
      parsed]
    exact ⟨_, rfl⟩
  have answers (identifier : String) (seen : Context) {cache : Cache} (sound : cache.Sound) :
      ∃ resolved, (processor.segment shell identifier seen cache).answer = .ok resolved := by
    have templates : shell.templates = ["[shell]", "", ""] := by cbv
    have derived : shell.derived seen = .ok (Derived.shell seen) := rfl
    refine processor.exists_segment_answer derived ?_ sound
    rw [templates]
    simpa [resolveText] using bare (processor.pass shell identifier seen)
  obtain ⟨first, here⟩ := answers (shell.place 0 0) context (Session.cacheAfter_sound [])
  have transparent := processor.segment_transparent shell (shell.place 0 0) context
  obtain ⟨second, later⟩ := answers (shell.place 0 1)
    (context.withSegment shell.key (shell.published context))
    (transparent.sound (Session.cacheAfter_sound []))
  obtain ⟨resolved, answered⟩ : ∃ resolved,
      (processor.block 0 block context (Session.cacheAfter [])).answer = .ok resolved := by
    rw [Processor.block, segments_cons_of_ok here, segments_cons_of_ok later]
    exact ⟨_, rfl⟩
  have absent : shell.mentions "Segments" = false := by cbv
  have present : reader.mentions "Segments" = true := by cbv
  obtain ⟨-, -, cut, -, alone⟩ := processor.segments_depend_on_what_precedes context []
  exact ⟨⟨resolved, answered, (cut 0 block resolved answered).1 1⟩, rfl, absent, present,
    alone rfl [reader] shell "0.1:Shell" absent⟩

end Processor

end Promptline
