import Promptline.Proofs.Resolve.Concatenation
import Promptline.Proofs.Segment.Derived
import Promptline.Proofs.Segment.Isolation
import Promptline.Proofs.Segment.Properties
import Promptline.Proofs.Template.Literal

/-!
# Segments that show their kind

A segment that gives neither a template nor a text shows its kind in brackets.  The bracketed kind
is itself a template, so it is shown as it stands where it has no opening delimiter.
-/

namespace Promptline

open Declaration (nullable orNull)

/-- What stands under a key, if it is a text or the bytes of one. -/
def Entries.text? (key : String) (entries : Entries Document) : Option String :=
  (Entries.get? key entries).bind Document.text?

/-! ## Properties that may be texts -/

theorem Declaration.orNull_string_inj {first second : Option String}
    (same : orNull Document.string first = orNull Document.string second) : first = second := by
  cases first <;> cases second <;> cases same <;> rfl

namespace Properties

variable {kind : PropertyKind} {key : String}

theorem optional_text_eq {d : Document} (nonnull : d ≠ .null) :
    Checked.optional Checked.text d = (Checked.text d).map some := by
  cases d <;> first | contradiction | rfl

theorem optional_text_of_text? {d : Document} {s : String} (given : d.text? = some s) :
    Checked.optional Checked.text d = .valid (some s) := by
  have nonnull : d ≠ .null := by
    rintro rfl
    cases given
  rw [optional_text_eq nonnull, Checked.text_eq_valid_iff.mpr given]
  rfl

/-- Data that are accepted as a text or null stand for the text that they give, if any. -/
theorem optional_text_of_clean {d : Document}
    (clean : (Checked.optional Checked.text d).problems = []) :
    Checked.optional Checked.text d = .valid d.text? := by
  obtain ⟨text, accepted⟩ := Checked.explained_optional Checked.explained_text d clean
  obtain rfl | nonnull := eq_or_ne d .null
  · rfl
  · have mapped := accepted
    rw [optional_text_eq nonnull] at mapped
    obtain ⟨s, read, rfl⟩ := Checked.map_eq_valid_iff.mp mapped
    rw [accepted, Checked.text_eq_valid_iff.mp read]

/-- Once the rejected settings are dropped, a setting that may be a text is one or is null. -/
theorem read_kept_text (member : nullable key .string Checked.text ∈ kind.declarations)
    (entries : Entries Document) :
    (nullable key .string Checked.text).read (kept kind entries) =
      .valid (orNull .string (Entries.text? key entries)) := by
  have found := get?_kept member entries
  have kept_key : (nullable key .string Checked.text).key = key := rfl
  have check (d : Document) : (nullable key .string Checked.text).check d =
      orNull Document.string <$> Checked.optional Checked.text d := rfl
  rw [kept_key] at found
  cases held : Entries.get? key entries with
  | none =>
      rw [held, ite_self] at found
      rw [Declaration.read_of_absent found, Entries.text?, held]
      rfl
  | some d =>
      by_cases good : (nullable key .string Checked.text).message? entries = none
      · rw [if_pos good, held] at found
        rw [Declaration.message?_eq_none_iff, Declaration.read_of_get? held,
          Checked.problems_within_eq_nil_iff, check, Checked.problems_map] at good
        rw [Declaration.read_of_get? found, Entries.text?, held, check,
          optional_text_of_clean good]
        rfl
      · rw [if_neg good] at found
        rw [Declaration.read_of_absent found, Entries.text?, held, Option.bind_some]
        cases given : d.text? with
        | none => rfl
        | some text =>
            refine absurd (Declaration.message?_eq_none_iff.mpr ?_) good
            rw [Declaration.read_of_get? held, check, optional_text_of_text? given]
            rfl

/-- A setting that may be a text is the text that stands under its key, if there is one. -/
theorem get?_validate_text (member : nullable key .string Checked.text ∈ kind.declarations)
    (entries : Entries Document) :
    Entries.get? key (validate kind entries).1.toEntries =
      some (orNull .string (Entries.text? key entries)) := by
  obtain ⟨properties, accepted⟩ := exists_check_kept kind entries
  obtain ⟨value, read, held⟩ := get?_toEntries_of_check accepted member
  rw [read_kept_text member] at read
  rw [validate_eq accepted, Checked.valid.inj read]
  exact held

end Properties

namespace PropertyKind

theorem template_mem_declarations (kind : PropertyKind) :
    nullable "template" .string Checked.text ∈ kind.declarations :=
  List.mem_append_left _ List.mem_cons_self

theorem text_mem_declarations (kind : PropertyKind) :
    nullable "text" .string Checked.text ∈ kind.declarations :=
  List.mem_append_left _ (List.mem_cons_of_mem _ List.mem_cons_self)

end PropertyKind

namespace Segment

theorem template_checkedProperties (segment : Segment) :
    segment.checkedProperties.template = Entries.text? "template" segment.properties := by
  have listed := (PropertyKind.ofType segment.type).template_mem_declarations
  have held := Properties.get?_validate_text listed segment.properties
  exact Declaration.orNull_string_inj (Option.some.inj held)

theorem text_checkedProperties (segment : Segment) :
    segment.checkedProperties.text = Entries.text? "text" segment.properties := by
  have listed := (PropertyKind.ofType segment.type).text_mem_declarations
  have held := Properties.get?_validate_text listed segment.properties
  exact Declaration.orNull_string_inj (Option.some.inj held)

/-- The kind of the segment in brackets. -/
def bracketed (segment : Segment) : String :=
  "[" ++ segment.type ++ "]"

/-- The template of a segment's text is the first text that is given and not empty. -/
theorem textTemplate_eq (segment : Segment) :
    segment.textTemplate segment.checkedProperties =
      ([segment.template, Entries.text? "template" segment.properties,
        Entries.text? "text" segment.properties].findSome? nonEmpty?).getD segment.bracketed := by
  rw [textTemplate, segment.template_checkedProperties, segment.text_checkedProperties]
  simp only [List.findSome?_cons, List.findSome?_nil]
  cases nonEmpty? segment.template <;>
    cases nonEmpty? (Entries.text? "template" segment.properties) <;>
      cases nonEmpty? (Entries.text? "text" segment.properties) <;> rfl

/-- A segment that gives nothing to show: its template is missing or empty, and so are the template
and the text among its properties, unless they are no texts. -/
structure Silent (segment : Segment) : Prop where
  /-- The template of the segment is missing or empty. -/
  template : ∀ template ∈ segment.template, template = ""
  /-- A text under one of the two keys, or the text of bytes, is empty. -/
  properties : ∀ key ∈ ["template", "text"], ∀ d, Entries.get? key segment.properties = some d →
    ∀ text ∈ d.text?, text = ""

theorem Silent.textTemplate_eq {segment : Segment} (silent : segment.Silent) :
    segment.textTemplate segment.checkedProperties = segment.bracketed := by
  have unset {text : Option String} (empty : ∀ s ∈ text, s = "") : nonEmpty? text = none := by
    rw [nonEmpty?, Option.filter_eq_none_iff]
    exact fun s given => by simp [empty s given]
  have unread {key : String} (listed : key ∈ ["template", "text"]) :
      nonEmpty? (Entries.text? key segment.properties) = none := by
    refine unset fun s given => ?_
    obtain ⟨d, held, text⟩ := Option.bind_eq_some_iff.mp given
    exact silent.properties key listed d held s text
  rw [segment.textTemplate_eq]
  simp [unset silent.template, unread]

end Segment

namespace Processor

variable (processor : Processor)

/-- A template without an opening delimiter is shown as it stands. -/
theorem resolveText_literal {template : String} (literal : ¬ Template.Opened template.toList)
    (pass : Pass) {cache : Cache} (sound : cache.Sound) :
    (processor.resolveText pass template cache).answer = .ok ⟨template, []⟩ ∧
      (processor.resolveText pass template cache).reported = [] := by
  by_cases empty : template = ""
  · subst empty
    exact ⟨rfl, rfl⟩
  · have transcript : pass.transcript template = { pieces := [.text template] } := by
      rw [Pass.transcript, (Template.parse_eq_text_iff empty).mpr literal]
      rfl
    rw [resolveText, if_neg empty, pass.resolve_eq processor.marker template sound, transcript]
    exact ⟨congrArg Except.ok (Transcript.resolution_text template processor.marker), rfl⟩

end Processor

namespace Segment

/-- Only a repository segment may have no fields, because of a count that is too long. -/
theorem derived_eq_error_iff {segment : Segment} {context : Context} {limit : DigitLimit} :
    segment.derived context = .error limit ↔
      (segment.type = "git" ∧ context.git.HasLongCount) ∧ limit = .writing := by
  rw [derived, Derived.fields_eq_error_iff, checkedProperties, Properties.kind_details_validate,
    PropertyKind.ofType_eq_git_iff, and_assoc]

theorem exists_derived_iff {segment : Segment} {context : Context} :
    (∃ fields, segment.derived context = .ok fields) ↔
      ¬ (segment.type = "git" ∧ context.git.HasLongCount) := by
  cases answer : segment.derived context with
  | ok fields =>
      refine iff_of_true ⟨fields, rfl⟩ fun long => ?_
      rw [derived_eq_error_iff.mpr ⟨long, rfl⟩] at answer
      cases answer
  | error limit => simp [(derived_eq_error_iff.mp answer).1]

theorem opened_bracketed_iff (segment : Segment) :
    Template.Opened segment.bracketed.toList ↔ Template.Opened segment.type.toList := by
  have front (cs : List Char) : ¬ ['{', '{'] <+: '[' :: cs := by
    rintro ⟨more, same⟩
    cases same
  have back : ¬ ['{', '{'] <:+ segment.type.toList ++ [']'] := by
    rintro ⟨more, same⟩
    have last := congrArg List.getLast? same
    simp at last
  have spelled : segment.bracketed.toList = '[' :: (segment.type.toList ++ [']']) := by
    simp [bracketed]
  rw [Template.Opened, Template.Opened, spelled, List.infix_cons_iff, or_iff_right (front _),
    List.infix_concat_iff, or_iff_right back]

end Segment

namespace Processor

/-- A segment that gives nothing to show resolves its kind in brackets as the template of its text.
This template is literal text exactly when the kind has no opening delimiter, and then the segment
shows it as it stands and without an issue, whatever the processor, the context and the cache.  Only
a segment of a repository with a count that is too long has no answer at all. -/
theorem silent_segment_shows_its_kind {segment : Segment} (silent : segment.Silent) :
    (Template.parse segment.bracketed = { parts := [.text segment.bracketed] } ↔
      ¬ Template.Opened segment.type.toList) ∧
    ∀ (processor : Processor) (identifier : String) (context : Context)
      (history : List Session.Step),
      let cache := Session.cacheAfter history
      let pass := processor.pass segment identifier context
      let alone := processor.alone segment identifier context
      let answer := (processor.segment segment identifier context cache).answer
      (segment.type = "git" ∧ context.git.HasLongCount → answer = .error .writing) ∧
      (¬ (segment.type = "git" ∧ context.git.HasLongCount) →
        (answer = do
          let text ← alone segment.bracketed
          let before ← alone segment.checkedProperties.before
          let after ← alone segment.checkedProperties.after
          return segment.assembled identifier context text before after) ∧
        (¬ Template.Opened segment.type.toList →
          (processor.resolveText pass segment.bracketed cache).answer =
              .ok ⟨segment.bracketed, []⟩ ∧
            (processor.resolveText pass segment.bracketed cache).reported = [] ∧
            answer = do
              let before ← alone segment.checkedProperties.before
              let after ← alone segment.checkedProperties.after
              return segment.assembled identifier context ⟨segment.bracketed, []⟩
                before after)) := by
  have given : segment.bracketed ≠ "" := by
    intro empty
    have chars := congrArg String.toList empty
    simp [Segment.bracketed] at chars
  have literal_iff := Template.parse_eq_text_iff given
  rw [segment.opened_bracketed_iff] at literal_iff
  refine ⟨literal_iff, fun processor identifier context history => ?_⟩
  have sound := Session.cacheAfter_sound history
  have assembled := processor.segment_answer segment identifier context sound
  rw [silent.textTemplate_eq] at assembled
  refine ⟨fun long => ?_, fun short => ?_⟩
  · rw [Segment.derived_eq_error_iff.mpr ⟨long, rfl⟩] at assembled
    exact assembled
  obtain ⟨fields, derived⟩ := Segment.exists_derived_iff.mpr short
  rw [derived] at assembled
  refine ⟨assembled, fun plain => ?_⟩
  rw [← segment.opened_bracketed_iff] at plain
  obtain ⟨answer, reported⟩ := processor.resolveText_literal plain
    (processor.pass segment identifier context) sound
  have alone : processor.alone segment identifier context segment.bracketed =
      .ok ⟨segment.bracketed, []⟩ :=
    (processor.resolveText_literal plain _ Cache.sound_empty).1
  rw [alone] at assembled
  exact ⟨answer, reported, assembled⟩

theorem refused_template_leaves_the_kind :
    let segment : Segment := {
      type := "a\x7d\x7db\x7b", template := some ""
      properties := [("text", .null), ("template", .int 5), ("prefix", .string "<")] }
    let context := Context.sample ⟨2024, 3, 9, 14, 5, 7, 0, none, false⟩
    let refused : Issue :=
      ⟨.properties, "template: Input should be a valid string", "properties.template", some "0.0:A"⟩
    segment.Silent ∧ ¬ (segment.type = "git" ∧ context.git.HasLongCount) ∧
      ¬ Template.Opened segment.type.toList ∧
      ∃ resolved,
        (Processor.segment {} segment "0.0:A" context (Session.cacheAfter [])).answer =
          .ok resolved ∧
        resolved.text = "[a\x7d\x7db\x7b]" ∧ resolved.before = "<" ∧ resolved.after = "" ∧
        resolved.issues = [refused] := by
  intro segment context refused
  have silent : segment.Silent := by
    constructor
    · rintro template ⟨⟩
      rfl
    · intro key listed d held text given
      rcases List.mem_pair.mp listed with rfl | rfl <;> cases held <;> cases given
  have short : ¬ (segment.type = "git" ∧ context.git.HasLongCount) :=
    fun long => absurd long.1 (by decide)
  have plain : ¬ Template.Opened segment.type.toList := by decide
  have checked : Properties.validate (PropertyKind.ofType segment.type) segment.properties =
      ({ before := "<" }, [("template", "template: Input should be a valid string")]) := by
    cbv
  have properties : segment.checkedProperties = { before := "<" } := congrArg Prod.fst checked
  have alone (template : String) (literal : ¬ Template.Opened template.toList) :
      Processor.alone {} segment "0.0:A" context template = .ok ⟨template, []⟩ :=
    (resolveText_literal {} literal _ Cache.sound_empty).1
  obtain ⟨-, runs⟩ := silent_segment_shows_its_kind silent
  obtain ⟨-, -, answer⟩ := ((runs {} "0.0:A" context []).2 short).2 plain
  rw [properties, alone "<" (by decide), alone "" (by decide)] at answer
  refine ⟨silent, short, plain, _, answer, ?_, rfl, rfl, ?_⟩
  · decide
  · rw [Segment.assembled, checked]
    rfl

theorem bracketed_kind_is_read_as_template :
    let segment : Segment := { type := "\x7b\x7b true \x7d\x7d" }
    let context := Context.sample ⟨2024, 3, 9, 14, 5, 7, 0, none, false⟩
    segment.Silent ∧
      ∃ resolved, (Processor.segment {} segment "0.0:A" context {}).answer = .ok resolved ∧
        resolved.text = "[true]" ∧ resolved.text ≠ "[" ++ segment.type ++ "]" := by
  intro segment context
  have silent : segment.Silent := by
    constructor
    · rintro template ⟨⟩
    · rintro key - d ⟨⟩
  have parsed : Template.parse segment.bracketed =
      { parts := [.text "[", .action "\x7b\x7b true \x7d\x7d" "true", .text "]"] } := by
    cbv
  have looked : Expression.lookup "true" = .ok ⟨"true", .literal (.bool true)⟩ := by cbv
  have text : Processor.alone {} segment "0.0:A" context segment.bracketed =
      .ok ⟨"[true]", []⟩ := by
    rw [alone, resolveText, if_neg (by decide), Pass.resolve_eq _ _ _ Cache.sound_empty,
      Pass.transcript, parsed]
    simp only [Pass.parsedTranscript, Pass.partsTranscript, Pass.partTranscript,
      Pass.actionTranscript, Pass.reading, looked]
    rfl
  have answer : (Processor.segment {} segment "0.0:A" context {}).answer =
      .ok (segment.assembled "0.0:A" context ⟨"[true]", []⟩ ⟨"", []⟩ ⟨"", []⟩) := by
    have derived : segment.derived context = .ok [] := rfl
    rw [segment_answer _ _ _ _ Cache.sound_empty, silent.textTemplate_eq, derived, text]
    rfl
  exact ⟨silent, _, answer, rfl, by decide⟩

end Processor

end Promptline
