import Promptline.Proofs.Repository.Evaluation
import Promptline.Segment.Resolved

/-!
# Stale repository data stays hidden

Resolving templates, rendering themes and writing a context as data use the repository record only
as templates see it.  Two contexts that differ in nothing but what a record outside any repository
still holds therefore give the same text, the same issues, the same blocks and the same data.
-/

namespace Promptline

namespace Pass

/-- The pass with the repository state as templates see it. -/
def seen (pass : Pass) : Pass :=
  { pass with scope := pass.scope.seen }

/-- What is done with a value that looks the same is the same. -/
theorem value_bind_seen {pass : Pass} (discreet : pass.registry.Discreet) {α : Type}
    {next : Except Issue Value → Resolving α}
    (blind : ∀ first second, first.seen = second.seen → next (.ok first) = next (.ok second))
    (source : String) : pass.seen.value source >>= next = pass.value source >>= next := by
  rw [value, value, bind_assoc, bind_assoc]
  refine bind_congr fun found => ?_
  cases found with
  | error fault => cases fault <;> rfl
  | ok expression =>
      have alike := expression.eval_seen pass.scope discreet
      obtain ⟨error, left, right⟩ | ⟨first, second, left, right, same⟩ :=
        error_or_ok_of_map_eq alike
      · simp only [seen, left, right]
      · simp only [seen, left, right, pure_bind]
        exact blind first second same

theorem action_seen {pass : Pass} (discreet : pass.registry.Discreet) (source body : String) :
    pass.seen.action source body = pass.action source body := by
  rw [action, action]
  refine value_bind_seen discreet (fun first second alike => ?_) body
  simp only [Value.congr_of_seen Value.text_seen alike]

theorem holds_seen {pass : Pass} (discreet : pass.registry.Discreet) (condition : String) :
    pass.seen.holds condition = pass.holds condition := by
  rw [holds, holds]
  refine value_bind_seen discreet (fun first second alike => ?_) condition
  simp only [Value.congr_of_seen Value.isTruthy_seen alike]

mutual

theorem part_seen {pass : Pass} (discreet : pass.registry.Discreet) (part : Template.Part) :
    pass.seen.part part = pass.part part := by
  cases part with
  | text text => rfl
  | action source body => exact action_seen discreet source body
  | conditional branches otherwise =>
      rw [Pass.part, Pass.part, branches_seen discreet branches, parts_seen discreet otherwise]

theorem parts_seen {pass : Pass} (discreet : pass.registry.Discreet)
    (parts : List Template.Part) : pass.seen.parts parts = pass.parts parts := by
  cases parts with
  | nil => rfl
  | cons first rest =>
      rw [Pass.parts, Pass.parts, part_seen discreet first, parts_seen discreet rest]

theorem branches_seen {pass : Pass} (discreet : pass.registry.Discreet)
    (branches : List Template.Branch) : pass.seen.branches branches = pass.branches branches := by
  cases branches with
  | nil => rfl
  | cons branch rest =>
      obtain ⟨source, condition, body⟩ := branch
      rw [Pass.branches, Pass.branches, holds_seen discreet condition, parts_seen discreet body,
        branches_seen discreet rest]

end

/-- A template gives the same text and the same issues, whatever a hidden repository record
holds. -/
theorem resolve_seen (pass : Pass) (discreet : pass.registry.Discreet) (marker : ErrorMarker)
    (template : String) (cache : Cache) :
    pass.seen.resolve marker template cache = pass.resolve marker template cache := by
  have sources : pass.seen.source template = pass.source template := by
    rw [source, source]
    refine bind_congr fun parsed => ?_
    rw [Pass.template, Pass.template, parts_seen discreet]
    rfl
  rw [resolve, resolve, pieces, pieces, sources]

end Pass

namespace Derived

/-- The fields of a segment show of the repository what templates see. -/
theorem fields_seen (type : String) (context : Context) (properties : Properties) :
    fields type context.seen properties = fields type context properties := by
  have git_seen (icons : GitIcons) : git context.seen icons = git context icons := by
    simp [git, Context.seen]
  unfold fields
  split
  · exact git_seen _
  all_goals rfl

end Derived

namespace Processor

/-- A segment is resolved the same, whatever a hidden repository record holds. -/
theorem segment_seen {processor : Processor} (discreet : processor.registry.Discreet)
    (segment : Segment) (identifier : String) (context : Context) (cache : Cache) :
    processor.segment segment identifier context.seen cache =
      processor.segment segment identifier context cache := by
  have texts (fields : Entries Value) (template : String) (memory : Cache) :
      processor.resolveText
          ⟨⟨context.seen.withSegment segment.key fields, fields⟩, processor.registry,
            some identifier⟩ template memory =
        processor.resolveText
          ⟨⟨context.withSegment segment.key fields, fields⟩, processor.registry,
            some identifier⟩ template memory := by
    rw [resolveText, resolveText]
    split
    · rfl
    · exact Pass.resolve_seen
        ⟨⟨context.withSegment segment.key fields, fields⟩, processor.registry, some identifier⟩
        discreet processor.marker template memory
  simp only [Processor.segment, Processor.resolveTemplates, Derived.fields_seen, texts]

theorem segments_seen {processor : Processor} (discreet : processor.registry.Discreet)
    (block position : Nat) (segments : List Segment) (context : Context) (cache : Cache) :
    processor.segments block position segments context.seen cache =
      processor.segments block position segments context cache := by
  induction segments generalizing position context cache with
  | nil => rfl
  | cons segment rest ih =>
      simp only [Processor.segments, segment_seen discreet, ← Context.withSegment_seen, ih]

theorem blocks_seen {processor : Processor} (discreet : processor.registry.Discreet)
    (context : Context) (position : Nat) (blocks : List Block) (cache : Cache) :
    processor.blocks context.seen position blocks cache =
      processor.blocks context position blocks cache := by
  induction blocks generalizing position cache with
  | nil => rfl
  | cons block rest ih =>
      simp only [Processor.blocks, Processor.block, segments_seen discreet, ih]

/-- A theme is rendered the same, whatever a hidden repository record holds. -/
theorem theme_seen {processor : Processor} (discreet : processor.registry.Discreet)
    (theme : Theme) (context : Context) (cache : Cache) :
    processor.theme theme context.seen cache = processor.theme theme context cache :=
  blocks_seen discreet context 0 theme.blocks cache

end Processor

namespace Context

/-- Outside a repository contexts look alike, whatever their repository records hold. -/
theorem seen_eq_of_outside {context : Context} {git : Git} (outside : context.git.isRepo = false)
    (elsewhere : git.isRepo = false) : { context with git := git }.seen = context.seen := by
  simp [seen, outside, elsewhere]

/-- Data that a repository record still holds outside any repository reaches no output: two
contexts that differ in nothing else give the same text and the same issues for every template,
the same blocks for every theme, and the same data. -/
theorem stale_repository_is_hidden {context : Context} {git : Git}
    (outside : context.git.isRepo = false) (elsewhere : git.isRepo = false) :
    (∀ (fields : Entries Value) (segment : Option String) (marker : ErrorMarker)
        (template : String) (cache : Cache),
        Pass.resolve ⟨⟨context, fields⟩, .builtin, segment⟩ marker template cache =
          Pass.resolve ⟨⟨{ context with git := git }, fields⟩, .builtin, segment⟩ marker template
            cache) ∧
      (∀ (marker : ErrorMarker) (theme : Theme) (cache : Cache),
        Processor.theme ⟨.builtin, marker⟩ theme context cache =
          Processor.theme ⟨.builtin, marker⟩ theme { context with git := git } cache) ∧
      context.toDocument = { context with git := git }.toDocument := by
  have alike := seen_eq_of_outside outside elsewhere
  refine ⟨fun fields segment marker template cache => ?_, fun marker theme cache => ?_, ?_⟩
  · have here := Pass.resolve_seen ⟨⟨context, fields⟩, .builtin, segment⟩
      Registry.builtin_discreet marker template cache
    have there := Pass.resolve_seen ⟨⟨{ context with git := git }, fields⟩, .builtin, segment⟩
      Registry.builtin_discreet marker template cache
    rw [← here, ← there]
    simp only [Pass.seen, Scope.seen, alike]
  · rw [← Processor.theme_seen Registry.builtin_discreet, ← alike,
      Processor.theme_seen Registry.builtin_discreet]
  · rw [← toDocument_seen, ← alike, toDocument_seen]

theorem stale_branch_is_hidden :
    let stale : Git := { branch := "old", isRepo := false, ahead := 3 }
    let other : Git := { branch := "new", isRepo := false, stashCount := 2 }
    let context : Context :=
      { Context.sample ⟨2024, 3, 9, 14, 5, 7, 0, none, false⟩ with git := stale }
    stale.isRepo = false ∧ other.isRepo = false ∧
      Pass.resolve ⟨⟨context, []⟩, .builtin, none⟩ .source
          "{{ .Branch }}{{ default .Git 1 }}{{ eq .Git 1 }}" {} =
        Pass.resolve ⟨⟨{ context with git := other }, []⟩, .builtin, none⟩ .source
          "{{ .Branch }}{{ default .Git 1 }}{{ eq .Git 1 }}" {} :=
  ⟨rfl, rfl, (stale_repository_is_hidden rfl rfl).1 [] none .source _ {}⟩

end Context

end Promptline
