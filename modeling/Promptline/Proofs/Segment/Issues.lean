import Promptline.Proofs.Segment.Isolation

/-!
# The issues of a theme

A segment has an issue for each of its rejected properties, and the issues that its templates report
when each of them is resolved alone.  The issues of a theme are those of its segments, in order:
none is lost, and none is counted twice.
-/

namespace Promptline

/-- Pieces of results that agree with pieces of what the results are made from make up the same
list. -/
theorem flatMap_of_mapM {ε α β γ : Type} {f : α → Except ε β} {g : β → List γ} {h : α → List γ}
    {sources : List α} {results : List β} (ran : sources.mapM f = .ok results)
    (agree : ∀ source ∈ sources, ∀ result, f source = .ok result → g result = h source) :
    results.flatMap g = sources.flatMap h := by
  induction sources generalizing results with
  | nil =>
      obtain rfl := Except.ok.inj ran
      rfl
  | cons source sources ih =>
      obtain ⟨first, others⟩ := List.forall_mem_cons.mp agree
      rw [List.mapM_cons] at ran
      cases here : f source with
      | error fault => rw [here] at ran; cases ran
      | ok result =>
          cases later : sources.mapM f with
          | error fault => rw [here, later] at ran; cases ran
          | ok rest =>
              rw [here, later] at ran
              obtain rfl := Except.ok.inj ran
              rw [List.flatMap_cons, List.flatMap_cons, first result here, ih later others]

namespace Processor

variable (processor : Processor)

/-- The issues of a segment: one for each rejected property, and what its templates report. -/
def segmentIssues (segment : Segment) (identifier : String) (context : Context) : List Issue :=
  segment.refused identifier ++
    segment.templates.flatMap fun template =>
      (processor.resolveText (processor.pass segment identifier context) template {}).reported

/-- The issues of a block: those of its segments, each in the context that the segments before it
leave. -/
def blockIssues (position : Nat) (block : Block) (context : Context) : List Issue :=
  block.segments.zipIdx.flatMap fun (segment, place) =>
    processor.segmentIssues segment (segment.place position place)
      (context.publishedBy (block.segments.take place))

/-- The issues of a theme: those of its blocks. -/
def themeIssues (theme : Theme) (context : Context) : List Issue :=
  theme.blocks.zipIdx.flatMap fun (block, position) => processor.blockIssues position block context

theorem issues_of_segment {segment : Segment} {identifier : String} {context : Context}
    {cache : Cache} {resolved : ResolvedSegment} (sound : cache.Sound)
    (answered : (processor.segment segment identifier context cache).answer = .ok resolved) :
    resolved.issues = processor.segmentIssues segment identifier context := by
  have transparent (template : String) :=
    processor.resolveText_transparent (processor.pass segment identifier context) template
  have soundText := (transparent (segment.textTemplate segment.checkedProperties)).sound sound
  have soundBefore := (transparent segment.checkedProperties.before).sound soundText
  have text := (transparent (segment.textTemplate segment.checkedProperties)).reported_eq sound
  have before := (transparent segment.checkedProperties.before).reported_eq soundText
  have after := (transparent segment.checkedProperties.after).reported_eq soundBefore
  simp only [segmentIssues, Segment.templates, List.flatMap_cons, List.flatMap_nil, List.append_nil]
  rw [← text, ← before, ← after]
  obtain ⟨fields, -, answered⟩ := processor.exists_derived_of_segment answered
  simp only [resolveTemplates] at answered
  split at answered
  · cases answered
  split at answered
  · cases answered
  split at answered
  · cases answered
  · obtain rfl := Except.ok.inj answered
    simp only [List.append_assoc]

theorem issues_of_block {position : Nat} {block : Block} {context : Context}
    {resolved : ResolvedBlock}
    (answered : (processor.block position block context {}).answer = .ok resolved) :
    resolved.issues = processor.blockIssues position block context := by
  obtain ⟨results, ran, rfl⟩ := exists_of_map_eq_ok answered
  have alone := @segments_answer processor position [] block.segments context {} Cache.sound_empty
  refine flatMap_of_mapM (alone.symm.trans ran) ?_
  rintro ⟨segment, place⟩ - result here
  exact processor.issues_of_segment Cache.sound_empty here

theorem issues_of_theme {theme : Theme} {context : Context} {blocks : List ResolvedBlock}
    (answered : (processor.theme theme context {}).answer = .ok blocks) :
    blocks.flatMap (·.issues) = processor.themeIssues theme context := by
  rw [Processor.theme, processor.blocks_answer context Cache.sound_empty] at answered
  refine flatMap_of_mapM answered ?_
  rintro ⟨block, position⟩ - result here
  exact processor.issues_of_block here

end Processor

end Promptline
