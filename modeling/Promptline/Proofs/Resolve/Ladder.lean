import Promptline.Proofs.Resolve.Recovery
import Promptline.Proofs.Resolve.Session
import Promptline.Proofs.Template.Ladder

/-!
# Guards in a row resolve like nested ones

Resolving a conditional tests its guards up to the first one that holds.  So does resolving
conditionals where each stands in the last part of the one before, and both come to the same body.
-/

namespace Promptline.Pass

open Template (Arm Branch Part)

variable (pass : Pass)

/-- What testing guards in order produces. -/
def guardsTranscript : List String → Transcript
  | [] => {}
  | condition :: rest => pass.guardTranscript condition ++ guardsTranscript rest

/-- What testing the conditions of arms in order and resolving the first body whose condition
holds, or else a last template, produces. -/
def armsTranscript (last : String) : List Arm → Transcript
  | [] => pass.transcript last
  | arm :: rest =>
      pass.guardTranscript (Text.trim arm.condition) ++
        if pass.guardHolds (Text.trim arm.condition) then pass.transcript arm.body
        else armsTranscript last rest

/-- The first guard of a conditional decides between its body and the rest of the conditional. -/
theorem partTranscript_conditional_cons (source condition : String) (parts otherwise : List Part)
    (branches : List Branch) :
    pass.partTranscript (.conditional (.mk source condition parts :: branches) otherwise) =
      pass.guardTranscript condition ++
        if pass.guardHolds condition then pass.partsTranscript parts
        else pass.partTranscript (.conditional branches otherwise) := by
  rw [partTranscript, partTranscript, branchesTranscript, takes, List.any_cons, takes,
    Transcript.append_assoc, Branch.condition]
  cases pass.guardHolds condition <;> simp

theorem partTranscript_conditional_nil (otherwise : List Part) :
    pass.partTranscript (.conditional [] otherwise) = pass.partsTranscript otherwise := by
  simp [partTranscript, branchesTranscript, takes]

section Arms

variable {first : Arm} {rest : List Arm} {last : String}

/-- The branch of an arm decides between the arm and what follows it. -/
theorem partTranscript_branch_cons {arm : Arm} (guarded : arm.IsGuarded) (word : String)
    (branches : List Branch) (otherwise : List Part) :
    pass.partTranscript (.conditional (arm.branch word :: branches) otherwise) =
      pass.guardTranscript (Text.trim arm.condition) ++
        if pass.guardHolds (Text.trim arm.condition) then pass.transcript arm.body
        else pass.partTranscript (.conditional branches otherwise) := by
  rw [Arm.branch, partTranscript_conditional_cons,
    pass.transcript_of_complete guarded.body.accepted]

theorem partTranscript_chained (guarded : ∀ arm ∈ rest, arm.IsGuarded)
    (closing : Template.IsBody last) :
    pass.partTranscript (.conditional (rest.map (Arm.branch "else if "))
      (Template.parse last).parts) = pass.armsTranscript last rest := by
  induction rest with
  | nil =>
      rw [List.map_nil, partTranscript_conditional_nil, armsTranscript,
        pass.transcript_of_complete closing.accepted]
  | cons arm rest ih =>
      obtain ⟨here, later⟩ := List.forall_mem_cons.mp guarded
      rw [List.map_cons, pass.partTranscript_branch_cons here, ih later, armsTranscript]

theorem partsTranscript_nestedParts (guarded : ∀ arm ∈ rest, arm.IsGuarded)
    (closing : Template.IsBody last) :
    pass.partsTranscript (Template.nestedParts last rest) = pass.armsTranscript last rest := by
  induction rest with
  | nil => rw [Template.nestedParts, armsTranscript, pass.transcript_of_complete closing.accepted]
  | cons arm rest ih =>
      obtain ⟨here, later⟩ := List.forall_mem_cons.mp guarded
      rw [Template.nestedParts, partsTranscript, partsTranscript, Transcript.append_nil,
        pass.partTranscript_branch_cons here, partTranscript_conditional_nil, ih later,
        armsTranscript]

/-- Both forms produce what testing the guards in order does. -/
theorem transcript_chained_and_nested (guarded : ∀ arm ∈ first :: rest, arm.IsGuarded)
    (closing : Template.IsBody last)
    (shallow : ∀ error, (Template.parse (Template.nested first rest last)).error = some error →
      error.fault ≠ .conditionalsTooDeep) :
    ∀ template ∈ [Template.chained first rest last, Template.nested first rest last],
      pass.transcript template = pass.armsTranscript last (first :: rest) := by
  obtain ⟨here, later⟩ := List.forall_mem_cons.mp guarded
  obtain ⟨row, nest⟩ := Template.parse_chained_and_nested guarded closing shallow
  have single (part : Part) : pass.partsTranscript [part] = pass.partTranscript part := by
    rw [partsTranscript, partsTranscript, Transcript.append_nil]
  simp only [List.forall_mem_cons, List.not_mem_nil, false_implies, implies_true, and_true]
  constructor
  · rw [pass.transcript_of_complete (by rw [row]), row, single,
      pass.partTranscript_branch_cons here, pass.partTranscript_chained later closing,
      armsTranscript]
  · rw [pass.transcript_of_complete (by rw [nest]), nest, single,
      pass.partTranscript_branch_cons here, partTranscript_conditional_nil,
      pass.partsTranscript_nestedParts later closing, armsTranscript]

end Arms

/-- Guards are tested up to the first one that holds, and its body is resolved. -/
theorem armsTranscript_of_holds {before after : List Arm} {arm : Arm} (last : String)
    (fail : ∀ earlier ∈ before, pass.guardHolds (Text.trim earlier.condition) = false)
    (holds : pass.guardHolds (Text.trim arm.condition) = true) :
    pass.armsTranscript last (before ++ arm :: after) =
      pass.guardsTranscript ((before ++ [arm]).map fun arm => Text.trim arm.condition) ++
        pass.transcript arm.body := by
  induction before with
  | nil => simp [armsTranscript, guardsTranscript, holds]
  | cons earlier before ih =>
      obtain ⟨here, others⟩ := List.forall_mem_cons.mp fail
      rw [List.cons_append, armsTranscript, here, if_neg (by simp), ih others, List.cons_append,
        List.map_cons, guardsTranscript, Transcript.append_assoc]

/-- Guards in a row resolve like guards that are nested in each other, to the same text and the same
issues, unless those are nested too deep.  Of either form nothing is looked up behind the first
guard that holds but what its body looks up. -/
theorem chained_guards_resolve_like_nested (marker : ErrorMarker) (history : List Session.Step)
    {first : Arm} {rest : List Arm} {last : String}
    (guarded : ∀ arm ∈ first :: rest, arm.IsGuarded) (closing : Template.IsBody last)
    (shallow : ∀ error, (Template.parse (Template.nested first rest last)).error = some error →
      error.fault ≠ .conditionalsTooDeep) :
    let cache := Session.cacheAfter history
    let chained := Template.chained first rest last
    let nested := Template.nested first rest last
    (pass.resolve marker chained cache).answer = (pass.resolve marker nested cache).answer ∧
      (pass.resolve marker chained cache).reported =
        (pass.resolve marker nested cache).reported ∧
      ∀ before arm after, first :: rest = before ++ arm :: after →
        (∀ earlier ∈ before, pass.guardHolds (Text.trim earlier.condition) = false) →
        pass.guardHolds (Text.trim arm.condition) = true →
        let conditions := (before ++ [arm]).map fun arm => Text.trim arm.condition
        let shown := pass.guardsTranscript conditions ++ pass.transcript arm.body
        ∀ template ∈ [chained, nested],
          pass.resolve marker template cache =
            { answer := shown.outcome (shown.resolution marker)
              cache := (cache.learnTemplate template).learnAll shown.lookups
              reported := shown.issues } := by
  intro cache chained nested
  have sound := Session.cacheAfter_sound history
  have transcripts := pass.transcript_chained_and_nested guarded closing shallow
  obtain ⟨row, others⟩ := List.forall_mem_cons.mp transcripts
  obtain ⟨nest, -⟩ := List.forall_mem_cons.mp others
  refine ⟨?_, ?_, ?_⟩
  · rw [pass.resolve_eq marker chained sound, pass.resolve_eq marker nested sound, row, nest]
  · rw [pass.resolve_eq marker chained sound, pass.resolve_eq marker nested sound, row, nest]
  · intro before arm after split fail holds conditions shown template listed
    rw [pass.resolve_eq marker template sound, transcripts template listed, split,
      pass.armsTranscript_of_holds last fail holds]

/-- A guard that has no value is not tested behind one that holds. -/
theorem failing_guard_is_not_tested :
    let pass : Pass := ⟨⟨.sample ⟨2024, 3, 9, 14, 5, 7, 0, none, false⟩, []⟩, .builtin, none⟩
    let rest : List Arm := [⟨"unknown 1", "b"⟩]
    (pass.resolve .source (Template.chained ⟨"true", "a"⟩ rest "c")
        (Session.cacheAfter [])).answer = .ok ⟨"a", []⟩ ∧
      (pass.resolve .source (Template.nested ⟨"true", "a"⟩ rest "c")
        (Session.cacheAfter [])).answer = .ok ⟨"a", []⟩ := by
  have body (source : String) (accepted : (Template.parse source).error = none)
      (apart : source.toList.getLast? ≠ some '{') : Template.IsBody source := ⟨accepted, apart⟩
  have guarded : ∀ arm ∈ [(⟨"true", "a"⟩ : Arm), ⟨"unknown 1", "b"⟩], arm.IsGuarded := by
    simp only [List.forall_mem_cons, List.not_mem_nil, false_implies, implies_true, and_true]
    refine ⟨⟨by decide +kernel, ?_, body "a" (by cbv) (by decide)⟩,
      ⟨by decide +kernel, ?_, body "b" (by cbv) (by decide)⟩⟩
    · exact Template.isAction_placeholder_iff.mpr (by decide +kernel)
    · exact Template.isAction_placeholder_iff.mpr (by decide +kernel)
  have written : Template.nested ⟨"true", "a"⟩ [⟨"unknown 1", "b"⟩] "c" =
      "{{ if true }}a{{ else }}{{ if unknown 1 }}b{{ else }}c{{ end }}{{ end }}" := by
    decide +kernel
  have accepted : (Template.parse
      "{{ if true }}a{{ else }}{{ if unknown 1 }}b{{ else }}c{{ end }}{{ end }}").error = none := by
    cbv
  have holds (context : Context) :
      guardHolds ⟨⟨context, []⟩, .builtin, none⟩ (Text.trim "true") = true := by
    cbv
  have shown (context : Context) :
      guardsTranscript ⟨⟨context, []⟩, .builtin, none⟩ [Text.trim "true"] ++
          transcript ⟨⟨context, []⟩, .builtin, none⟩ "a" =
        { pieces := [.text "a"], lookups := ["true"] } := by
    cbv
  intro pass rest
  obtain ⟨answers, -, outcomes⟩ := pass.chained_guards_resolve_like_nested .source [] guarded
    (body "c" (by cbv) (by decide)) (by rw [written, accepted]; simp)
  have resolved := outcomes [] ⟨"true", "a"⟩ rest rfl (by simp) (holds _) _ List.mem_cons_self
  have answer : (pass.resolve .source (Template.chained ⟨"true", "a"⟩ rest "c")
      (Session.cacheAfter [])).answer = .ok ⟨"a", []⟩ := by
    rw [resolved]
    simp only [List.nil_append, List.map_cons, List.map_nil]
    rw [shown]
    exact congrArg Except.ok (Transcript.resolution_text "a" .source)
  exact ⟨answer, answers ▸ answer⟩

end Promptline.Pass
