import Mathlib
import Promptline.Proofs.Expression.LongInteger
import Promptline.Proofs.Resolve.Session

/-!
# Resolutions without an answer

A resolution gives an answer for every template, scope and set of functions, unless it meets an
integer with more digits than the limit: one in an expression that is read, or one that a
placeholder has to show.
-/

namespace Promptline

/-- An expression that a resolution reads. -/
inductive Visit
  /-- The body of a placeholder. -/
  | placeholder (body : String)
  /-- The condition of a guard. -/
  | guard (condition : String)

namespace Visit

/-- The expression has an integer with too many digits in it, or is a placeholder that has to show
one. -/
def Overlong (pass : Pass) : Visit → Prop
  | placeholder body =>
      (∃ count, Expression.MeetsLong body count) ∨
        ∃ expression n, Expression.parse body = .ok expression ∧
          expression.eval pass.scope pass.registry = .ok (.int n) ∧
            10 ^ Number.digitLimit ≤ n.natAbs
  | guard condition => ∃ count, Expression.MeetsLong condition count

end Visit

namespace Pass

mutual

/-- The expressions that resolving a part reads, if nothing stops it. -/
def partVisits (pass : Pass) : Template.Part → List Visit
  | .text _ => []
  | .action _ body => [.placeholder body]
  | .conditional branches otherwise =>
      pass.branchesVisits branches ++
        if pass.takes branches then [] else pass.partsVisits otherwise

/-- The expressions that resolving parts in order reads. -/
def partsVisits (pass : Pass) : List Template.Part → List Visit
  | [] => []
  | first :: rest => pass.partVisits first ++ pass.partsVisits rest

/-- The guards up to the first one that holds, and what its body reads. -/
def branchesVisits (pass : Pass) : List Template.Branch → List Visit
  | [] => []
  | .mk _ condition body :: rest =>
      .guard condition ::
        if pass.guardHolds condition then pass.partsVisits body else pass.branchesVisits rest

end

/-- The expressions that resolving a template reads. -/
def visits (pass : Pass) (template : String) : List Visit :=
  pass.partsVisits (Template.parse template).parts

theorem reading_eq_error_iff (pass : Pass) (source : String) (limit : DigitLimit) :
    pass.reading source = .error limit ↔
      ∃ count, limit = .reading count ∧ Expression.MeetsLong source count := by
  rw [← Expression.parse_eq_tooLong_iff, reading, Expression.lookup]
  cases Expression.parse source with
  | error fault => cases fault <;> simp
  | ok expression =>
      simp only [reduceCtorEq, iff_false]
      split <;> simp

theorem reading_eq_ok_iff (pass : Pass) (source : String) (value : Value) :
    pass.reading source = .ok (.ok value) ↔
      ∃ expression, Expression.parse source = .ok expression ∧
        expression.eval pass.scope pass.registry = .ok value := by
  rw [reading, Expression.lookup]
  cases Expression.parse source with
  | error fault => cases fault <;> simp
  | ok expression =>
      simp only [Except.ok.injEq, exists_eq_left']
      split
      · next failed => simp [failed]
      · next evaluated => simp [evaluated]

theorem exists_meetsLong_iff (pass : Pass) (source : String) :
    (∃ count, Expression.MeetsLong source count) ↔ ∃ limit, pass.reading source = .error limit := by
  simp [reading_eq_error_iff]

/-- Only an integer with more digits than the limit has no text. -/
theorem exists_text_eq_error_iff (value : Value) :
    (∃ limit, value.text = .error limit) ↔
      ∃ n, value = .int n ∧ 10 ^ Number.digitLimit ≤ n.natAbs := by
  cases value with
  | int n =>
      have long : Number.isTooLong n = true ↔ 10 ^ Number.digitLimit ≤ n.natAbs := by
        rw [Number.isTooLong, decide_eq_true_iff, Nat.pow_eq]
      rw [Value.text]
      split
      · next exceeds => simp [long.mp exceeds]
      · next fits => simp [mt long.mpr fits]
  | _ => simp [Value.text]

theorem guardTranscript_limit_eq_none_iff (pass : Pass) (condition : String) :
    (pass.guardTranscript condition).limit = none ↔
      ¬ (Visit.guard condition).Overlong pass := by
  rw [guardTranscript, Visit.Overlong, pass.exists_meetsLong_iff]
  cases pass.reading condition with
  | error limit => simp [Transcript.looking, Transcript.stopped]
  | ok result => cases result <;> simp [Transcript.looking]

theorem actionTranscript_limit_eq_none_iff (pass : Pass) (source body : String) :
    (pass.actionTranscript source body).limit = none ↔
      ¬ (Visit.placeholder body).Overlong pass := by
  have shown : (Visit.placeholder body).Overlong pass ↔
      (∃ limit, pass.reading body = .error limit) ∨
        ∃ value limit, pass.reading body = .ok (.ok value) ∧ value.text = .error limit := by
    simp only [Visit.Overlong, pass.exists_meetsLong_iff, reading_eq_ok_iff, exists_and_left,
      exists_text_eq_error_iff]
    constructor
    · rintro (stopped | ⟨expression, parsed, n, evaluated, long⟩)
      · exact .inl stopped
      · exact .inr ⟨_, ⟨expression, parsed, evaluated⟩, n, rfl, long⟩
    · rintro (stopped | ⟨_, ⟨expression, parsed, evaluated⟩, n, rfl, long⟩)
      · exact .inl stopped
      · exact .inr ⟨expression, parsed, n, evaluated, long⟩
  rw [shown, actionTranscript]
  cases pass.reading body with
  | error limit => simp [Transcript.looking, Transcript.stopped]
  | ok result =>
      cases result with
      | error issue => simp [Transcript.looking]
      | ok value =>
          cases text : value.text with
          | error limit => simp [Transcript.looking, Transcript.stopped, text]
          | ok text => simp [Transcript.looking, text]

mutual

theorem partTranscript_limit_eq_none_iff (pass : Pass) (part : Template.Part) :
    (pass.partTranscript part).limit = none ↔
      ∀ visit ∈ pass.partVisits part, ¬ visit.Overlong pass :=
  match part with
  | .text text => by simp [partTranscript, partVisits]
  | .action source body => by
      rw [partTranscript, partVisits, List.forall_mem_singleton]
      exact pass.actionTranscript_limit_eq_none_iff source body
  | .conditional branches otherwise => by
      have tested := pass.branchesTranscript_limit_eq_none_iff branches
      have remaining := pass.partsTranscript_limit_eq_none_iff otherwise
      rw [partTranscript, partVisits, Transcript.limit_append, Option.or_eq_none_iff,
        List.forall_mem_append, tested]
      split
      · simp
      · rw [remaining]

theorem partsTranscript_limit_eq_none_iff (pass : Pass) (parts : List Template.Part) :
    (pass.partsTranscript parts).limit = none ↔
      ∀ visit ∈ pass.partsVisits parts, ¬ visit.Overlong pass :=
  match parts with
  | [] => by simp [partsTranscript, partsVisits]
  | first :: rest => by
      rw [partsTranscript, partsVisits, Transcript.limit_append, Option.or_eq_none_iff,
        List.forall_mem_append, pass.partTranscript_limit_eq_none_iff first,
        pass.partsTranscript_limit_eq_none_iff rest]

theorem branchesTranscript_limit_eq_none_iff (pass : Pass) (branches : List Template.Branch) :
    (pass.branchesTranscript branches).limit = none ↔
      ∀ visit ∈ pass.branchesVisits branches, ¬ visit.Overlong pass :=
  match branches with
  | [] => by simp [branchesTranscript, branchesVisits]
  | .mk source condition body :: rest => by
      have guarded := pass.partsTranscript_limit_eq_none_iff body
      have later := pass.branchesTranscript_limit_eq_none_iff rest
      rw [branchesTranscript, branchesVisits, Transcript.limit_append, Option.or_eq_none_iff,
        List.forall_mem_cons, pass.guardTranscript_limit_eq_none_iff condition]
      split
      · rw [guarded]
      · rw [later]

end

theorem transcript_limit_eq_none_iff (pass : Pass) (template : String) :
    (pass.transcript template).limit = none ↔
      ∀ visit ∈ pass.visits template, ¬ visit.Overlong pass := by
  rw [transcript, parsedTranscript, Transcript.limit_append, defectTranscript_limit,
    Option.or_none, visits]
  exact pass.partsTranscript_limit_eq_none_iff _

theorem exists_answer_iff (pass : Pass) (marker : ErrorMarker) (template : String) {cache : Cache}
    (sound : cache.Sound) :
    (∃ resolution, (pass.resolve marker template cache).answer = .ok resolution) ↔
      ∀ visit ∈ pass.visits template, ¬ visit.Overlong pass := by
  simp only [pass.answer_eq_ok_iff marker template sound, exists_and_left, exists_eq', and_true]
  exact pass.transcript_limit_eq_none_iff template

/-- After any session, a resolution has an answer exactly if no expression that it reads holds or
has to show an integer with more digits than the limit. -/
theorem resolve_answers_iff (pass : Pass) (marker : ErrorMarker) (template : String)
    (history : List Session.Step) :
    (∃ resolution,
      (pass.resolve marker template (Session.cacheAfter history)).answer = .ok resolution) ↔
      ∀ visit ∈ pass.visits template, ¬ visit.Overlong pass :=
  pass.exists_answer_iff marker template (Session.cacheAfter_sound history)

/-- Not every resolution has an answer: a product may have more digits than the limit. -/
theorem not_always_answered :
    ¬ ∀ (context : Context) (fields : Entries Value) (segment : Option String)
        (marker : ErrorMarker) (template : String),
      ∃ resolution,
        (Pass.resolve ⟨⟨context, fields⟩, .builtin, segment⟩ marker template {}).answer =
          .ok resolution := by
  intro always
  have answered := always (.sample ⟨2024, 3, 9, 14, 5, 7, 0, none, false⟩)
    [("N", .int (10 ^ (Number.digitLimit - 1)))] none .source "{{ mul .N 10 }}"
  have parsed : (Template.parse "{{ mul .N 10 }}").parts =
      [.action "{{ mul .N 10 }}" "mul .N 10"] := by cbv
  have product : ∀ (context : Context) (n : Int),
      reading ⟨⟨context, [("N", .int n)]⟩, .builtin, none⟩ "mul .N 10" =
        .ok (.ok (.int (n * 10))) := by
    intro context n
    cbv
  have longer : ∀ limit, 0 < limit → 10 ^ limit ≤ ((10 : Int) ^ (limit - 1) * 10).natAbs := by
    intro limit positive
    rw [← Int.pow_succ, Nat.succ_eq_add_one, Nat.sub_add_cancel positive, Int.natAbs_pow]
    exact Nat.le_refl _
  rw [exists_answer_iff _ _ _ Cache.sound_empty, visits, parsed] at answered
  obtain ⟨expression, read, evaluated⟩ := (reading_eq_ok_iff _ _ _).mp (product _ _)
  apply answered _ List.mem_cons_self
  refine .inr ⟨expression, _, read, evaluated, ?_⟩
  exact longer Number.digitLimit (by decide)

end Pass

end Promptline
