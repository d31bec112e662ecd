import Mathlib
import Promptline.Proofs.Answer
import Promptline.Proofs.Validation.Given
import Promptline.Segment.Derived

/-!
# Fields that cannot be derived

The settings of a segment keep to the kind of the segment, whichever of them are rejected.  A
segment therefore has fields unless it shows a repository, and then unless one of the counts that it
shows is too long to be written.
-/

namespace Promptline

open Checked (yields_eq_iff yields_map_iff yields_seq_iff)

/-- The kind that settings belong to. -/
def Details.kind : Details → PropertyKind
  | .plain => .plain
  | .git _ => .git
  | .sysinfo _ => .sysinfo
  | .path _ => .path
  | .time _ => .time

namespace PropertyKind

theorem ofType_eq_git_iff {type : String} : ofType type = git ↔ type = "git" := by
  unfold ofType
  split <;> simp_all

theorem kind_defaults (kind : PropertyKind) : kind.defaults.kind = kind := by
  cases kind <;> rfl

theorem kind_of_details {kind : PropertyKind} {entries : Entries Document} {details : Details}
    (read : kind.details entries = .valid details) : details.kind = kind := by
  rw [← yields_eq_iff] at read
  cases kind with
  | plain => obtain rfl := Checked.valid.inj (yields_eq_iff.mp read); rfl
  | git | sysinfo | path | time =>
      obtain ⟨settings, -, rfl⟩ := yields_map_iff.mp read
      rfl

end PropertyKind

namespace Properties

theorem details_of_check {kind : PropertyKind} {entries : Entries Document}
    {properties : Properties} (accepted : check kind entries = .valid properties) :
    kind.details entries = .valid properties.details := by
  rw [← yields_eq_iff, check] at accepted
  simp only [yields_seq_iff, yields_map_iff] at accepted
  obtain ⟨template, -, text, -, before, -, after, -, details, read, extras, -, rfl⟩ := accepted
  exact read

/-- Settings keep to their kind, whichever keys are rejected. -/
theorem kind_details_validate (kind : PropertyKind) (given : Entries Document) :
    (validate kind given).1.details.kind = kind := by
  unfold validate
  cases whole : check kind given with
  | valid properties => exact kind.kind_of_details (details_of_check whole)
  | invalid problems =>
      simp only
      generalize given.filter _ = kept
      cases rest : check kind kept with
      | valid properties => exact kind.kind_of_details (details_of_check rest)
      | invalid problems => exact kind.kind_defaults

theorem details_validate_sysinfo (given : Entries Document) :
    ∃ precision, (validate (.ofType "sysinfo") given).1.details = .sysinfo precision := by
  have kept := kind_details_validate (.ofType "sysinfo") given
  cases details : (validate (.ofType "sysinfo") given).1.details with
  | sysinfo precision => exact ⟨precision, rfl⟩
  | _ => rw [details] at kept; cases kept

end Properties

/-- A count of the repository is too long to be written. -/
def Git.HasLongCount (git : Git) : Prop :=
  git.isRepo = true ∧ ∃ count ∈ [git.ahead, git.behind, git.stashCount],
    10 ^ Number.digitLimit ≤ count

namespace Derived

theorem countStatus_eq_error_iff {icon : String} {count : Int} {limit : DigitLimit} :
    countStatus icon count = .error limit ↔
      10 ^ Number.digitLimit ≤ count ∧ limit = .writing := by
  have long : Number.isTooLong count = true ↔ 10 ^ Number.digitLimit ≤ count.natAbs := by
    rw [Number.isTooLong, decide_eq_true_iff, Nat.pow_eq]
  have bound : (0 : Int) < 10 ^ Number.digitLimit := by positivity
  have same : ((10 ^ Number.digitLimit : Nat) : Int) = 10 ^ Number.digitLimit := by push_cast; rfl
  rw [countStatus]
  split
  · next shown =>
      have written : 10 ^ Number.digitLimit ≤ count.natAbs ↔ 10 ^ Number.digitLimit ≤ count := by
        omega
      rw [Value.text, ← written, ← long]
      cases Number.isTooLong count <;> simp [bind, Except.bind, pure, Except.pure, eq_comm]
  · next hidden =>
      have short : ¬ 10 ^ Number.digitLimit ≤ count := by omega
      simp [short, pure, Except.pure]

theorem exists_countStatus_iff {icon : String} {count : Int} :
    (∃ shown, countStatus icon count = .ok shown) ↔ ¬ 10 ^ Number.digitLimit ≤ count := by
  have long := @countStatus_eq_error_iff icon count .writing
  rw [and_iff_left rfl] at long
  rw [← long]
  cases answer : countStatus icon count with
  | ok shown => simp
  | error limit => simp [(countStatus_eq_error_iff.mp answer).2]

/-- A repository has no fields if and only if one of its counts is too long. -/
theorem git_eq_error_iff {context : Context} {icons : GitIcons} {limit : DigitLimit} :
    git context icons = .error limit ↔ context.git.HasLongCount ∧ limit = .writing := by
  have seen : context.git.HasLongCount ↔
      ∃ count ∈ [context.git.visible.ahead, context.git.visible.behind,
        context.git.visible.stashCount], 10 ^ Number.digitLimit ≤ count := by
    cases inside : context.git.isRepo with
    | true => simp [Git.HasLongCount, Git.visible, inside]
    | false =>
        have bound : ¬ (10 : Int) ^ Number.digitLimit ≤ 0 := not_le.mpr (by positivity)
        simp [Git.HasLongCount, Git.absent, inside, bound]
  simp only [git, bind_eq_error_iff, exists_and_right, countStatus_eq_error_iff,
    exists_countStatus_iff, pure, Except.pure, reduceCtorEq, exists_false, and_false, or_false,
    seen, List.exists_mem_cons_iff, List.not_mem_nil, false_and]
  tauto

/-- A segment has no fields if and only if it shows a repository with a count that is too long. -/
theorem fields_eq_error_iff {type : String} {context : Context} {properties : Properties}
    {limit : DigitLimit} :
    fields type context properties = .error limit ↔
      properties.details.kind = .git ∧ context.git.HasLongCount ∧ limit = .writing := by
  unfold fields
  split <;> simp_all [git_eq_error_iff, Details.kind]

end Derived

end Promptline
