import Promptline.Proofs.Context.Fields
import Promptline.Proofs.Segment.Derived

/-!
# What holds of every context

Total and free memory may be given by different snapshots, so they are compared after merging.
Whatever snapshots come in, accepted or refused, and whatever segments publish, the figures stay
balanced and no count becomes negative.  The memory in use that a segment derives relies on it.
-/

namespace Promptline

namespace Derived

/-- The memory in use that a segment publishes is what is missing from free to total. -/
def MemoryAddsUp (published : Entries Value) : Prop :=
  ∃ used free total : Int,
    Entries.get? "PhysicalUsedMemory" published = some (.int used) ∧
      Entries.get? "PhysicalFreeMemory" published = some (.int free) ∧
      Entries.get? "PhysicalTotalMemory" published = some (.int total) ∧
      0 ≤ used ∧ used ≤ total ∧ used + free = total

theorem memoryAddsUp_sysinfo {context : Context} (balanced : context.system.Balanced)
    (precision : Option Int) : MemoryAddsUp (sysinfo context precision) := by
  obtain ⟨nonneg, bounded⟩ := balanced
  refine ⟨_, _, _, rfl, rfl, rfl, ?_⟩
  omega

end Derived

namespace Context

/-- Something that happens to a context. -/
inductive Change
  /-- A snapshot comes in. -/
  | snapshot (data : Document)
  /-- A segment publishes its fields. -/
  | publish (key : String) (fields : Entries Value)

/-- The context after a change. A snapshot that is refused leaves it as it is. -/
def Change.apply (context : Context) : Change → Context
  | snapshot data =>
      match context.merge data with
      | .ok merged => merged
      | .error _ => context
  | publish key fields => context.withSegment key fields

/-- The context after a sequence of changes. -/
def after (changes : List Change) (context : Context) : Context :=
  changes.foldl Change.apply context

/-- The memory figures are balanced and no count is negative. -/
structure Consistent (context : Context) : Prop where
  balanced : context.system.Balanced
  nonneg : ∀ field : Field .count, 0 ≤ field.value context

theorem consistent_sample (now : Moment) : (sample now).Consistent where
  balanced := by simp [sample, System.Balanced]
  nonneg field := by cases field <;> simp [sample, Field.value]

theorem Consistent.merge {context merged : Context} (consistent : context.Consistent)
    {data : Document} (accepted : context.merge data = .ok merged) : merged.Consistent where
  balanced := by
    obtain ⟨snapshot, -, absent | balanced, rfl⟩ := merge_eq_ok_iff.mp accepted
    · exact Snapshot.system_laidOver absent context ▸ consistent.balanced
    · exact balanced
  nonneg field := by
    obtain ⟨patch, read, value⟩ := field.value_merge accepted
    rw [value]
    cases patch with
    | none => exact consistent.nonneg field
    | some n =>
        obtain ⟨d, -, checked⟩ := read.of_mem
        exact Checked.nonneg_of_natural checked

theorem Consistent.apply {context : Context} (consistent : context.Consistent) (change : Change) :
    (change.apply context).Consistent := by
  cases change with
  | publish key fields =>
      refine ⟨consistent.balanced, fun field => ?_⟩
      have kept := consistent.nonneg field
      cases field <;> exact kept
  | snapshot data =>
      rw [Change.apply]
      cases answer : context.merge data with
      | error fault => exact consistent
      | ok merged => exact consistent.merge answer

theorem Consistent.after {context : Context} (consistent : context.Consistent)
    (changes : List Change) : (context.after changes).Consistent := by
  induction changes generalizing context with
  | nil => exact consistent
  | cons change changes ih => exact ih (consistent.apply change)

/-- A snapshot whose fields are acceptable is refused only if the merged memory figures contradict
each other, and the refusal names them. -/
theorem Consistent.merge_eq_error_iff {context : Context} (consistent : context.Consistent)
    {data : Document} {snapshot : Snapshot} (read : Snapshot.read data = .valid snapshot)
    (fault : SnapshotFault) :
    context.merge data = .error fault ↔
      ¬ (snapshot.laidOver context).system.Balanced ∧
        fault = .memory ⟨(snapshot.laidOver context).system.freeMemory,
          (snapshot.laidOver context).system.totalMemory⟩ := by
  rw [merge_of_valid read]
  split
  · next fits =>
      have balanced : (snapshot.laidOver context).system.Balanced := by
        obtain absent | balanced := fits
        · exact Snapshot.system_laidOver absent context ▸ consistent.balanced
        · exact balanced
      simp [balanced]
  · next fits =>
      have unbalanced := (not_or.mp fits).2
      simp [unbalanced, eq_comm]

/-- Whatever happens to the stand-in context, free memory stays between zero and the total, no count
becomes negative, and a memory segment publishes memory in use that adds up.  A snapshot whose
fields are acceptable is refused if and only if the merged memory figures violate the bounds. -/
theorem figures_stay_consistent (now : Moment) (changes : List Change) :
    let context := (sample now).after changes
    (0 ≤ context.system.freeMemory ∧ context.system.freeMemory ≤ context.system.totalMemory ∧
      0 ≤ context.system.precision ∧ 0 ≤ context.git.ahead ∧ 0 ≤ context.git.behind ∧
      0 ≤ context.git.stashCount) ∧
    (∀ properties precision, properties.details = .sysinfo precision →
      ∃ published, Derived.fields "sysinfo" context properties = .ok published ∧
        Derived.MemoryAddsUp published) ∧
    (∀ given, ∃ published,
      Derived.fields "sysinfo" context (Properties.validate (.ofType "sysinfo") given).1 =
          .ok published ∧
        Derived.MemoryAddsUp published) ∧
    ∀ data snapshot, Snapshot.read data = .valid snapshot →
      let free := (Field.freeMemory.patch? snapshot).getD context.system.freeMemory
      let total := (Field.totalMemory.patch? snapshot).getD context.system.totalMemory
      ∀ fault, context.merge data = .error fault ↔
        ¬ (0 ≤ free ∧ free ≤ total) ∧ fault = .memory ⟨free, total⟩ := by
  intro context
  have consistent : context.Consistent := (consistent_sample now).after changes
  obtain ⟨free, bounded⟩ := consistent.balanced
  have addsUp (properties : Properties) (precision : Option Int)
      (settings : properties.details = .sysinfo precision) :
      ∃ published, Derived.fields "sysinfo" context properties = .ok published ∧
        Derived.MemoryAddsUp published := by
    have derived : Derived.fields "sysinfo" context properties =
        .ok (Derived.sysinfo context precision) := by simp only [Derived.fields, settings]
    exact ⟨_, derived, Derived.memoryAddsUp_sysinfo consistent.balanced precision⟩
  refine ⟨⟨free, bounded, consistent.nonneg .precision, consistent.nonneg .ahead,
    consistent.nonneg .behind, consistent.nonneg .stashCount⟩, addsUp, fun given => ?_,
    fun data snapshot read => ?_⟩
  · obtain ⟨precision, settings⟩ := Properties.details_validate_sysinfo given
    exact addsUp _ precision settings
  · intro free total fault
    have freeAfter : (snapshot.laidOver context).system.freeMemory = free :=
      Field.freeMemory.value_laidOver snapshot context
    have totalAfter : (snapshot.laidOver context).system.totalMemory = total :=
      Field.totalMemory.value_laidOver snapshot context
    rw [consistent.merge_eq_error_iff read fault, System.Balanced, freeAfter, totalAfter]

theorem total_below_free_is_refused :
    let figures (name : String) (n : Int) : Document := .table [("System", .table [(name, .int n)])]
    let changes : List Change := [
      .snapshot (figures "PhysicalTotalMemory" 100),
      .snapshot (figures "physical_free_memory" 60),
      .snapshot (figures "PhysicalTotalMemory" 100),
      .publish "Git" []]
    let now : Moment := ⟨2024, 3, 9, 14, 5, 7, 0, none, false⟩
    let context := (sample now).after changes
    let settings : Properties := { details := .sysinfo (some 2) }
    context.system.freeMemory = 60 ∧ context.system.totalMemory = 100 ∧
      (∃ published, Derived.fields "sysinfo" context settings = .ok published ∧
        Derived.MemoryAddsUp published) ∧
      context.merge (figures "PhysicalTotalMemory" 59) = .error (.memory ⟨60, 59⟩) := by
  intro figures changes now context settings
  obtain ⟨-, addsUp, -, refused⟩ := figures_stay_consistent now changes
  refine ⟨rfl, rfl, addsUp settings (some 2) rfl, ?_⟩
  exact (refused (figures "PhysicalTotalMemory" 59) _ rfl _).mpr ⟨by decide, rfl⟩

end Context

end Promptline
