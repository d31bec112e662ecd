import Promptline.Proofs.Answer
import Promptline.Proofs.Repository.Visible

/-!
# Evaluation sees only what templates see

Two contexts with the same visible repository state are told apart by no expression: lookups, paths
and calls give values that look alike.
-/

namespace Promptline

namespace Context

/-- The context with its repository state as templates see it. -/
def seen (context : Context) : Context :=
  { context with git := context.git.visible }

theorem fields_seen (context : Context) :
    context.seen.fields = Entries.mapValues Value.seen context.fields := rfl

theorem promoted_seen (context : Context) : context.seen.promoted = context.promoted := by
  simp [promoted, seen, Git.fields]

theorem names_seen (context : Context) :
    context.seen.fields ++ context.seen.promoted =
      Entries.mapValues Value.seen (context.fields ++ context.promoted) := by
  rw [fields_seen, promoted_seen, Entries.mapValues, Entries.mapValues, List.map_append]
  rfl

/-- A name leads to values that look alike. -/
theorem lookup_seen (name : String) (context : Context) :
    context.seen.lookup name = (context.lookup name).seen := by
  rw [lookup, lookup, names_seen, Entries.get?_mapValues]
  cases Entries.get? name (context.fields ++ context.promoted) <;> rfl

theorem withSegment_seen (key : String) (fields : Entries Value) (context : Context) :
    (context.withSegment key fields).seen = context.seen.withSegment key fields := rfl

/-- As data a context shows no more than templates see. -/
theorem toDocument_seen (context : Context) : context.seen.toDocument = context.toDocument := by
  simp [toDocument, fields, seen, Value.entriesToDocument, Value.toDocument, Record.toDocument,
    Record.fields, Git.fields, segmentsValue, Record.isAlias]

end Context

namespace Scope

/-- The scope with the repository state as templates see it. -/
def seen (scope : Scope) : Scope :=
  { scope with context := scope.context.seen }

theorem lookup_seen (scope : Scope) (name : String) :
    (scope.seen.lookup name).seen = (scope.lookup name).seen := by
  simp only [lookup, seen]
  cases Entries.get? name scope.fields with
  | some value => rfl
  | none => simp [Context.lookup_seen]

/-- A step along a path leads from values that look alike to values that look alike. -/
theorem member_seen (scope : Scope) {first second : Value} (alike : first.seen = second.seen)
    (name : String) : (scope.seen.member first name).seen = (scope.member second name).seen := by
  obtain rfl | ⟨git, other, rfl, rfl, visible⟩ := Value.eq_or_git_of_seen_eq alike
  · cases first with
    | root => simp [member, seen, Context.lookup_seen]
    | _ => rfl
  · simp [member, Record.lookup, Record.fields, Git.fields, visible]

theorem walk_of_missing {scope : Scope} {value : Value} {name : String}
    (nowhere : scope.member value name = .missing) (names : List String) :
    scope.walk value (name :: names) = .nil := by
  rw [walk, nowhere]

theorem walk_of_found {scope : Scope} {value : Value} {name : String}
    (found : scope.member value name ≠ .missing) (names : List String) :
    scope.walk value (name :: names) = scope.walk (scope.member value name) names := by
  rw [walk]
  split
  · next nowhere => exact absurd nowhere found
  · rfl

theorem seen_eq_missing_iff {value : Value} : value.seen = .missing ↔ value = .missing := by
  constructor
  · intro hidden
    have alike : value.seen = Value.missing.seen := hidden
    obtain rfl | ⟨_, _, _, impossible, _⟩ := Value.eq_or_git_of_seen_eq alike
    · rfl
    · cases impossible
  · rintro rfl
    rfl

/-- A path leads from values that look alike to values that look alike. -/
theorem walk_seen (scope : Scope) {first second : Value} (alike : first.seen = second.seen)
    (names : List String) :
    (scope.seen.walk first names).seen = (scope.walk second names).seen := by
  induction names generalizing first second with
  | nil => exact alike
  | cons name names ih =>
      have step := scope.member_seen alike name
      by_cases nowhere : scope.member second name = .missing
      · have lost : scope.seen.member first name = .missing := by
          rw [← seen_eq_missing_iff, step, nowhere]
          rfl
        rw [walk_of_missing lost, walk_of_missing nowhere]
      · have kept : scope.seen.member first name ≠ .missing := by
          rwa [Ne, ← seen_eq_missing_iff, step, seen_eq_missing_iff]
        rw [walk_of_found kept, walk_of_found nowhere]
        exact ih step

theorem path_seen (scope : Scope) (names : List String) :
    (scope.seen.path names).seen = (scope.path names).seen := by
  cases names with
  | nil => rfl
  | cons name names =>
      have start := scope.lookup_seen name
      rw [path, path]
      split
      · next lost =>
          rw [lost] at start
          have nowhere : scope.lookup name = .missing := seen_eq_missing_iff.mp start.symm
          rw [nowhere]
      · next kept =>
          split
          · next nowhere =>
              rw [nowhere] at start
              exact absurd (seen_eq_missing_iff.mp start) kept
          · exact scope.walk_seen start names

end Scope

/-- A registry of discreet functions resolves names to discreet functions. -/
theorem Registry.Discreet.resolve {registry : Registry} (discreet : registry.Discreet)
    {name : String} {count : Nat} {body : Body} (found : registry.resolve name count = .ok body) :
    body.Discreet := by
  obtain ⟨f, member, rfl⟩ := Registry.exists_of_resolve found
  exact discreet (name, f) member

mutual

/-- Expressions cannot tell contexts whose repository states look alike. -/
theorem Node.eval_seen (scope : Scope) {registry : Registry} (discreet : registry.Discreet)
    (node : Node) :
    (node.eval scope.seen registry).map Value.seen = (node.eval scope registry).map Value.seen := by
  cases node with
  | literal value => rfl
  | path names => exact congrArg Except.ok (scope.path_seen names)
  | root names => exact congrArg Except.ok (scope.walk_seen rfl names)
  | chain target names =>
      rw [Node.eval, Node.eval]
      refine map_bind_congr (Node.eval_seen scope discreet target) fun first second alike => ?_
      exact congrArg Except.ok (scope.walk_seen alike names)
  | call name args =>
      rw [Node.eval, Node.eval]
      cases found : registry.resolve name args.length with
      | error fault => rfl
      | ok body =>
          have same := discreet.resolve found
          cases body with
          | shortCircuit decider => exact Node.evalUntil_seen scope discreet decider rfl args
          | eager apply =>
              refine map_bind_congr (Node.evalAll_seen scope discreet args)
                fun first second alike => ?_
              have results : (apply first).map Value.seen = (apply second).map Value.seen := by
                rw [← same first, alike, same second]
              obtain ⟨fault, left, right⟩ | ⟨value, other, left, right, same⟩ :=
                error_or_ok_of_map_eq results
              · rw [left, right]
              · rw [left, right]
                exact congrArg Except.ok same

theorem Node.evalAll_seen (scope : Scope) {registry : Registry} (discreet : registry.Discreet)
    (nodes : List Node) :
    (Node.evalAll scope.seen registry nodes).map (List.map Value.seen) =
      (Node.evalAll scope registry nodes).map (List.map Value.seen) := by
  cases nodes with
  | nil => rfl
  | cons node nodes =>
      rw [Node.evalAll, Node.evalAll]
      refine map_bind_congr (Node.eval_seen scope discreet node) fun first second alike => ?_
      refine map_bind_congr (Node.evalAll_seen scope discreet nodes) fun later others same => ?_
      change Except.ok (first.seen :: later.map Value.seen) = _
      rw [alike, same]
      rfl

theorem Node.evalUntil_seen (scope : Scope) {registry : Registry} (discreet : registry.Discreet)
    (decider : Bool) {first second : Value} (alike : first.seen = second.seen)
    (nodes : List Node) :
    (Node.evalUntil scope.seen registry decider first nodes).map Value.seen =
      (Node.evalUntil scope registry decider second nodes).map Value.seen := by
  cases nodes with
  | nil => exact congrArg Except.ok alike
  | cons node nodes =>
      rw [Node.evalUntil, Node.evalUntil]
      refine map_bind_congr (Node.eval_seen scope discreet node) fun value other same => ?_
      rw [Value.congr_of_seen Value.isTruthy_seen same]
      split
      · exact congrArg Except.ok same
      · exact Node.evalUntil_seen scope discreet decider same nodes

end

/-- The value of an expression looks the same whatever a hidden repository record holds. -/
theorem Expression.eval_seen (expression : Expression) (scope : Scope) {registry : Registry}
    (discreet : registry.Discreet) :
    (expression.eval scope.seen registry).map Value.seen =
      (expression.eval scope registry).map Value.seen := by
  have alike := Node.eval_seen scope discreet expression.node
  rw [Expression.eval, Expression.eval]
  obtain ⟨fault, left, right⟩ | ⟨value, other, left, right, same⟩ := error_or_ok_of_map_eq alike
  · rw [left, right]
  · rw [left, right]
    exact congrArg Except.ok same

end Promptline
