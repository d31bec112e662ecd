import Promptline.Evaluate

/-!
# Paths

A step along a path that finds nothing goes on from nil, and from nil every name leads to nil.  So
it does not matter where a path is cut: its first names are followed from the scope or from the
root, the others from whatever the first ones lead to.
-/

namespace Promptline

namespace Value

theorem orNil_ne_missing (value : Value) : value.orNil ≠ missing := by
  cases value <;> exact Value.noConfusion

theorem orNil_of_ne_missing {value : Value} (present : value ≠ missing) : value.orNil = value := by
  cases value with
  | missing => contradiction
  | _ => rfl

end Value

namespace Scope

/-- A step that finds nothing goes on from nil. -/
theorem walk_cons (scope : Scope) (value : Value) (name : String) (names : List String) :
    scope.walk value (name :: names) = scope.walk (scope.member value name).orNil names := by
  rw [walk]
  split
  · next nowhere =>
      rw [nowhere]
      cases names <;> rfl
  · next found => rw [Value.orNil_of_ne_missing found]

/-- Names are followed one after the other, so they may be followed in two parts. -/
theorem walk_append (scope : Scope) (value : Value) (front back : List String) :
    scope.walk value (front ++ back) = scope.walk (scope.walk value front) back := by
  induction front generalizing value with
  | nil => rfl
  | cons name front ih => rw [List.cons_append, walk_cons, walk_cons, ih]

theorem walk_ne_missing (scope : Scope) {value : Value} (present : value ≠ .missing)
    (names : List String) : scope.walk value names ≠ .missing := by
  induction names generalizing value with
  | nil => exact present
  | cons name names ih =>
      rw [walk_cons]
      exact ih (Value.orNil_ne_missing _)

/-- A path starts at what its first name stands for. -/
theorem path_cons (scope : Scope) (name : String) (names : List String) :
    scope.path (name :: names) = scope.walk (scope.lookup name).orNil names := by
  rw [path]
  split
  · next nowhere =>
      rw [nowhere]
      cases names <;> rfl
  · next found => rw [Value.orNil_of_ne_missing found]

theorem path_append (scope : Scope) (name : String) (names more : List String) :
    scope.path (name :: names ++ more) = scope.walk (scope.path (name :: names)) more := by
  rw [List.cons_append, path_cons, path_cons, walk_append]

/-- Only the first name of a path may stand for a field of the segment. -/
theorem path_cons_eq (scope : Scope) (name : String) (names : List String) :
    scope.path (name :: names) =
      match Entries.get? name scope.fields with
      | some value => scope.walk value.orNil names
      | none => scope.walk .root (name :: names) := by
  rw [path_cons, lookup]
  cases Entries.get? name scope.fields with
  | some value => rfl
  | none => exact (scope.walk_cons .root name names).symm

theorem current_ne_missing (scope : Scope) : scope.current ≠ .missing := by
  rw [current]
  split <;> exact Value.noConfusion

theorem path_ne_missing (scope : Scope) (names : List String) : scope.path names ≠ .missing := by
  cases names with
  | nil => exact scope.current_ne_missing
  | cons name names =>
      rw [path_cons]
      exact scope.walk_ne_missing (Value.orNil_ne_missing _) names

end Scope

namespace Node

/-- Names that are followed from the scope or from the root, in one part or in several. -/
inductive IsPath : Node → Prop
  | path (names : List String) : IsPath (.path names)
  | root (names : List String) : IsPath (.root names)
  | chain {target : Node} (path : IsPath target) (names : List String) :
      IsPath (.chain target names)

/-- Following names never fails, and the value is at worst nil. -/
theorem IsPath.exists_eval {node : Node} (leads : IsPath node) (scope : Scope)
    (registry : Registry) : ∃ value, node.eval scope registry = .ok value ∧ value ≠ .missing := by
  induction leads with
  | path names => exact ⟨scope.path names, by rw [Node.eval], scope.path_ne_missing names⟩
  | root names =>
      exact ⟨scope.walk .root names, by rw [Node.eval],
        scope.walk_ne_missing Value.noConfusion names⟩
  | chain _ names ih =>
      obtain ⟨value, evaluates, present⟩ := ih
      refine ⟨scope.walk value names, ?_, scope.walk_ne_missing present names⟩
      rw [Node.eval, evaluates]
      rfl

/-- Path access composes.  Names behind a path in parentheses lead to what they lead to at the end
of the path itself, whether it starts at the root or at a name of the scope.  A path from the scope
follows its other names from the field of the segment that its first name stands for, where a
missing value counts as nil; if there is no such field, it is the path from the root.  No path
fails, and none ends in the missing value. -/
theorem paths_compose (scope : Scope) (registry : Registry) :
    (∀ (name : String) (names more : List String),
      (Node.chain (.path (name :: names)) more).eval scope registry =
        (Node.path (name :: names ++ more)).eval scope registry) ∧
    (∀ names more : List String,
      (Node.chain (.root names) more).eval scope registry =
        (Node.root (names ++ more)).eval scope registry) ∧
    (∀ (name : String) (names : List String),
      (Node.path (name :: names)).eval scope registry =
        match Entries.get? name scope.fields with
        | some value => .ok (scope.walk value.orNil names)
        | none => (Node.root (name :: names)).eval scope registry) ∧
    ∀ node, IsPath node →
      ∃ value, node.eval scope registry = .ok value ∧ value ≠ .missing := by
  refine ⟨fun name names more => ?_, fun names more => ?_, fun name names => ?_,
    fun node leads => leads.exists_eval scope registry⟩
  · rw [Node.eval, Node.eval, Node.eval, scope.path_append]
    rfl
  · rw [Node.eval, Node.eval, Node.eval, scope.walk_append]
    rfl
  · rw [Node.eval, scope.path_cons_eq]
    cases Entries.get? name scope.fields with
    | some value => rfl
    | none => rw [Node.eval]

theorem paths_outside_repository_compose :
    let outside : Git := { branch := "old", isRepo := false }
    let context := { Context.sample ⟨2024, 3, 9, 14, 5, 7, 0, none, false⟩ with git := outside }
    let scope : Scope := ⟨context, [("Gone", .missing), ("Branch", .map [("Name", .string "new")])]⟩
    (Node.chain (.path ["Git"]) ["Branch"]).eval scope .builtin = .ok (.string "") ∧
      (Node.chain (.path ["Branch"]) ["Name"]).eval scope .builtin = .ok (.string "new") ∧
      (Node.chain (.root ["Env"]) ["EDITOR"]).eval scope .builtin = .ok (.string "") ∧
      (Node.path ["Gone"]).eval scope .builtin = .ok .nil ∧
      IsPath (.chain (.path ["Shell", "Name"]) ["Length"]) ∧
      ∃ value, (Node.chain (.path ["Shell", "Name"]) ["Length"]).eval scope .builtin = .ok value ∧
        value ≠ .missing := by
  intro outside context scope
  obtain ⟨chained, rooted, shadowed, succeed⟩ := paths_compose scope .builtin
  have leads : IsPath (.chain (.path ["Shell", "Name"]) ["Length"]) := .chain (.path _) _
  refine ⟨?_, ?_, ?_, ?_, leads, succeed _ leads⟩
  · exact (chained "Git" [] ["Branch"]).trans rfl
  · exact (chained "Branch" [] ["Name"]).trans rfl
  · exact (rooted ["Env"] ["EDITOR"]).trans rfl
  · exact (shadowed "Gone" []).trans rfl

end Node

end Promptline
