import Promptline.Proofs.Resolve.Transcript

/-!
# Published fields and the name that leads to them

The fields that other segments have published are reached through one name only.  A template whose
paths do not have that name produces the same, whatever is published.
-/

namespace Promptline

/-- The context with other published fields. -/
def Context.publishing (segments : Entries (Entries Value)) (context : Context) : Context :=
  { context with segments := segments }

/-- The scope with other published fields. -/
def Scope.publishing (segments : Entries (Entries Value)) (scope : Scope) : Scope :=
  { scope with context := scope.context.publishing segments }

/-- The pass with other published fields. -/
def Pass.publishing (segments : Entries (Entries Value)) (pass : Pass) : Pass :=
  { pass with scope := pass.scope.publishing segments }

/-! ## Expressions -/

mutual

/-- Whether a path in an expression has the name. -/
def Node.mentions (name : String) : Node → Bool
  | .literal _ => false
  | .path names => names.contains name
  | .root names => names.contains name
  | .chain target names => target.mentions name || names.contains name
  | .call _ args => Node.anyMentions name args

/-- Whether a path in one of several expressions has the name. -/
def Node.anyMentions (name : String) : List Node → Bool
  | [] => false
  | node :: nodes => node.mentions name || Node.anyMentions name nodes

end

section Evaluation

variable (segments : Entries (Entries Value))

theorem Context.lookup_publishing {name : String} (other : name ≠ "Segments")
    (context : Context) : (context.publishing segments).lookup name = context.lookup name := by
  have apart : ¬ "Segments" = name := Ne.symm other
  simp [lookup, fields, promoted, publishing, Entries.get?, apart]

theorem Scope.lookup_publishing {name : String} (other : name ≠ "Segments") (scope : Scope) :
    (scope.publishing segments).lookup name = scope.lookup name := by
  simp only [lookup, publishing, Context.lookup_publishing segments other]

theorem Scope.walk_publishing (scope : Scope) (value : Value) {names : List String}
    (absent : "Segments" ∉ names) :
    (scope.publishing segments).walk value names = scope.walk value names := by
  induction names generalizing value with
  | nil => rfl
  | cons name names ih =>
      obtain ⟨other, absent⟩ := not_or.mp (mt List.mem_cons.mpr absent)
      have step : (scope.publishing segments).member value name = scope.member value name := by
        cases value with
        | root => exact Context.lookup_publishing segments (Ne.symm other) scope.context
        | _ => rfl
      rw [walk, walk, step]
      split
      · rfl
      · exact ih _ absent

theorem Scope.path_publishing (scope : Scope) {names : List String}
    (absent : "Segments" ∉ names) :
    (scope.publishing segments).path names = scope.path names := by
  cases names with
  | nil => rfl
  | cons name names =>
      obtain ⟨other, absent⟩ := not_or.mp (mt List.mem_cons.mpr absent)
      rw [path, path, scope.lookup_publishing segments (Ne.symm other)]
      split
      · rfl
      · exact scope.walk_publishing segments _ absent

variable (scope : Scope) (registry : Registry)

mutual

theorem Node.eval_publishing {node : Node} (absent : node.mentions "Segments" = false) :
    node.eval (scope.publishing segments) registry = node.eval scope registry := by
  cases node with
  | literal value => rfl
  | path names =>
      have unnamed : "Segments" ∉ names := by simpa [mentions] using absent
      exact congrArg Except.ok (scope.path_publishing segments unnamed)
  | root names =>
      have unnamed : "Segments" ∉ names := by simpa [mentions] using absent
      exact congrArg Except.ok (scope.walk_publishing segments .root unnamed)
  | chain target names =>
      obtain ⟨within, along⟩ := Bool.or_eq_false_iff.mp absent
      have unnamed : "Segments" ∉ names := by simpa using along
      simp only [Node.eval, Node.eval_publishing within, scope.walk_publishing segments _ unnamed]
  | call name args =>
      simp only [Node.eval, Node.evalAll_publishing absent,
        fun decider => Node.evalUntil_publishing decider .nil absent]

theorem Node.evalAll_publishing {nodes : List Node}
    (absent : Node.anyMentions "Segments" nodes = false) :
    Node.evalAll (scope.publishing segments) registry nodes =
      Node.evalAll scope registry nodes := by
  cases nodes with
  | nil => rfl
  | cons node nodes =>
      obtain ⟨first, rest⟩ := Bool.or_eq_false_iff.mp absent
      simp only [Node.evalAll, Node.eval_publishing first, Node.evalAll_publishing rest]

theorem Node.evalUntil_publishing (decider : Bool) (last : Value) {nodes : List Node}
    (absent : Node.anyMentions "Segments" nodes = false) :
    Node.evalUntil (scope.publishing segments) registry decider last nodes =
      Node.evalUntil scope registry decider last nodes := by
  cases nodes with
  | nil => rfl
  | cons node nodes =>
      obtain ⟨first, rest⟩ := Bool.or_eq_false_iff.mp absent
      simp only [Node.evalUntil, Node.eval_publishing first,
        fun value => Node.evalUntil_publishing decider value rest]

end

end Evaluation

/-! ## Templates -/

namespace Template

mutual

/-- The expressions in a part, also those that no resolution reads. -/
def Part.expressions : Part → List String
  | .text _ => []
  | .action _ body => [body]
  | .conditional branches otherwise =>
      Branch.allExpressions branches ++ Part.allExpressions otherwise

/-- The expressions in parts. -/
def Part.allExpressions : List Part → List String
  | [] => []
  | part :: parts => part.expressions ++ Part.allExpressions parts

/-- The conditions of branches, and the expressions in their bodies. -/
def Branch.allExpressions : List Branch → List String
  | [] => []
  | .mk _ condition body :: rest =>
      condition :: (Part.allExpressions body ++ Branch.allExpressions rest)

end

end Template

/-- Whether a text is an expression with the name in one of its paths. -/
def Expression.sourceMentions (name source : String) : Bool :=
  match Expression.parse source with
  | .ok expression => expression.node.mentions name
  | .error _ => false

/-- Whether an expression of a template has the name in one of its paths. -/
def Template.mentions (name template : String) : Bool :=
  (Part.allExpressions (parse template).parts).any (Expression.sourceMentions name)

namespace Pass

variable (segments : Entries (Entries Value)) (pass : Pass)

theorem reading_publishing {source : String}
    (absent : Expression.sourceMentions "Segments" source = false) :
    (pass.publishing segments).reading source = pass.reading source := by
  rw [Expression.sourceMentions] at absent
  rw [reading, reading, Expression.lookup]
  cases parsed : Expression.parse source with
  | error fault => cases fault <;> rfl
  | ok expression =>
      rw [parsed] at absent
      have same := Node.eval_publishing segments pass.scope pass.registry absent
      simp only [Expression.eval, publishing, same]

theorem actionTranscript_publishing (source : String) {body : String}
    (absent : Expression.sourceMentions "Segments" body = false) :
    (pass.publishing segments).actionTranscript source body =
      pass.actionTranscript source body := by
  simp only [actionTranscript, pass.reading_publishing segments absent]

theorem guardTranscript_publishing {condition : String}
    (absent : Expression.sourceMentions "Segments" condition = false) :
    (pass.publishing segments).guardTranscript condition = pass.guardTranscript condition := by
  simp only [guardTranscript, pass.reading_publishing segments absent]

theorem guardHolds_publishing {condition : String}
    (absent : Expression.sourceMentions "Segments" condition = false) :
    (pass.publishing segments).guardHolds condition = pass.guardHolds condition := by
  simp only [guardHolds, pass.reading_publishing segments absent]

theorem takes_publishing {branches : List Template.Branch}
    (absent : ∀ source ∈ Template.Branch.allExpressions branches,
      Expression.sourceMentions "Segments" source = false) :
    (pass.publishing segments).takes branches = pass.takes branches := by
  induction branches with
  | nil => rfl
  | cons branch rest ih =>
      obtain ⟨source, condition, body⟩ := branch
      obtain ⟨guard, inside⟩ := List.forall_mem_cons.mp absent
      obtain ⟨-, later⟩ := List.forall_mem_append.mp inside
      have first := pass.guardHolds_publishing segments guard
      have others := ih later
      rw [takes] at others ⊢
      rw [List.any_cons, others, Template.Branch.condition, first]
      rfl

mutual

theorem partTranscript_publishing {part : Template.Part}
    (absent : ∀ source ∈ part.expressions, Expression.sourceMentions "Segments" source = false) :
    (pass.publishing segments).partTranscript part = pass.partTranscript part := by
  cases part with
  | text text => rfl
  | action source body =>
      have unmentioned := absent body (List.mem_singleton.mpr rfl)
      exact pass.actionTranscript_publishing segments source unmentioned
  | conditional branches otherwise =>
      obtain ⟨guarded, otherwise_absent⟩ := List.forall_mem_append.mp absent
      rw [partTranscript, partTranscript, branchesTranscript_publishing guarded,
        partsTranscript_publishing otherwise_absent, pass.takes_publishing segments guarded]

theorem partsTranscript_publishing {parts : List Template.Part}
    (absent : ∀ source ∈ Template.Part.allExpressions parts,
      Expression.sourceMentions "Segments" source = false) :
    (pass.publishing segments).partsTranscript parts = pass.partsTranscript parts := by
  cases parts with
  | nil => rfl
  | cons part rest =>
      obtain ⟨first, later⟩ := List.forall_mem_append.mp absent
      rw [partsTranscript, partsTranscript, partTranscript_publishing first,
        partsTranscript_publishing later]

theorem branchesTranscript_publishing {branches : List Template.Branch}
    (absent : ∀ source ∈ Template.Branch.allExpressions branches,
      Expression.sourceMentions "Segments" source = false) :
    (pass.publishing segments).branchesTranscript branches = pass.branchesTranscript branches := by
  cases branches with
  | nil => rfl
  | cons branch rest =>
      obtain ⟨source, condition, body⟩ := branch
      obtain ⟨guard, inside⟩ := List.forall_mem_cons.mp absent
      obtain ⟨within, later⟩ := List.forall_mem_append.mp inside
      rw [branchesTranscript, branchesTranscript, pass.guardTranscript_publishing segments guard,
        pass.guardHolds_publishing segments guard, partsTranscript_publishing within,
        branchesTranscript_publishing later]

end

/-- A template that does not mention them produces the same, whatever fields are published. -/
theorem transcript_publishing {template : String}
    (absent : Template.mentions "Segments" template = false) :
    (pass.publishing segments).transcript template = pass.transcript template := by
  have unmentioned : ∀ source ∈ Template.Part.allExpressions (Template.parse template).parts,
      Expression.sourceMentions "Segments" source = false := by
    simpa [Template.mentions] using absent
  rw [transcript, transcript, parsedTranscript, parsedTranscript,
    pass.partsTranscript_publishing segments unmentioned]
  rfl

end Pass

end Promptline
