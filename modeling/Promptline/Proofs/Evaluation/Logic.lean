import Promptline.Evaluate
import Promptline.Proofs.Expression.Piping

/-!
# Logical functions

"and" and "or" have the answer of one of their operands: of the first one that fails or whose truth
decides, or of the last one if there is none.  What stands behind that operand plays no part.
Negating every operand exchanges the truths that decide, so the negation of the one function is the
other one of negated operands, for failures as well as for values.
-/

namespace Promptline

namespace Logic

/-- Name of the logical function that stops at the first operand of a truth. -/
def name (decider : Bool) : String :=
  if decider then "or" else "and"

/-- An answer that ends a logical function: a failure, or a value of the deciding truth. -/
def Stops (decider : Bool) : Except EvalFault Value → Prop
  | .error _ => True
  | .ok value => value.isTruthy = decider

instance (decider : Bool) (answer : Except EvalFault Value) : Decidable (Stops decider answer) :=
  match answer with
  | .error _ => inferInstanceAs (Decidable True)
  | .ok value => inferInstanceAs (Decidable (value.isTruthy = decider))

theorem exists_of_not_stops {decider : Bool} {answer : Except EvalFault Value}
    (passes : ¬ Stops decider answer) :
    ∃ value, answer = .ok value ∧ value.isTruthy ≠ decider := by
  cases answer with
  | error fault => exact absurd trivial passes
  | ok value => exact ⟨value, rfl, passes⟩

/-- The truth value that a value does not have. -/
def negated (value : Value) : Value :=
  .bool (!value.isTruthy)

theorem stops_map_negated_iff {decider : Bool} {answer : Except EvalFault Value} :
    Stops (!decider) (answer.map negated) ↔ Stops decider answer := by
  cases answer with
  | error fault => rfl
  | ok value => exact Bool.not_inj_iff

/-- A list that is not empty has a first member with a property, or else a last member. -/
theorem exists_first_or_last {α : Type} (p : α → Prop) {members : List α} (some : members ≠ []) :
    ∃ before member after, members = before ++ member :: after ∧ (∀ a ∈ before, ¬ p a) ∧
      (p member ∨ after = []) := by
  induction members with
  | nil => contradiction
  | cons member members ih =>
      by_cases found : p member
      · exact ⟨[], member, members, rfl, by simp, .inl found⟩
      · by_cases last : members = []
        · exact ⟨[], member, members, rfl, by simp, .inr last⟩
        · obtain ⟨before, first, after, rfl, passed, stops⟩ := ih last
          exact ⟨member :: before, first, after, rfl,
            List.forall_mem_cons.mpr ⟨found, passed⟩, stops⟩

end Logic

namespace Registry

/-- The logical functions are the built-in ones, whatever other functions there are. -/
structure HasLogic (registry : Registry) : Prop where
  /-- "and" and "or". -/
  logical (decider : Bool) :
    registry.get? (Logic.name decider) = builtin.get? (Logic.name decider)
  /-- "not". -/
  negation : registry.get? "not" = builtin.get? "not"

theorem builtin_logical (decider : Bool) :
    builtin.get? (Logic.name decider) = some (.logical decider) := by
  cases decider <;> rfl

end Registry

namespace Node

open Logic

section

variable {scope : Scope} {registry : Registry} {decider : Bool}

/-- After an operand that does not stop it, the function looks at the next one; at the operand that
stops it, or at the last one, it answers. -/
theorem evalUntil_eq {before after : List Node} {node : Node}
    (passed : ∀ operand ∈ before, ¬ Stops decider (operand.eval scope registry))
    (answers : Stops decider (node.eval scope registry) ∨ after = []) (last : Value) :
    evalUntil scope registry decider last (before ++ node :: after) =
      node.eval scope registry := by
  induction before generalizing last with
  | nil =>
      rw [List.nil_append, evalUntil]
      cases evaluates : node.eval scope registry with
      | error fault => rfl
      | ok value =>
          change (if value.isTruthy = decider then _ else _) = _
          split
          · rfl
          · next passes =>
              rw [evaluates] at answers
              rw [answers.resolve_left passes, evalUntil]
  | cons operand before ih =>
      obtain ⟨stays, passed⟩ := List.forall_mem_cons.mp passed
      obtain ⟨value, evaluates, other⟩ := exists_of_not_stops stays
      rw [List.cons_append, evalUntil, evaluates]
      change (if value.isTruthy = decider then _ else _) = _
      rw [if_neg other, ih passed]

theorem eval_logical (logic : registry.HasLogic) {operands : List Node} (some : operands ≠ []) :
    (Node.call (Logic.name decider) operands).eval scope registry =
      evalUntil scope registry decider .nil operands := by
  have accepted : (Function.logical decider).arity.accepts operands.length = true := by
    simpa [Function.logical, Arity.atLeast, Arity.accepts, Nat.succ_le_iff] using
      List.length_pos_iff.mpr some
  rw [Node.eval, Registry.resolve, logic.logical, Registry.builtin_logical]
  simp only [accepted, if_true]
  rfl

/-- A call has the answer of its first operand that stops it, or of its last one. -/
theorem eval_logical_eq (logic : registry.HasLogic) {before after : List Node} {node : Node}
    (passed : ∀ operand ∈ before, ¬ Stops decider (operand.eval scope registry))
    (answers : Stops decider (node.eval scope registry) ∨ after = []) :
    (Node.call (Logic.name decider) (before ++ node :: after)).eval scope registry =
      node.eval scope registry := by
  rw [eval_logical logic (by simp), evalUntil_eq passed answers]

theorem eval_negation (logic : registry.HasLogic) (operand : Node) :
    (Node.call "not" [operand]).eval scope registry =
      (operand.eval scope registry).map negated := by
  have known : registry.resolve "not" [operand].length =
      .ok (Function.unary fun x => .ok (.bool (!x.isTruthy))).body := by
    rw [Registry.resolve, logic.negation]
    rfl
  rw [Node.eval, known, Node.evalAll, Node.evalAll]
  cases operand.eval scope registry <;> rfl

/-- The negation of a call is the call of the other function with negated operands. -/
theorem eval_negated_logical (logic : registry.HasLogic) {operands : List Node}
    (some : operands ≠ []) :
    (Node.call "not" [.call (Logic.name decider) operands]).eval scope registry =
      (Node.call (Logic.name !decider)
        (operands.map fun operand => .call "not" [operand])).eval scope registry := by
  obtain ⟨before, node, after, rfl, passed, answers⟩ :=
    exists_first_or_last (fun operand => Stops decider (operand.eval scope registry)) some
  have stops (operand : Node) :
      Stops (!decider) ((Node.call "not" [operand]).eval scope registry) ↔
        Stops decider (operand.eval scope registry) := by
    rw [eval_negation logic, stops_map_negated_iff]
  rw [eval_negation logic, eval_logical_eq logic passed answers, List.map_append, List.map_cons,
    eval_logical_eq logic ?_ ?_, eval_negation logic]
  · intro operand member
    obtain ⟨original, among, rfl⟩ := List.mem_map.mp member
    rw [stops]
    exact passed original among
  · rw [stops, List.map_eq_nil_iff]
    exact answers

end

open Promptline.Expression (parse tokensOf)

/-- Short-circuit logic.  A call of "and" or "or" has the answer, value or failure, of the first
operand that fails or decides, whatever operands stand behind it, or of the last operand if there is
no such one.  An expression that is piped into such a call is its last operand, and plays no part if
another one decides.  Negating a call of the one function is calling the other one with negated
operands. -/
theorem logic_is_lazy {registry : Registry} (logic : registry.HasLogic) (scope : Scope)
    (decider : Bool) :
    (∀ operands : List Node, operands ≠ [] → ∃ before node after,
      operands = before ++ node :: after ∧
        (∀ operand ∈ before, ¬ Stops decider (operand.eval scope registry)) ∧
        (Stops decider (node.eval scope registry) ∨ after = []) ∧
        (Node.call (Logic.name decider) operands).eval scope registry =
          node.eval scope registry ∧
        (Stops decider (node.eval scope registry) → ∀ others : List Node,
          (Node.call (Logic.name decider) (before ++ node :: others)).eval scope registry =
            node.eval scope registry)) ∧
    (∀ {x f : String} {piped function : Expression} {first : Token} {rest : List Token},
      parse x = .ok piped → parse f = .ok function → tokensOf f = first :: rest →
      first.lexeme = .identifier (Logic.name decider) → Parser.Barless (tokensOf f) →
      ∃ operands, function.node = .call (Logic.name decider) operands ∧
        parse (x ++ " | " ++ f) =
          .ok ⟨Text.trim (x ++ " | " ++ f),
            .call (Logic.name decider) (operands ++ [piped.node])⟩ ∧
        ((∃ operand ∈ operands, Stops decider (operand.eval scope registry)) →
          (Node.call (Logic.name decider) (operands ++ [piped.node])).eval scope registry =
            function.node.eval scope registry)) ∧
    (∀ operands : List Node, operands ≠ [] →
      (Node.call "not" [.call (Logic.name decider) operands]).eval scope registry =
        (Node.call (Logic.name !decider)
          (operands.map fun operand => .call "not" [operand])).eval scope registry) := by
  refine ⟨fun operands some => ?_, ?_, fun operands some => eval_negated_logical logic some⟩
  · obtain ⟨before, node, after, rfl, passed, answers⟩ :=
      exists_first_or_last (fun operand => Stops decider (operand.eval scope registry)) some
    exact ⟨before, node, after, rfl, passed, answers, eval_logical_eq logic passed answers,
      fun stops others => eval_logical_eq logic passed (.inl stops)⟩
  · intro x f piped function first rest parsed alsoParsed starts named barless
    obtain ⟨operands, called, parses⟩ :=
      Expression.parse_pipe parsed alsoParsed starts named barless
    refine ⟨operands, called, parses, ?_⟩
    rintro ⟨deciding, member, decides⟩
    obtain ⟨before, node, after, rfl, passed, answers⟩ := exists_first_or_last
      (fun operand => Stops decider (operand.eval scope registry)) (List.ne_nil_of_mem member)
    have stops : Stops decider (node.eval scope registry) := by
      obtain stops | rfl := answers
      · exact stops
      · obtain early | last := List.mem_append.mp member
        · exact absurd decides (passed deciding early)
        · exact List.mem_singleton.mp last ▸ decides
    rw [called, List.append_assoc, List.cons_append, eval_logical_eq logic passed (.inl stops),
      eval_logical_eq logic passed (.inl stops)]

theorem failing_operands_are_not_reached :
    let registry := Registry.builtin.extend [("show", .joining (.atLeast 1))]
    let scope : Scope := ⟨.sample ⟨2024, 3, 9, 14, 5, 7, 0, none, false⟩, []⟩
    let broken : Node := .call "upper" [.literal (.int 5)]
    let operands : List Node := [.literal (.string "x"), broken, .literal .nil]
    registry.HasLogic ∧
      (∃ before node after, operands = before ++ node :: after ∧
        (Node.call "and" operands).eval scope registry = node.eval scope registry) ∧
      (Node.call "not" [.call "and" operands]).eval scope registry =
        (Node.call "or" (operands.map fun operand => .call "not" [operand])).eval
          scope registry ∧
      parse "upper 5 | or .Shell.Name" =
        .ok ⟨"upper 5 | or .Shell.Name", .call "or" [.path ["Shell", "Name"], broken]⟩ ∧
      (Node.call "or" [.path ["Shell", "Name"], broken]).eval scope registry =
        .ok (.string "bash") := by
  intro registry scope broken operands
  have logic : registry.HasLogic := by
    refine ⟨fun decider => ?_, rfl⟩
    cases decider <;> rfl
  obtain ⟨answers, -, negates⟩ := logic_is_lazy logic scope false
  obtain ⟨-, pipes, -⟩ := logic_is_lazy logic scope true
  refine ⟨logic, ?_, negates operands (by simp [operands]), ?_⟩
  · obtain ⟨before, node, after, split, -, -, same, -⟩ := answers operands (by simp [operands])
    exact ⟨before, node, after, split, same⟩
  · have parsed : parse "upper 5" = .ok ⟨"upper 5", broken⟩ := by cbv
    have alsoParsed : parse "or .Shell.Name" =
        .ok ⟨"or .Shell.Name", .call "or" [.path ["Shell", "Name"]]⟩ := by cbv
    have tokens : tokensOf "or .Shell.Name" =
        [⟨.identifier "or", "or".toList, 0⟩,
          ⟨.field ["Shell", "Name"], ".Shell.Name".toList, 3⟩] := by cbv
    have barless : Parser.Barless (tokensOf "or .Shell.Name") := by
      rw [tokens]
      decide
    obtain ⟨others, called, piped, reached⟩ := pipes parsed alsoParsed tokens rfl barless
    obtain ⟨-, rfl⟩ := Node.call.inj called
    have trimmed : Text.trim "upper 5 | or .Shell.Name" = "upper 5 | or .Shell.Name" := by
      decide +kernel
    refine ⟨trimmed ▸ piped, (reached ?_).trans rfl⟩
    exact ⟨.path ["Shell", "Name"], List.mem_singleton_self _, rfl⟩

end Node

end Promptline
