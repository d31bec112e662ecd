import Promptline.Context
import Promptline.Expression.Parser
import Promptline.Function.Registry

/-!
# Evaluating expressions

An expression is evaluated in a scope: the context, possibly with the fields of the segment that
is being resolved, which hide names of the context. Names that lead nowhere evaluate to nil.
-/

namespace Promptline

/-- The names that an expression sees. -/
structure Scope where
  /-- The root context. -/
  context : Context
  /-- Fields of the segment that is being resolved. -/
  fields : Entries Value := []

/-- Why an expression has no value. -/
inductive EvalFault
  /-- There is no function of that name. -/
  | undefined (function : String)
  /-- The function does not take that many operands. -/
  | wrongArity (function : String) (arity : Arity) (got : Nat)
  /-- The function rejects its operands. -/
  | failed (function : String) (fault : Fault)

namespace EvalFault

/-- Text of the problem. -/
def message : EvalFault → String
  | undefined function => "function " ++ Text.quoted function ++ " not defined"
  | wrongArity function arity got =>
      "wrong number of args for " ++ function ++ ": want " ++ arity.describe ++ " got " ++
        toString got
  | failed function fault => "error calling " ++ function ++ ": " ++ fault.message

/-- The fault of a function that is behind the problem, if there is one. -/
def cause? : EvalFault → Option Fault
  | failed _ fault => some fault
  | _ => none

end EvalFault

namespace Scope

/-- The value of a name: a segment field, or else what the context holds. -/
def lookup (scope : Scope) (name : String) : Value :=
  match Entries.get? name scope.fields with
  | some value => value
  | none => scope.context.lookup name

/-- The scope as a value: the segment fields if there are any, else the context. -/
def current (scope : Scope) : Value :=
  if scope.fields.isEmpty then .root else .map scope.fields

/-- One step along a path. -/
def member (scope : Scope) (value : Value) (name : String) : Value :=
  match value with
  | .record r => r.lookup name
  | .root => scope.context.lookup name
  | .environment e => .string (e.lookup name)
  | .map entries => (Entries.get? name entries).getD .missing
  | _ => .missing

/-- Follow names from a value; a path that leads nowhere ends in nil. -/
def walk (scope : Scope) (value : Value) : List String → Value
  | [] => value
  | name :: names =>
      match scope.member value name with
      | .missing => .nil
      | next => scope.walk next names

/-- The value of a path from the scope. -/
def path (scope : Scope) : List String → Value
  | [] => scope.current
  | name :: names =>
      match scope.lookup name with
      | .missing => .nil
      | value => scope.walk value names

end Scope

/-- The function of a call, if it takes that many operands. -/
def Registry.resolve (registry : Registry) (name : String) (count : Nat) :
    Except EvalFault Body :=
  match registry.get? name with
  | none => .error (.undefined name)
  | some f => if f.arity.accepts count then .ok f.body else .error (.wrongArity name f.arity count)

/-- What a name is resolved to is the body of a function of the registry. -/
theorem Registry.exists_of_resolve {registry : Registry} {name : String} {count : Nat} {body : Body}
    (found : registry.resolve name count = .ok body) :
    ∃ f, (name, f) ∈ registry.functions ∧ f.body = body := by
  rw [resolve] at found
  cases known : registry.get? name with
  | none => simp [known] at found
  | some f =>
      simp only [known] at found
      split at found
      · exact ⟨f, Entries.mem_of_get? known, Except.ok.inj found⟩
      · contradiction

mutual

/-- The value of an expression. -/
def Node.eval (scope : Scope) (registry : Registry) : Node → Except EvalFault Value
  | .literal value => .ok value.toValue
  | .path names => .ok (scope.path names)
  | .root names => .ok (scope.walk .root names)
  | .chain target names => do .ok (scope.walk (← target.eval scope registry) names)
  | .call name args =>
      match registry.resolve name args.length with
      | .error fault => .error fault
      | .ok (.eager apply) => do
          match apply (← Node.evalAll scope registry args) with
          | .ok value => .ok value
          | .error fault => .error (.failed name fault)
      | .ok (.shortCircuit decider) => Node.evalUntil scope registry decider .nil args

/-- The values of all operands, from left to right. -/
def Node.evalAll (scope : Scope) (registry : Registry) :
    List Node → Except EvalFault (List Value)
  | [] => .ok []
  | node :: nodes => do
      let value ← node.eval scope registry
      .ok (value :: (← Node.evalAll scope registry nodes))

/-- The value of the first operand with the deciding truth, or the last value. -/
def Node.evalUntil (scope : Scope) (registry : Registry) (decider : Bool) (last : Value) :
    List Node → Except EvalFault Value
  | [] => .ok last
  | node :: nodes => do
      let value ← node.eval scope registry
      if value.isTruthy = decider then .ok value
      else Node.evalUntil scope registry decider value nodes

end

/-- A problem of evaluation together with the expression that has it. -/
structure EvalError where
  /-- The problem. -/
  fault : EvalFault
  /-- The expression, without surrounding white space. -/
  expression : String

namespace Expression

/-- The value of an expression. -/
def eval (expression : Expression) (scope : Scope) (registry : Registry) :
    Except EvalError Value :=
  match expression.node.eval scope registry with
  | .ok value => .ok value
  | .error fault => .error ⟨fault, expression.source⟩

end Expression

end Promptline
