import Promptline.Proofs.Answer
import Promptline.Proofs.Evaluation.Paths

/-!
# The missing value stays inside lookups

A lookup that finds nothing answers with the missing value, and fields of a segment may hold it at
any depth.  Every path turns it into nil before it goes on or ends, and no built-in function makes
one.  So no expression has it as its value, and no function ever gets to see it.
-/

namespace Promptline

/-! ## Answers -/

/-- An answer that is a failure or a value other than the missing one. -/
def Present {ε : Type} (answer : Except ε Value) : Prop :=
  ∀ value, answer = .ok value → value ≠ .missing

section Present

variable {ε α : Type}

theorem present_ok {value : Value} (present : value ≠ .missing) :
    Present (.ok value : Except ε Value) := by
  intro other same
  obtain rfl := Except.ok.inj same
  exact present

theorem present_error (fault : ε) : Present (.error fault) :=
  fun _ impossible => nomatch impossible

/-- What comes before the last step of a computation does not matter. -/
theorem Present.bind {first : Except ε α} {next : α → Except ε Value}
    (later : ∀ a, first = .ok a → Present (next a)) : Present (first >>= next) := by
  cases first with
  | error fault => exact present_error fault
  | ok a => exact later a rfl

end Present

/-! ## Functions -/

/-- A function that makes no missing value: it gives one only if it is given one. -/
def Body.Sealed : Body → Prop
  | .eager apply => ∀ values, .missing ∉ values → Present (apply values)
  | .shortCircuit _ => True

namespace Arithmetic

theorem present_combine (function : String) (ofInts : Int → Int → Int)
    (ofFloats : Float → Float → Float) (a b : Value) :
    Present (combine function ofInts ofFloats a b) := by
  refine .bind fun x _ => .bind fun y _ => ?_
  split
  · exact present_ok Value.noConfusion
  · exact .bind fun _ _ => .bind fun _ _ => present_ok Value.noConfusion

theorem present_div (a b : Value) : Present (div a b) :=
  .bind fun _ _ => .bind fun _ _ => present_ok Value.noConfusion

theorem present_mod (a b : Value) : Present (mod a b) := by
  refine .bind fun _ _ => .bind fun divisor _ => ?_
  by_cases zero : divisor = 0
  · rw [if_pos zero]
    exact present_error _
  · rw [if_neg zero]
    exact present_ok Value.noConfusion

theorem present_round (a b : Value) : Present (round a b) :=
  .bind fun _ _ => .bind fun _ _ => .bind fun _ _ => present_ok Value.noConfusion

theorem present_float64 (a : Value) : Present (float64 a) := by
  unfold float64
  split <;> exact .bind fun _ _ => present_ok Value.noConfusion

theorem present_int (a : Value) : Present (int a) := by
  unfold int
  split
  · split
    · exact present_ok Value.noConfusion
    · exact .bind fun _ _ => .bind fun _ _ => present_ok Value.noConfusion
  · refine .bind fun number _ => ?_
    cases number with
    | int n => exact present_ok Value.noConfusion
    | float x => exact .bind fun _ _ => present_ok Value.noConfusion

end Arithmetic

namespace Textual

theorem present_len (value : Value) : Present (len value) := by
  unfold len
  split
  all_goals first
    | exact present_ok Value.noConfusion
    | exact present_error _

theorem present_replace (old new s : Value) : Present (replace old new s) :=
  .bind fun _ _ => .bind fun _ _ => .bind fun _ _ => present_ok Value.noConfusion

theorem present_contains (part s : Value) : Present (contains part s) :=
  .bind fun _ _ => .bind fun _ _ => present_ok Value.noConfusion

/-- The only built-in function that hands an operand on. -/
theorem default_ne_missing {fallback value : Value} (fallback_present : fallback ≠ .missing)
    (value_present : value ≠ .missing) : default fallback value ≠ .missing := by
  rw [default]
  split
  · exact value_present
  · exact fallback_present

end Textual

namespace Function

theorem sealed_unary {f : Value → Except Fault Value} (present : ∀ a, Present (f a)) :
    (unary f).body.Sealed := by
  intro values _
  match values with
  | [a] => exact present a
  | [] => exact present_ok Value.noConfusion
  | _ :: _ :: _ => exact present_ok Value.noConfusion

theorem sealed_binary {f : Value → Value → Except Fault Value}
    (present : ∀ a b, a ≠ .missing → b ≠ .missing → Present (f a b)) :
    (binary f).body.Sealed := by
  intro values given
  match values with
  | [a, b] =>
      simp only [List.mem_cons, List.not_mem_nil, or_false, not_or] at given
      exact present a b (Ne.symm given.1) (Ne.symm given.2)
  | [] => exact present_ok Value.noConfusion
  | [_] => exact present_ok Value.noConfusion
  | _ :: _ :: _ :: _ => exact present_ok Value.noConfusion

theorem sealed_ternary {f : Value → Value → Value → Except Fault Value}
    (present : ∀ a b c, Present (f a b c)) : (ternary f).body.Sealed := by
  intro values _
  match values with
  | [a, b, c] => exact present a b c
  | [] => exact present_ok Value.noConfusion
  | [_] => exact present_ok Value.noConfusion
  | [_, _] => exact present_ok Value.noConfusion
  | _ :: _ :: _ :: _ :: _ => exact present_ok Value.noConfusion

theorem sealed_test (f : Value → Value → Except Fault Bool) : (test f).body.Sealed :=
  sealed_binary fun _ _ _ _ => .bind fun _ _ => present_ok Value.noConfusion

theorem sealed_equality : equality.body.Sealed := by
  intro values _
  cases values with
  | nil => exact present_ok Value.noConfusion
  | cons first others => exact .bind fun _ _ => present_ok Value.noConfusion

end Function

namespace Registry

/-- No function of the registry makes a missing value. -/
def Sealed (registry : Registry) : Prop :=
  ∀ entry ∈ registry.functions, entry.2.body.Sealed

theorem builtin_sealed : builtin.Sealed := by
  simp only [Sealed, builtin, List.forall_mem_cons]
  exact ⟨Function.sealed_binary fun a b _ _ => Arithmetic.present_round a b,
    Function.sealed_binary fun a b _ _ => Arithmetic.present_div a b,
    Function.sealed_binary fun a b _ _ => Arithmetic.present_combine "sub" _ _ a b,
    Function.sealed_binary fun a b _ _ => Arithmetic.present_combine "add" _ _ a b,
    Function.sealed_binary fun a b _ _ => Arithmetic.present_combine "mul" _ _ a b,
    Function.sealed_binary fun a b _ _ => Arithmetic.present_mod a b,
    Function.sealed_unary Arithmetic.present_float64,
    Function.sealed_unary Arithmetic.present_int,
    Function.sealed_equality,
    Function.sealed_test _,
    Function.sealed_test _,
    Function.sealed_test _,
    Function.sealed_test _,
    Function.sealed_test _,
    trivial,
    trivial,
    Function.sealed_unary fun _ => present_ok Value.noConfusion,
    Function.sealed_unary Textual.present_len,
    Function.sealed_unary fun _ => .bind fun _ _ => present_ok Value.noConfusion,
    Function.sealed_unary fun _ => .bind fun _ _ => present_ok Value.noConfusion,
    Function.sealed_unary fun _ => .bind fun _ _ => present_ok Value.noConfusion,
    Function.sealed_ternary Textual.present_replace,
    Function.sealed_binary fun a b _ _ => Textual.present_contains a b,
    Function.sealed_binary fun _ _ first second =>
      present_ok (Textual.default_ne_missing first second),
    fun _ absent => absurd absent List.not_mem_nil⟩

theorem Sealed.resolve {registry : Registry} (closed : registry.Sealed) {name : String}
    {count : Nat} {body : Body} (found : registry.resolve name count = .ok body) :
    body.Sealed := by
  obtain ⟨f, member, rfl⟩ := exists_of_resolve found
  exact closed (name, f) member

end Registry

/-! ## Values of expressions -/

theorem Literal.toValue_ne_missing (literal : Literal) : literal.toValue ≠ .missing := by
  cases literal <;> exact Value.noConfusion

mutual

/-- No expression has the missing value.  A path does not end in it, a constant is not it, and a
function that is given none makes none. -/
theorem Node.present_eval (scope : Scope) {registry : Registry} (closed : registry.Sealed)
    (node : Node) : Present (node.eval scope registry) := by
  cases node with
  | literal value => exact present_ok value.toValue_ne_missing
  | path names => exact present_ok (scope.path_ne_missing names)
  | root names => exact present_ok (scope.walk_ne_missing Value.noConfusion names)
  | chain target names =>
      rw [Node.eval]
      refine .bind fun value evaluates => present_ok ?_
      exact scope.walk_ne_missing (Node.present_eval scope closed target value evaluates) names
  | call name args =>
      rw [Node.eval]
      cases found : registry.resolve name args.length with
      | error fault => exact present_error fault
      | ok body =>
          cases body with
          | shortCircuit decider =>
              exact Node.present_evalUntil scope closed decider Value.noConfusion args
          | eager apply =>
              refine .bind fun values evaluate => ?_
              have given := Node.missing_not_mem_evalAll scope closed args evaluate
              have present := closed.resolve found values given
              cases applied : apply values with
              | error fault => exact present_error _
              | ok value => exact present_ok (present value applied)

theorem Node.missing_not_mem_evalAll (scope : Scope) {registry : Registry}
    (closed : registry.Sealed) (nodes : List Node) {values : List Value}
    (evaluate : Node.evalAll scope registry nodes = .ok values) : .missing ∉ values := by
  cases nodes with
  | nil =>
      rw [Node.evalAll] at evaluate
      obtain rfl := Except.ok.inj evaluate
      exact List.not_mem_nil
  | cons node nodes =>
      rw [Node.evalAll] at evaluate
      obtain ⟨value, first, continues⟩ := bind_eq_ok_iff.mp evaluate
      obtain ⟨later, others, same⟩ := bind_eq_ok_iff.mp continues
      obtain rfl := Except.ok.inj same
      have present := Node.present_eval scope closed node value first
      exact List.not_mem_cons_of_ne_of_not_mem (Ne.symm present)
        (Node.missing_not_mem_evalAll scope closed nodes others)

theorem Node.present_evalUntil (scope : Scope) {registry : Registry} (closed : registry.Sealed)
    (decider : Bool) {last : Value} (present : last ≠ .missing)
    (nodes : List Node) : Present (Node.evalUntil scope registry decider last nodes) := by
  cases nodes with
  | nil => exact present_ok present
  | cons node nodes =>
      rw [Node.evalUntil]
      refine .bind fun value evaluates => ?_
      have also := Node.present_eval scope closed node value evaluates
      split
      · exact present_ok also
      · exact Node.present_evalUntil scope closed decider also nodes

end

/-! ## What functions are given -/

/-- Operand values that a function is given at once. -/
structure Handover where
  /-- Name of the function. -/
  function : String
  /-- The values. -/
  values : List Value

mutual

/-- What functions are given while an expression is evaluated, in order: a function that takes
values gets those of all its operands together, and a logical one gets one after the other, as far
as it asks for them. -/
def Node.handovers (scope : Scope) (registry : Registry) : Node → List Handover
  | .chain target _ => target.handovers scope registry
  | .call name args =>
      match registry.resolve name args.length with
      | .error _ => []
      | .ok (.eager _) =>
          Node.handoversAll scope registry args ++
            match Node.evalAll scope registry args with
            | .ok values => [⟨name, values⟩]
            | .error _ => []
      | .ok (.shortCircuit decider) => Node.handoversUntil scope registry name decider args
  | _ => []

/-- What functions are given while all operands are evaluated, up to the first one that fails. -/
def Node.handoversAll (scope : Scope) (registry : Registry) : List Node → List Handover
  | [] => []
  | node :: nodes =>
      node.handovers scope registry ++
        match node.eval scope registry with
        | .ok _ => Node.handoversAll scope registry nodes
        | .error _ => []

/-- What functions are given while a logical function asks for its operands, and what it is given
itself. -/
def Node.handoversUntil (scope : Scope) (registry : Registry) (name : String) (decider : Bool) :
    List Node → List Handover
  | [] => []
  | node :: nodes =>
      node.handovers scope registry ++
        match node.eval scope registry with
        | .ok value =>
            ⟨name, [value]⟩ ::
              if value.isTruthy = decider then []
              else Node.handoversUntil scope registry name decider nodes
        | .error _ => []

end

mutual

/-- No function is given the missing value. -/
theorem Node.given_of_mem_handovers (scope : Scope) {registry : Registry} (closed : registry.Sealed)
    (node : Node) {handover : Handover}
    (member : handover ∈ node.handovers scope registry) : .missing ∉ handover.values := by
  cases node with
  | literal value => cases member
  | path names => cases member
  | root names => cases member
  | chain target names =>
      rw [Node.handovers] at member
      exact Node.given_of_mem_handovers scope closed target member
  | call name args =>
      rw [Node.handovers] at member
      split at member
      · cases member
      · rcases List.mem_append.mp member with inside | own
        · exact Node.given_of_mem_handoversAll scope closed args inside
        · split at own
          · next values evaluate =>
              obtain rfl := List.mem_singleton.mp own
              exact Node.missing_not_mem_evalAll scope closed args evaluate
          · cases own
      · exact Node.given_of_mem_handoversUntil scope closed args member

theorem Node.given_of_mem_handoversAll (scope : Scope) {registry : Registry}
    (closed : registry.Sealed) (nodes : List Node) {handover : Handover}
    (member : handover ∈ Node.handoversAll scope registry nodes) : .missing ∉ handover.values := by
  cases nodes with
  | nil => cases member
  | cons node nodes =>
      rw [Node.handoversAll] at member
      rcases List.mem_append.mp member with inside | later
      · exact Node.given_of_mem_handovers scope closed node inside
      · split at later
        · exact Node.given_of_mem_handoversAll scope closed nodes later
        · cases later

theorem Node.given_of_mem_handoversUntil (scope : Scope) {registry : Registry}
    (closed : registry.Sealed) {name : String} {decider : Bool} (nodes : List Node)
    {handover : Handover}
    (member : handover ∈ Node.handoversUntil scope registry name decider nodes) :
    .missing ∉ handover.values := by
  cases nodes with
  | nil => cases member
  | cons node nodes =>
      rw [Node.handoversUntil] at member
      rcases List.mem_append.mp member with inside | later
      · exact Node.given_of_mem_handovers scope closed node inside
      · split at later
        · next value evaluates =>
            rcases List.mem_cons.mp later with rfl | behind
            · have present := Node.present_eval scope closed node value evaluates
              simpa using Ne.symm present
            · split at behind
              · cases behind
              · exact Node.given_of_mem_handoversUntil scope closed nodes behind
        · cases later

end

/-! ## Functions matter only by what they are given -/

/-- What two registries have for a name: the same fault, or functions that take their operands in
the same way and give the same for operand values with a property. -/
inductive AgreeGiven (given : List Value → Prop) :
    Except EvalFault Body → Except EvalFault Body → Prop
  /-- No function takes that many operands. -/
  | fault (fault : EvalFault) : AgreeGiven given (.error fault) (.error fault)
  /-- Functions of values. -/
  | eager {apply other : List Value → Except Fault Value}
      (same : ∀ values, given values → apply values = other values) :
      AgreeGiven given (.ok (.eager apply)) (.ok (.eager other))
  /-- Logical functions. -/
  | shortCircuit (decider : Bool) :
      AgreeGiven given (.ok (.shortCircuit decider)) (.ok (.shortCircuit decider))

theorem AgreeGiven.refl (given : List Value → Prop) (answer : Except EvalFault Body) :
    AgreeGiven given answer answer := by
  match answer with
  | .error problem => exact .fault problem
  | .ok (.eager apply) => exact .eager fun _ _ => rfl
  | .ok (.shortCircuit truth) => exact .shortCircuit truth

section AgreeGiven

variable {registry other : Registry} {given : String → List Value → Prop}

mutual

/-- Functions that agree on all that they are given lead to the same value. -/
theorem Node.eval_eq_of_agree (scope : Scope)
    (agree : ∀ name count,
      AgreeGiven (given name) (registry.resolve name count) (other.resolve name count))
    (node : Node)
    (inside : ∀ handover ∈ node.handovers scope registry,
      given handover.function handover.values) :
    node.eval scope other = node.eval scope registry := by
  cases node with
  | literal value => rw [Node.eval, Node.eval]
  | path names => rw [Node.eval, Node.eval]
  | root names => rw [Node.eval, Node.eval]
  | chain target names =>
      rw [Node.handovers] at inside
      rw [Node.eval, Node.eval, Node.eval_eq_of_agree scope agree target inside]
  | call name args =>
      have answers := agree name args.length
      rw [Node.handovers] at inside
      rw [Node.eval, Node.eval]
      generalize registry.resolve name args.length = here at *
      generalize other.resolve name args.length = there at *
      cases answers with
      | fault fault => rfl
      | shortCircuit decider =>
          exact Node.evalUntil_eq_of_agree scope agree name decider .nil args inside
      | eager same =>
          obtain ⟨operands, own⟩ := List.forall_mem_append.mp inside
          simp only
          rw [Node.evalAll_eq_of_agree scope agree args operands]
          cases evaluate : Node.evalAll scope registry args with
          | error fault => rfl
          | ok values =>
              rw [evaluate] at own
              have handed := own ⟨name, values⟩ (List.mem_singleton_self _)
              simp only [bind, Except.bind, same values handed]

theorem Node.evalAll_eq_of_agree (scope : Scope)
    (agree : ∀ name count,
      AgreeGiven (given name) (registry.resolve name count) (other.resolve name count))
    (nodes : List Node)
    (inside : ∀ handover ∈ Node.handoversAll scope registry nodes,
      given handover.function handover.values) :
    Node.evalAll scope other nodes = Node.evalAll scope registry nodes := by
  cases nodes with
  | nil => rw [Node.evalAll, Node.evalAll]
  | cons node nodes =>
      rw [Node.handoversAll] at inside
      obtain ⟨first, later⟩ := List.forall_mem_append.mp inside
      rw [Node.evalAll, Node.evalAll, Node.eval_eq_of_agree scope agree node first]
      cases evaluates : node.eval scope registry with
      | error fault => rfl
      | ok value =>
          rw [evaluates] at later
          rw [Node.evalAll_eq_of_agree scope agree nodes later]

theorem Node.evalUntil_eq_of_agree (scope : Scope)
    (agree : ∀ name count,
      AgreeGiven (given name) (registry.resolve name count) (other.resolve name count))
    (name : String) (decider : Bool) (last : Value) (nodes : List Node)
    (inside : ∀ handover ∈ Node.handoversUntil scope registry name decider nodes,
      given handover.function handover.values) :
    Node.evalUntil scope other decider last nodes =
      Node.evalUntil scope registry decider last nodes := by
  cases nodes with
  | nil => rw [Node.evalUntil, Node.evalUntil]
  | cons node nodes =>
      rw [Node.handoversUntil] at inside
      obtain ⟨first, later⟩ := List.forall_mem_append.mp inside
      rw [Node.evalUntil, Node.evalUntil, Node.eval_eq_of_agree scope agree node first]
      cases evaluates : node.eval scope registry with
      | error fault => rfl
      | ok value =>
          rw [evaluates] at later
          obtain ⟨-, behind⟩ := List.forall_mem_cons.mp later
          simp only [bind, Except.bind]
          split
          · rfl
          · next passes =>
              rw [if_neg passes] at behind
              exact Node.evalUntil_eq_of_agree scope agree name decider value nodes behind

end

end AgreeGiven

/-- The missing value never gets out of lookups, whatever the fields of the segment hold.  No
expression has it as its value, and no built-in function is given it, neither with its operands nor
by an operand that it asks for.  So it makes no difference what functions would do with it. -/
theorem Expression.missing_never_escapes (expression : Expression) (scope : Scope) :
    (∀ value, expression.eval scope .builtin = .ok value → value ≠ .missing) ∧
    (∀ handover ∈ expression.node.handovers scope .builtin, .missing ∉ handover.values) ∧
    ∀ other : Registry,
      (∀ name count, AgreeGiven (.missing ∉ ·) (Registry.builtin.resolve name count)
        (other.resolve name count)) →
      expression.eval scope other = expression.eval scope .builtin := by
  have given := fun handover (member : handover ∈ expression.node.handovers scope .builtin) =>
    Node.given_of_mem_handovers scope Registry.builtin_sealed expression.node member
  refine ⟨fun value evaluates => ?_, given, fun other agree => ?_⟩
  · rw [Expression.eval] at evaluates
    split at evaluates
    · next answer =>
        obtain rfl := Except.ok.inj evaluates
        exact Node.present_eval scope Registry.builtin_sealed expression.node _ answer
    · contradiction
  · rw [Expression.eval, Expression.eval, Node.eval_eq_of_agree scope agree expression.node given]

/-- A segment with a missing field and one deeper in another field. -/
theorem Expression.missing_fields_do_not_escape :
    let scope : Scope := ⟨.sample ⟨2024, 3, 9, 14, 5, 7, 0, none, false⟩,
      [("Gone", .missing), ("Deep", .map [("Lost", .missing)])]⟩
    let expression : Expression := ⟨"default .Gone (or .Deep.Lost .Gone)",
      .call "default" [.path ["Gone"], .call "or" [.path ["Deep", "Lost"], .path ["Gone"]]]⟩
    let careful : Function := .binary fun fallback value =>
      match value with
      | .missing => .error .zeroDivisor
      | _ => .ok (Textual.default fallback value)
    expression.eval scope .builtin = .ok .nil ∧ Value.nil ≠ .missing ∧
      expression.node.handovers scope .builtin =
        [⟨"or", [.nil]⟩, ⟨"or", [.nil]⟩, ⟨"default", [.nil, .nil]⟩] ∧
      (∀ handover ∈ expression.node.handovers scope .builtin, .missing ∉ handover.values) ∧
      expression.eval scope (Registry.builtin.extend [("default", careful)]) =
        expression.eval scope .builtin := by
  intro scope expression careful
  obtain ⟨escapes, given, blind⟩ := expression.missing_never_escapes scope
  have evaluates : expression.eval scope .builtin = .ok .nil := rfl
  refine ⟨evaluates, escapes _ evaluates, rfl, given, blind _ fun name count => ?_⟩
  by_cases replaced : name = "default"
  · subst replaced
    have known : (Registry.builtin.extend [("default", careful)]).get? "default" = some careful :=
      Entries.get?_insert_self _ _ _
    have original : Registry.builtin.get? "default" =
        some (.binary fun fallback value => .ok (Textual.default fallback value)) := rfl
    rw [Registry.resolve, Registry.resolve, known, original]
    by_cases accepted : (Arity.exactly 2).accepts count = true
    · simp only [careful, Function.binary, accepted, if_true]
      refine .eager fun values free => ?_
      split
      · next fallback value =>
          cases value with
          | missing => simp at free
          | _ => rfl
      · rfl
    · simp only [careful, Function.binary, accepted]
      exact .fault _
  · have same : (Registry.builtin.extend [("default", careful)]).get? name =
        Registry.builtin.get? name := Entries.get?_insert_of_ne _ _ replaced
    rw [Registry.resolve, Registry.resolve, same]
    exact .refl _ _

end Promptline
