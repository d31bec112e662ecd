import Promptline.Function.Arithmetic
import Promptline.Function.Comparison
import Promptline.Function.Textual

/-!
# The function registry

Functions callable from templates, by name, with their arity. Most functions take values; the
logical ones take unevaluated operands and stop at the deciding one.
-/

namespace Promptline

/-- What a function does with its operands. -/
inductive Body
  /-- Evaluate all operands and compute a result from their values. -/
  | eager (apply : List Value → Except Fault Value)
  /-- Evaluate operands from the left and stop at the first one whose truth is `decider`; the
  result is the last value evaluated. -/
  | shortCircuit (decider : Bool)

/-- Numbers of operands that a function takes. -/
structure Arity where
  /-- Least number of operands. -/
  least : Nat
  /-- Greatest number of operands, if there is one. -/
  most : Option Nat
  deriving DecidableEq, Repr

namespace Arity

/-- Exactly `n` operands. -/
def exactly (n : Nat) : Arity := ⟨n, some n⟩

/-- At least `n` operands. -/
def atLeast (n : Nat) : Arity := ⟨n, none⟩

/-- Whether a number of operands is accepted. -/
def accepts (arity : Arity) (count : Nat) : Bool :=
  arity.least ≤ count && (arity.most.map fun most => decide (count ≤ most)).getD true

/-- How messages describe the arity. -/
def describe (arity : Arity) : String :=
  match arity.most with
  | none => "at least " ++ toString arity.least
  | some most =>
      if most = arity.least then toString arity.least
      else toString arity.least ++ " to " ++ toString most

/-- A parameter of a host function. -/
inductive Parameter
  /-- A positional parameter, possibly with a default. -/
  | positional (optional : Bool)
  /-- The parameter that takes all remaining operands. -/
  | rest
  /-- A parameter that templates cannot reach. -/
  | named
  deriving DecidableEq, Repr

/-- The arity of a host function with the given parameters. -/
def ofParameters (parameters : List Parameter) : Arity where
  least := parameters.count (.positional false)
  most :=
    if parameters.contains .rest then none
    else some (parameters.countP fun | .positional _ => true | _ => false)

end Arity

/-- A function callable from templates. -/
structure Function where
  /-- What it does. -/
  body : Body
  /-- How many operands it takes. -/
  arity : Arity

namespace Function

/-- A function of exactly one value. -/
def unary (f : Value → Except Fault Value) : Function where
  arity := .exactly 1
  body := .eager fun
    | [a] => f a
    | _ => .ok .nil

/-- A function of exactly two values. -/
def binary (f : Value → Value → Except Fault Value) : Function where
  arity := .exactly 2
  body := .eager fun
    | [a, b] => f a b
    | _ => .ok .nil

/-- A function of exactly three values. -/
def ternary (f : Value → Value → Value → Except Fault Value) : Function where
  arity := .exactly 3
  body := .eager fun
    | [a, b, c] => f a b c
    | _ => .ok .nil

/-- A test of exactly two values. -/
def test (f : Value → Value → Except Fault Bool) : Function :=
  binary fun a b => do .ok (.bool (← f a b))

/-- Equality with one of several values. -/
def equality : Function where
  arity := .atLeast 2
  body := .eager fun
    | first :: others => do .ok (.bool (← Comparison.eqAny first others))
    | [] => .ok (.bool false)

/-- A logical function that stops at the first operand whose truth is `decider`. -/
def logical (decider : Bool) : Function where
  arity := .atLeast 1
  body := .shortCircuit decider

/-- The host function that shows its operands with bars between them. -/
def joining (arity : Arity) : Function where
  arity := arity
  body := .eager fun values =>
    match values.mapM Value.text with
    | .ok texts => .ok (.string (String.intercalate "|" texts))
    | .error limit => .error (.tooLong limit)

/-- Whether the function takes its operands unevaluated. -/
def isLazy (f : Function) : Bool :=
  match f.body with
  | .eager _ => false
  | .shortCircuit _ => true

end Function

/-- Functions by name. -/
structure Registry where
  /-- The functions, built-in ones first. -/
  functions : Entries Function

namespace Registry

/-- The function with a name. -/
def get? (name : String) (registry : Registry) : Option Function :=
  Entries.get? name registry.functions

/-- Add functions; one with a name already taken replaces the old one. -/
def extend (registry : Registry) (extra : Entries Function) : Registry :=
  ⟨Entries.overlay registry.functions extra⟩

/-- The built-in functions. -/
def builtin : Registry where
  functions := [
    ("round", .binary Arithmetic.round),
    ("div", .binary Arithmetic.div),
    ("sub", .binary Arithmetic.sub),
    ("add", .binary Arithmetic.add),
    ("mul", .binary Arithmetic.mul),
    ("mod", .binary Arithmetic.mod),
    ("float64", .unary Arithmetic.float64),
    ("int", .unary Arithmetic.int),
    ("eq", .equality),
    ("ne", .test Comparison.ne),
    ("lt", .test Comparison.lt),
    ("le", .test Comparison.le),
    ("gt", .test Comparison.gt),
    ("ge", .test Comparison.ge),
    ("and", .logical false),
    ("or", .logical true),
    ("not", .unary fun x => .ok (.bool (!x.isTruthy))),
    ("len", .unary Textual.len),
    ("lower", .unary Textual.lower),
    ("upper", .unary Textual.upper),
    ("trim", .unary Textual.trim),
    ("replace", .ternary Textual.replace),
    ("contains", .binary Textual.contains),
    ("default", .binary fun fallback value => .ok (Textual.default fallback value))]

end Registry

end Promptline
