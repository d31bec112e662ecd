import Promptline.Function.Operand

/-!
# Comparison functions

Values compare within one kind: truth values, numbers, or texts. Nil and missing values compare
as the zero of the other operand's kind. Integers and doubles compare exactly, and texts by
code points.
-/

namespace Promptline.Comparison

/-- A pair of operands of one kind. -/
inductive Pair
  /-- Two truth values. -/
  | bools (a b : Bool)
  /-- Two numbers. -/
  | numbers (a b : Numeric)
  /-- Two texts. -/
  | texts (a b : String)

/-- Bring two operands to one kind. -/
def pair (function : String) (a b : Value) : Except Fault Pair :=
  match a.orNil, b.orNil with
  | .nil, .nil => .ok (.numbers (.int 0) (.int 0))
  | .nil, .bool y => .ok (.bools false y)
  | .nil, .int y => .ok (.numbers (.int 0) (.int y))
  | .nil, .float y => .ok (.numbers (.int 0) (.float y))
  | .nil, .string y => .ok (.texts "" y)
  | .bool x, .nil => .ok (.bools x false)
  | .int x, .nil => .ok (.numbers (.int x) (.int 0))
  | .float x, .nil => .ok (.numbers (.float x) (.int 0))
  | .string x, .nil => .ok (.texts x "")
  | .bool x, .bool y => .ok (.bools x y)
  | .int x, .int y => .ok (.numbers (.int x) (.int y))
  | .int x, .float y => .ok (.numbers (.int x) (.float y))
  | .float x, .int y => .ok (.numbers (.float x) (.int y))
  | .float x, .float y => .ok (.numbers (.float x) (.float y))
  | .string x, .string y => .ok (.texts x y)
  | x, y => .error (.incomparable function x.typeName y.typeName)

/-- How two numbers lie to each other, unless one of them is NaN. -/
def compareNumbers (a b : Numeric) : Option Ordering :=
  match a.place?, b.place? with
  | some x, some y => some (x.compare y)
  | _, _ => none

/-- The order of texts by code points. -/
def compareTexts (a b : String) : Ordering :=
  if a = b then .eq else if a < b then .lt else .gt

/-- Whether the two operands of a pair are equal. -/
def Pair.same : Pair → Bool
  | bools a b => a == b
  | numbers a b => compareNumbers a b == some .eq
  | texts a b => a == b

/-- How the operands of a pair lie to each other; truth values have no order. -/
def Pair.order (function : String) : Pair → Except Fault (Option Ordering)
  | bools _ _ => .error (.unordered function)
  | numbers a b => .ok (compareNumbers a b)
  | texts a b => .ok (some (compareTexts a b))

/-- Whether two values are equal. -/
def same (function : String) (a b : Value) : Except Fault Bool := do
  .ok (← pair function a b).same

/-- Whether the first value equals one of the others; those after the first match are not
looked at. -/
def eqAny (first : Value) : List Value → Except Fault Bool
  | [] => .ok false
  | other :: others => do
      if ← same "eq" first other then .ok true else eqAny first others

/-- Whether two values differ. -/
def ne (a b : Value) : Except Fault Bool := do
  .ok (!(← same "ne" a b))

/-- Whether the order of two values is one of those asked for. -/
def ordered (function : String) (wanted : Ordering → Bool) (a b : Value) :
    Except Fault Bool := do
  .ok (((← (← pair function a b).order function).map wanted).getD false)

/-- Less. -/
def lt : Value → Value → Except Fault Bool :=
  ordered "lt" (· == .lt)

/-- Less or equal. -/
def le : Value → Value → Except Fault Bool :=
  ordered "le" (· != .gt)

/-- Greater. -/
def gt : Value → Value → Except Fault Bool :=
  ordered "gt" (· == .gt)

/-- Greater or equal. -/
def ge : Value → Value → Except Fault Bool :=
  ordered "ge" (· != .lt)

end Promptline.Comparison
