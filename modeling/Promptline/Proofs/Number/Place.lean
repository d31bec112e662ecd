import Mathlib.Algebra.Order.Field.Rat
import Mathlib.Order.Compare
import Mathlib.Order.WithBot
import Mathlib.Tactic.Ring
import Mathlib.Tactic.Positivity
import Promptline.Function.Operand

/-!
# The values of numbers

Every finite double has an exact rational value, as has every integer, and infinities lie below and
above all of them.  The order that is computed on whole units is the order of these values, so
integers and doubles of any size compare exactly.
-/

namespace Promptline

namespace Number

theorem cast_pow (base exponent : Nat) : (Nat.pow base exponent : ℚ) = base ^ exponent := by
  rw [Nat.pow_eq, Nat.cast_pow]

theorem cast_unitsPerOne : (unitsPerOne : ℚ) = 2 ^ unitShift := by
  delta unitsPerOne
  rw [cast_pow, Nat.cast_two]

/-- A rational number or an infinity. -/
abbrev Extended : Type := WithBot (WithTop ℚ)

/-- The exact value of a finite double. -/
def Double.value (d : Double) : ℚ :=
  (if d.negative then -1 else 1) * d.mantissa * 2 ^ ((d.shift : ℤ) - unitShift)

theorem Double.units_eq (d : Double) : (d.units : ℚ) = d.value * 2 ^ unitShift := by
  have scale : (2 : ℚ) ^ ((d.shift : ℤ) - unitShift) * 2 ^ unitShift = 2 ^ d.shift := by
    rw [← zpow_natCast, ← zpow_add₀ two_ne_zero, sub_add_cancel, zpow_natCast]
  have size : (d.magnitude : ℚ) = d.mantissa * 2 ^ d.shift := by
    rw [magnitude, Nat.cast_mul, cast_pow, Nat.cast_two]
  rw [value, mul_assoc, scale, units]
  split
  · rw [Int.cast_neg, Int.cast_natCast, size]
    ring
  · rw [Int.cast_natCast, size, one_mul]

namespace Place

/-- Where a place lies among the rational numbers. -/
def position : Place → Extended
  | below => ⊥
  | .at units => ((units / 2 ^ unitShift : ℚ) : WithTop ℚ)
  | above => (⊤ : WithTop ℚ)

/-- Places are compared like the numbers that lie there. -/
theorem compare_eq_cmp (p q : Place) : p.compare q = cmp p.position q.position := by
  have finite (units : Int) : ((units / 2 ^ unitShift : ℚ) : WithTop ℚ) < ⊤ := WithTop.coe_lt_top _
  cases p with
  | below =>
      cases q with
      | below => exact (cmp_self_eq_eq _).symm
      | _ => exact (WithBot.bot_lt_coe _).cmp_eq_lt.symm
  | «at» m =>
      cases q with
      | below => exact (WithBot.bot_lt_coe _).cmp_eq_gt.symm
      | «at» n =>
          rw [position, position, compare, ← cmp_eq_compare]
          have scale : (0 : ℚ) < 2 ^ unitShift := by positivity
          refine (StrictMono.cmp_map_eq (f := fun units : Int => position (.at units)) ?_ m n).symm
          intro m n less
          refine WithBot.coe_lt_coe.mpr (WithTop.coe_lt_coe.mpr ?_)
          exact (div_lt_div_iff_of_pos_right scale).mpr (by exact_mod_cast less)
      | above => exact (WithBot.coe_lt_coe.mpr (finite m)).cmp_eq_lt.symm
  | above =>
      cases q with
      | below => exact (WithBot.bot_lt_coe _).cmp_eq_gt.symm
      | «at» n => exact (WithBot.coe_lt_coe.mpr (finite n)).cmp_eq_gt.symm
      | above => exact (cmp_self_eq_eq _).symm

end Place

/-- The value of a double, unless it is NaN. -/
def extended? (x : Float) : Option Extended :=
  match Double.ofFloat? x with
  | some d => some ((d.value : WithTop ℚ) : Extended)
  | none => if x.isNaN then none else some (if x < 0 then ⊥ else ⊤)

end Number

namespace Numeric

/-- The value of a number, unless it is NaN. -/
def extended? : Numeric → Option Number.Extended
  | int n => some ((n : ℚ) : WithTop ℚ)
  | float x => Number.extended? x

theorem position_place? (number : Numeric) :
    number.place?.map Number.Place.position = number.extended? := by
  have scale : (2 : ℚ) ^ Number.unitShift ≠ 0 := by positivity
  cases number with
  | int n =>
      have value : ((n * Number.unitsPerOne : Int) : ℚ) / 2 ^ Number.unitShift = n := by
        rw [Int.cast_mul, Int.cast_natCast, Number.cast_unitsPerOne, mul_div_cancel_right₀ _ scale]
      rw [place?, extended?, Option.map_some, Number.Place.ofInt, Number.Place.position, value]
  | float x =>
      rw [place?, extended?, Number.Place.ofFloat?, Number.extended?]
      cases Number.Double.ofFloat? x with
      | some d =>
          have value : (d.units : ℚ) / 2 ^ Number.unitShift = d.value := by
            rw [d.units_eq, mul_div_cancel_right₀ _ scale]
          simp only [Option.map_some, Number.Place.position, value]
      | none =>
          cases x.isNaN with
          | true => rfl
          | false => by_cases negative : x < 0 <;> simp [negative] <;> rfl

end Numeric

end Promptline
