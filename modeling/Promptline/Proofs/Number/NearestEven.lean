import Mathlib.Algebra.Order.Field.Rat
import Mathlib.Algebra.Order.Ring.Abs
import Mathlib.Algebra.Group.Int.Even
import Mathlib.Tactic.Linarith
import Mathlib.Tactic.NormNum
import Mathlib.Tactic.Positivity
import Mathlib.Tactic.Ring
import Promptline.Number.Round

/-!
# The nearest integer

Every rational number lies within one half of an integer, and of two integers that it lies halfway
between one is even.  Rounding to that integer is monotone and odd, keeps integers, and is what
`divideToEven` computes for a quotient.
-/

namespace Promptline

namespace Number

/-- The integer is the nearest one to the number, and the even one if two are equally near. -/
structure NearestEven (x : ℚ) (n : ℤ) : Prop where
  near : |x - n| ≤ 1 / 2
  even : |x - n| = 1 / 2 → Even n

namespace NearestEven

variable {x y : ℚ} {m n : ℤ}

theorem intCast (n : ℤ) : NearestEven n n := by
  constructor <;> norm_num

theorem neg (nearest : NearestEven x n) : NearestEven (-x) (-n) := by
  have distance : |-x - (-n : ℤ)| = |x - n| := by
    rw [Int.cast_neg, ← neg_sub', abs_neg]
  exact ⟨distance ▸ nearest.near, fun half => (nearest.even (distance ▸ half)).neg⟩

/-- A greater number has no smaller nearest integer. -/
theorem mono (below : x ≤ y) (first : NearestEven x m) (second : NearestEven y n) : m ≤ n := by
  by_contra! crossed
  have first_bound := abs_le.mp first.near
  have second_bound := abs_le.mp second.near
  have upper : (m : ℚ) ≤ n + 1 := by linarith
  have lower : (n : ℚ) + 1 ≤ m := by exact_mod_cast crossed
  -- Only a number halfway between the two integers could have been rounded either way.
  have left : |x - m| = 1 / 2 := by
    rw [show x - m = -(1 / 2) by linarith, abs_neg, abs_of_pos (by norm_num)]
  have right : |y - n| = 1 / 2 := by
    rw [show y - n = 1 / 2 by linarith, abs_of_pos (by norm_num)]
  obtain ⟨i, rfl⟩ := first.even left
  obtain ⟨j, rfl⟩ := second.even right
  have adjacent : i + i = j + j + 1 := by exact_mod_cast le_antisymm upper lower
  omega

theorem unique (first : NearestEven x m) (second : NearestEven x n) : m = n :=
  le_antisymm (first.mono le_rfl second) (second.mono le_rfl first)

/-- Two integers are not both nearer than one half. -/
theorem one_le_abs_add_abs (x : ℚ) (apart : m ≠ n) : 1 ≤ |x - m| + |x - n| := by
  have distance : (1 : ℚ) ≤ |(n : ℚ) - m| := by
    exact_mod_cast Int.one_le_abs (sub_ne_zero.mpr apart.symm)
  have split := abs_sub (x - m) (x - n)
  rw [sub_sub_sub_cancel_left] at split
  exact distance.trans split

/-- No integer is nearer. -/
theorem abs_sub_le (nearest : NearestEven x n) (m : ℤ) : |x - n| ≤ |x - m| := by
  by_cases same : m = n
  · rw [same]
  · linarith [nearest.near, one_le_abs_add_abs x same]

/-- If another integer is equally near, the number lies halfway between the two. -/
theorem even_of_tie (nearest : NearestEven x n) (apart : m ≠ n) (tie : |x - m| = |x - n|) :
    Even n := by
  refine nearest.even (le_antisymm nearest.near ?_)
  linarith [one_le_abs_add_abs x apart]

/-- Numbers below a whole bound are rounded to at most that bound. -/
theorem natAbs_le (nearest : NearestEven x n) {bound : ℕ} (small : |x| < bound) :
    n.natAbs ≤ bound := by
  have split := abs_sub x (x - n)
  rw [sub_sub_cancel] at split
  have bounded : (n.natAbs : ℚ) < bound + 1 := by
    rw [Nat.cast_natAbs, Int.cast_abs]
    linarith [nearest.near]
  exact Nat.lt_succ_iff.mp (by exact_mod_cast bounded)

end NearestEven

/-- A distance given as a fraction is compared with one half by its terms. -/
theorem NearestEven.of_distance {x : ℚ} {n : ℤ} {part whole : ℕ} (positive : 0 < whole)
    (distance : |x - n| = part / whole) (near : 2 * part ≤ whole)
    (even : 2 * part = whole → Even n) : NearestEven x n := by
  have scale : (0 : ℚ) < whole := by exact_mod_cast positive
  constructor
  · rw [distance, div_le_div_iff₀ scale two_pos]
    exact_mod_cast (by omega : part * 2 ≤ 1 * whole)
  · intro half
    rw [distance, div_eq_div_iff scale.ne' two_ne_zero] at half
    have terms : part * 2 = 1 * whole := by exact_mod_cast half
    exact even (by omega)

/-- The rounded quotient of two natural numbers is the integer nearest to their quotient. -/
theorem nearestEven_divideToEven (top : ℕ) {bottom : ℕ} (positive : 0 < bottom) :
    NearestEven (top / bottom) (divideToEven top bottom : ℕ) := by
  have scale : (0 : ℚ) < bottom := by exact_mod_cast positive
  have small : top % bottom < bottom := Nat.mod_lt _ positive
  have split : (top : ℚ) / bottom = (top / bottom : ℕ) + (top % bottom : ℕ) / bottom := by
    have whole : (top : ℚ) = bottom * (top / bottom : ℕ) + (top % bottom : ℕ) := by
      exact_mod_cast (Nat.div_add_mod top bottom).symm
    rw [div_eq_iff scale.ne', add_mul, div_mul_cancel₀ _ scale.ne']
    linarith
  rw [divideToEven]
  split_ifs with down
  · have distance : |(top : ℚ) / bottom - ((top / bottom : ℕ) : ℤ)| =
        (top % bottom : ℕ) / bottom := by
      rw [split, Int.cast_natCast, add_sub_cancel_left, abs_of_nonneg (by positivity)]
    refine .of_distance positive distance (by omega) fun half => ?_
    rw [Int.even_coe_nat, Nat.even_iff]
    omega
  · have distance : |(top : ℚ) / bottom - ((top / bottom + 1 : ℕ) : ℤ)| =
        (bottom - top % bottom : ℕ) / bottom := by
      have part : (top : ℚ) / bottom - ((top / bottom + 1 : ℕ) : ℤ) =
          -((bottom - top % bottom : ℕ) / bottom) := by
        rw [split, Nat.cast_sub small.le, sub_div, div_self scale.ne', Int.cast_natCast,
          Nat.cast_add_one]
        ring
      rw [part, abs_neg, abs_of_nonneg (by positivity)]
    refine .of_distance positive distance (by omega) fun half => ?_
    rw [Int.even_coe_nat, Nat.even_iff]
    omega

end Number

end Promptline
