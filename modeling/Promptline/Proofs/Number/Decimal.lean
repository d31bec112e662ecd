import Mathlib.Algebra.Order.Field.Power
import Promptline.Proofs.Number.Integer
import Promptline.Proofs.Number.NearestEven

/-!
# Rounding decimals

The value of a decimal number is a rational number, and rounding a decimal to some places rounds
the value, counted in units of the last place, to the nearest integer.  The only limit is the number
of digits that the result has down to the last place; the working precision is chosen so that it is
always enough, also when rounding carries into a new digit.
-/

namespace Promptline

namespace Number

theorem lt_pow_digitCount (n : ℕ) : n < 10 ^ Decimal.digitCount n := by
  have positive := @Nat.length_toDigits_pos 10 n
  have bounded := pow_ten_le_iff (n := n) positive
  rw [Nat.pow_eq] at bounded
  rw [Decimal.digitCount]
  omega

theorem pow_digitCount_le {n : ℕ} (positive : n ≠ 0) :
    10 ^ (Decimal.digitCount n - 1) ≤ n := by
  obtain one | more := Nat.eq_zero_or_pos (Decimal.digitCount n - 1)
  · rw [one]
    omega
  · rw [← Nat.pow_eq, pow_ten_le_iff more, ← Decimal.digitCount]
    omega

/-- The digits of a product with a power of ten. -/
theorem mul_pow_lt_iff {n : ℕ} (positive : n ≠ 0) (zeros digits : ℕ) :
    n * 10 ^ zeros < 10 ^ digits ↔ Decimal.digitCount n + zeros ≤ digits := by
  constructor
  · intro less
    by_contra! short
    have most : 10 ^ digits ≤ 10 ^ (Decimal.digitCount n - 1) * 10 ^ zeros := by
      rw [← pow_add]
      exact Nat.pow_le_pow_right (by decide) (by omega)
    have grows := Nat.mul_le_mul_right (10 ^ zeros) (pow_digitCount_le positive)
    omega
  · intro fits
    calc n * 10 ^ zeros < 10 ^ Decimal.digitCount n * 10 ^ zeros :=
          Nat.mul_lt_mul_of_pos_right (lt_pow_digitCount n) (by positivity)
      _ = 10 ^ (Decimal.digitCount n + zeros) := (pow_add _ _ _).symm
      _ ≤ 10 ^ digits := Nat.pow_le_pow_right (by decide) fits

namespace Decimal

/-- The number that a sign stands for. -/
def unit (negative : Bool) : ℤ :=
  if negative then -1 else 1

/-- The value of a decimal number. -/
def value (d : Decimal) : ℚ :=
  unit d.negative * (d.coefficient * 10 ^ d.exponent)

/-- The decimal number with the other sign. -/
def negated (d : Decimal) : Decimal :=
  { d with negative := !d.negative }

theorem abs_unit (negative : Bool) : |(unit negative : ℚ)| = 1 := by
  cases negative <;> simp [unit]

theorem value_negated (d : Decimal) : d.negated.value = -d.value := by
  cases sign : d.negative <;> simp [value, negated, unit, sign]

theorem abs_value (d : Decimal) : |d.value| = d.coefficient * 10 ^ d.exponent := by
  rw [value, abs_mul, abs_unit, one_mul, abs_of_nonneg (by positivity)]

/-- A decimal lies below the power of ten in front of its leading digit. -/
theorem abs_value_lt (d : Decimal) : |d.value| < 10 ^ (d.adjusted + 1) := by
  have digits : (d.coefficient : ℚ) < 10 ^ (digitCount d.coefficient : ℤ) := by
    rw [zpow_natCast]
    exact_mod_cast lt_pow_digitCount d.coefficient
  have place : d.adjusted + 1 = digitCount d.coefficient + d.exponent := by
    rw [adjusted]
    ring
  rw [abs_value, place, zpow_add₀ (by norm_num)]
  exact mul_lt_mul_of_pos_right digits (by positivity)

/-- A decimal other than zero reaches the power of ten of its leading digit. -/
theorem pow_adjusted_le {d : Decimal} (nonzero : d.coefficient ≠ 0) :
    10 ^ d.adjusted ≤ |d.value| := by
  have positive : 0 < digitCount d.coefficient := Nat.length_toDigits_pos
  have digits : (10 : ℚ) ^ ((digitCount d.coefficient - 1 : ℕ) : ℤ) ≤ d.coefficient := by
    rw [zpow_natCast]
    exact_mod_cast pow_digitCount_le nonzero
  have place : d.adjusted = ((digitCount d.coefficient - 1 : ℕ) : ℤ) + d.exponent := by
    rw [adjusted]
    omega
  rw [abs_value, place, zpow_add₀ (by norm_num)]
  exact mul_le_mul_of_nonneg_right digits (by positivity)

/-! ## Quantizing -/

/-- A sign in front of the number is the sign of the nearest integer. -/
theorem nearestEven_unit_mul {x : ℚ} {n : ℤ} (negative : Bool) (nearest : NearestEven x n) :
    NearestEven (unit negative * x) (unit negative * n) := by
  cases negative with
  | false => simpa [unit] using nearest
  | true => simpa [unit] using nearest.neg

/-- The coefficient of a decimal that is rounded to some places. -/
def atPlace (places : ℕ) (d : Decimal) : ℕ :=
  if -(places : ℤ) ≤ d.exponent then d.coefficient * 10 ^ (d.exponent + places).toNat
  else divideToEven d.coefficient (10 ^ (-(places : ℤ) - d.exponent).toNat)

/-- The rounded decimal in units of the last place. -/
def multiple (places : ℕ) (d : Decimal) : ℤ :=
  unit d.negative * d.atPlace places

variable {places : ℕ} {d e : Decimal}

theorem natAbs_multiple (places : ℕ) (d : Decimal) :
    (d.multiple places).natAbs = d.atPlace places := by
  cases sign : d.negative <;> simp [multiple, unit, sign]

theorem value_mul_pow (places : ℕ) (d : Decimal) :
    d.value * 10 ^ places = unit d.negative * (d.coefficient * 10 ^ (d.exponent + places)) := by
  rw [value, zpow_add₀ (by norm_num), zpow_natCast]
  ring

/-- In units of the last place, the rounded decimal is the nearest integer. -/
theorem nearestEven_multiple (places : ℕ) (d : Decimal) :
    NearestEven (d.value * 10 ^ places) (d.multiple places) := by
  rw [value_mul_pow, multiple]
  refine nearestEven_unit_mul d.negative ?_
  rw [atPlace]
  split_ifs with whole
  · obtain ⟨zeros, count⟩ := Int.eq_ofNat_of_zero_le (a := d.exponent + places) (by omega)
    rw [count, zpow_natCast, Int.toNat_natCast]
    convert NearestEven.intCast (d.coefficient * 10 ^ zeros : ℕ) using 1
    push_cast
    rfl
  · obtain ⟨dropped, count⟩ :=
      Int.eq_ofNat_of_zero_le (a := -(places : ℤ) - d.exponent) (by omega)
    have place : d.exponent + places = -(dropped : ℤ) := by omega
    have positive : 0 < 10 ^ dropped := by positivity
    have nearest := nearestEven_divideToEven d.coefficient positive
    rw [place, count, zpow_neg, zpow_natCast, Int.toNat_natCast, ← div_eq_mul_inv]
    exact_mod_cast nearest

theorem atPlace_of_eq_zero (zero : d.coefficient = 0) (places : ℕ) : d.atPlace places = 0 := by
  rw [atPlace, zero]
  split
  · exact Nat.zero_mul _
  · simp [divideToEven]

/-- The decimal that a decimal is rounded to, if its digits fit.  Without digits behind the last
place it stays as it is. -/
def placed (places : ℕ) (d : Decimal) : Decimal :=
  if d.coefficient = 0 ∨ -(places : ℤ) ≤ d.exponent then d
  else ⟨d.negative, d.atPlace places, -(places : ℤ)⟩

/-- Nothing but the number of digits decides whether there is a result. -/
theorem quantize?_eq (precision places : ℕ) (d : Decimal) :
    d.quantize? precision places =
      if d.atPlace places < 10 ^ precision then some (d.placed places) else none := by
  rw [quantize?, placed]
  by_cases zero : d.coefficient = 0
  · have room : d.atPlace places < 10 ^ precision := by
      rw [atPlace_of_eq_zero zero]
      positivity
    rw [if_pos zero, if_pos room, if_pos (.inl zero)]
  by_cases coarser : -(places : ℤ) ≤ d.exponent
  · have fits : d.adjusted + 1 + places ≤ precision ↔ d.atPlace places < 10 ^ precision := by
      rw [atPlace, if_pos coarser, mul_pow_lt_iff zero, adjusted]
      omega
    rw [if_neg zero, if_pos coarser, if_congr fits rfl rfl, if_pos (Or.inr coarser)]
  · rw [if_neg zero, if_neg coarser, if_neg (not_or_intro zero coarser), atPlace, if_neg coarser]
    rfl

theorem value_placed (places : ℕ) (d : Decimal) :
    (d.placed places).value = d.multiple places / 10 ^ places := by
  rw [eq_div_iff (by positivity), placed, multiple]
  split_ifs with whole
  · obtain zero | coarser := whole
    · rw [value, zero, atPlace_of_eq_zero zero]
      simp
    · obtain ⟨zeros, count⟩ := Int.eq_ofNat_of_zero_le (a := d.exponent + places) (by omega)
      rw [value_mul_pow, atPlace, if_pos coarser, count, zpow_natCast, Int.toNat_natCast]
      push_cast
      rfl
  · rw [value_mul_pow, neg_add_cancel, zpow_zero, mul_one]
    push_cast
    rfl

/-- The sign plays no part in rounding. -/
theorem placed_negated (places : ℕ) (d : Decimal) :
    d.negated.placed places = (d.placed places).negated := by
  rw [placed, placed, apply_ite negated]
  rfl

/-- A multiple of the last place keeps its value. -/
theorem value_placed_of_multiple {n : ℤ} (whole : d.value = n / 10 ^ places) :
    (d.placed places).value = d.value := by
  have nearest := d.nearestEven_multiple places
  rw [whole, div_mul_cancel₀ _ (by positivity)] at nearest
  rw [value_placed, whole, nearest.unique (.intCast n)]

/-- Rounding keeps the order. -/
theorem value_placed_mono (places : ℕ) (below : d.value ≤ e.value) :
    (d.placed places).value ≤ (e.placed places).value := by
  have order : d.multiple places ≤ e.multiple places :=
    (d.nearestEven_multiple places).mono (mul_le_mul_of_nonneg_right below (by positivity))
      (e.nearestEven_multiple places)
  rw [value_placed, value_placed]
  exact div_le_div_of_nonneg_right (by exact_mod_cast order) (by positivity)

/-- The distance to a multiple of the last place, in units of that place. -/
theorem abs_value_sub_div (places : ℕ) (d : Decimal) (n : ℤ) :
    |d.value - n / 10 ^ places| = |d.value * 10 ^ places - n| / 10 ^ places := by
  have scale : (0 : ℚ) < 10 ^ places := by positivity
  rw [eq_div_iff scale.ne', ← abs_of_pos scale, ← abs_mul, abs_of_pos scale, sub_mul,
    div_mul_cancel₀ _ scale.ne']

/-! ## The working precision -/

/-- A decimal lies below the power of ten in front of its leading digit and is rounded to that power
at most.  The working precision has room for the digit that this adds. -/
theorem atPlace_lt (places : ℕ) (d : Decimal) :
    d.atPlace places < 10 ^ (d.workingPrecision places).toNat := by
  have small : |d.value * 10 ^ places| < (10 ^ (d.adjusted + 1 + places).toNat : ℕ) := by
    have scale : (0 : ℚ) < 10 ^ places := by positivity
    calc |d.value * 10 ^ places| = |d.value| * 10 ^ places := by rw [abs_mul, abs_of_pos scale]
      _ < 10 ^ (d.adjusted + 1) * 10 ^ places := mul_lt_mul_of_pos_right d.abs_value_lt scale
      _ = 10 ^ (d.adjusted + 1 + places) := by
          rw [zpow_add₀ (by norm_num) (d.adjusted + 1) places, zpow_natCast]
      _ ≤ 10 ^ ((d.adjusted + 1 + places).toNat : ℤ) :=
          zpow_le_zpow_right₀ (by norm_num) (Int.self_le_toNat _)
      _ = (10 ^ (d.adjusted + 1 + places).toNat : ℕ) := by
          rw [zpow_natCast]
          push_cast
          rfl
  have bounded := (d.nearestEven_multiple places).natAbs_le small
  rw [natAbs_multiple] at bounded
  refine bounded.trans_lt (Nat.pow_lt_pow_right (by decide) ?_)
  rw [workingPrecision]
  omega

/-- Round to some places with the working precision. -/
def roundTo? (places : ℕ) (d : Decimal) : Option Decimal :=
  d.quantize? (d.workingPrecision places).toNat places

/-- The working precision is always enough. -/
theorem roundTo?_eq (places : ℕ) (d : Decimal) : d.roundTo? places = some (d.placed places) := by
  rw [roundTo?, quantize?_eq, if_pos (d.atPlace_lt places)]

end Decimal

end Number

end Promptline
