import Mathlib.Data.Nat.Cast.Order.Field
import Promptline.Proofs.Number.Decimal
import Promptline.Proofs.Number.Place

/-!
# The size of the shortest decimal

The search for the shortest decimal of a double never leaves the two neighbours of the double on a
grid, and no grid is coarser than the leading digit of the double.  So the decimal is as small as
the double is, up to one unit of that digit, and its own leading digit stands within the range of
finite doubles.
-/

namespace Promptline

namespace Number

namespace Double

theorem abs_value (d : Double) : |d.value| = d.magnitude / 2 ^ unitShift := by
  have scale : (0 : ℚ) < 2 ^ unitShift := by positivity
  have size : |(d.units : ℚ)| = d.magnitude := by
    rw [units]
    split <;> simp
  rw [eq_div_iff scale.ne', ← size, d.units_eq, abs_mul, abs_of_pos scale]

/-- The significand has 53 bits, and the greatest exponent leaves it below `2 ^ 1024`. -/
theorem abs_value_lt {x : Float} {d : Double} (finite : ofFloat? x = some d) :
    |d.value| < 2 ^ 1024 := by
  have parts : d.mantissa < 2 ^ 53 ∧ d.shift ≤ 2045 := by
    have fraction : x.toBits.toNat % Nat.pow 2 52 < 2 ^ 52 := Nat.mod_lt _ (by decide)
    have biased : x.toBits.toNat / Nat.pow 2 52 % Nat.pow 2 11 < 2 ^ 11 := Nat.mod_lt _ (by decide)
    rw [ofFloat?] at finite
    split_ifs at finite with special subnormal
    · obtain rfl := Option.some.inj finite
      exact ⟨by simp only; omega, by simp⟩
    · obtain rfl := Option.some.inj finite
      exact ⟨by simp only [Nat.pow_eq] at *; omega, by simp only; omega⟩
  have mantissa : (d.mantissa : ℚ) < 2 ^ 53 := by exact_mod_cast parts.1
  have shift : (2 : ℚ) ^ d.shift ≤ 2 ^ 2045 := pow_le_pow_right₀ (by norm_num) parts.2
  have scale : (0 : ℚ) < 2 ^ unitShift := by positivity
  rw [abs_value, div_lt_iff₀ scale, magnitude, Nat.cast_mul, cast_pow, Nat.cast_two]
  calc (d.mantissa : ℚ) * 2 ^ d.shift < 2 ^ 53 * 2 ^ d.shift :=
        mul_lt_mul_of_pos_right mantissa (by positivity)
    _ ≤ 2 ^ 53 * 2 ^ 2045 := mul_le_mul_of_nonneg_left shift (by positivity)
    _ = 2 ^ 1024 * 2 ^ unitShift := by rw [← pow_add, ← pow_add, unitShift]

end Double

namespace Decimal

/-- Moving trailing zeros into the exponent keeps the value. -/
theorem value_dropZeros (fuel coefficient : ℕ) (exponent : ℤ) :
    ((dropZeros fuel coefficient exponent).1 : ℚ) * 10 ^ (dropZeros fuel coefficient exponent).2 =
      coefficient * 10 ^ exponent := by
  induction fuel generalizing coefficient exponent with
  | zero => rfl
  | succ fuel ih =>
      rw [dropZeros]
      split_ifs with zero
      · have whole : (coefficient : ℚ) = (coefficient / 10 : ℕ) * 10 := by
          exact_mod_cast (Nat.div_mul_cancel (Nat.dvd_of_mod_eq_zero zero)).symm
        rw [ih, whole, zpow_add_one₀ (by norm_num)]
        ring
      · rfl

theorem exponent_dropZeros_le (fuel coefficient : ℕ) (exponent : ℤ) :
    (dropZeros fuel coefficient exponent).2 ≤ exponent + fuel := by
  induction fuel generalizing coefficient exponent with
  | zero => simp [dropZeros]
  | succ fuel ih =>
      rw [dropZeros]
      split_ifs
      · have later := ih (coefficient / 10) (exponent + 1)
        push_cast
        omega
      · simp only
        omega

theorem gridFloor_mul_le (top : ℕ) {bottom : ℕ} (positive : 0 < bottom) (exponent : ℤ) :
    (gridFloor top bottom exponent : ℚ) * 10 ^ exponent ≤ top / bottom := by
  have scale : (0 : ℚ) < bottom := by exact_mod_cast positive
  rw [gridFloor]
  split_ifs with coarse
  · obtain ⟨zeros, rfl⟩ := Int.eq_ofNat_of_zero_le coarse
    rw [Int.toNat_natCast, zpow_natCast, Nat.pow_eq, ← le_div_iff₀ (by positivity), div_div]
    exact_mod_cast (Nat.cast_div_le (α := ℚ) (m := top) (n := bottom * 10 ^ zeros))
  · obtain ⟨places, rfl⟩ := Int.exists_eq_neg_ofNat (by omega : exponent ≤ 0)
    rw [Int.natAbs_neg, Int.natAbs_natCast, zpow_neg, zpow_natCast, Nat.pow_eq,
      ← div_eq_mul_inv, div_le_iff₀ (by positivity), div_mul_eq_mul_div]
    exact_mod_cast (Nat.cast_div_le (α := ℚ) (m := top * 10 ^ places) (n := bottom))

/-- A fraction below a power of ten has its leading digit below that power. -/
theorem leadingExponent_lt {top bottom digits : ℕ} (positive : 0 < digits)
    (small : top < 10 ^ digits * bottom) : leadingExponent top bottom < digits := by
  rw [leadingExponent]
  split_ifs with whole
  · have scale : 0 < bottom := Nat.pos_of_ne_zero fun zero => by simp [zero] at small
    have nonzero : top / bottom ≠ 0 := (Nat.div_pos whole scale).ne'
    have quotient : top / bottom * 10 ^ 0 < 10 ^ digits := by
      rwa [pow_zero, mul_one, Nat.div_lt_iff_lt_mul scale]
    have count := (mul_pow_lt_iff nonzero 0 digits).mp quotient
    omega
  · omega

namespace Basin

variable {basin : Basin} {exponent : ℤ} {coefficient : ℕ}

theorem le_of_nearest? (hit : basin.nearest? exponent = some coefficient) :
    coefficient ≤ gridFloor basin.value basin.bottom exponent + 1 := by
  rw [nearest?] at hit
  grind

/-- The search ends next to the double, on a grid no coarser than its leading digit. -/
theorem search_le (leading : ℤ) (fuel : ℕ) {digits : ℕ} (positive : 0 < digits) :
    (basin.search leading fuel digits).2 ≤ leading ∧
      (basin.search leading fuel digits).1 ≤
        gridFloor basin.value basin.bottom (basin.search leading fuel digits).2 + 1 := by
  induction fuel generalizing digits with
  | zero => exact ⟨by simp only [search]; omega, by simp [search]⟩
  | succ fuel ih =>
      rw [search]
      split
      · next hit => exact ⟨by simp only; omega, le_of_nearest? hit⟩
      · exact ih (Nat.succ_pos digits)

end Basin

/-- The basin of a double lies around its absolute value. -/
theorem value_div_bottom (d : Double) :
    ((Basin.ofDouble d).value : ℚ) / (Basin.ofDouble d).bottom = |d.value| := by
  rw [Basin.ofDouble, d.abs_value, Nat.cast_mul, Nat.cast_mul, cast_unitsPerOne,
    mul_div_mul_left _ _ (by norm_num)]

theorem bottom_pos (d : Double) : 0 < (Basin.ofDouble d).bottom := by
  have scale : (0 : ℚ) < (Basin.ofDouble d).bottom := by
    rw [Basin.ofDouble, Nat.cast_mul, cast_unitsPerOne]
    positivity
  exact_mod_cast scale

variable {d : Double} {digits : ℕ}

theorem leadingExponent_ofDouble_lt (positive : 0 < digits) (small : |d.value| < 10 ^ digits) :
    leadingExponent (Basin.ofDouble d).value (Basin.ofDouble d).bottom < digits := by
  have scale : (0 : ℚ) < (Basin.ofDouble d).bottom := by exact_mod_cast bottom_pos d
  refine leadingExponent_lt positive ?_
  rw [← value_div_bottom, div_lt_iff₀ scale] at small
  exact_mod_cast small

/-- The shortest decimal is next to its double on a grid that is fine enough. -/
theorem exists_hit (nonzero : d.mantissa ≠ 0) (positive : 0 < digits)
    (small : |d.value| < 10 ^ digits) :
    ∃ coefficient exponent, exponent < (digits : ℤ) ∧
      coefficient ≤ gridFloor (Basin.ofDouble d).value (Basin.ofDouble d).bottom exponent + 1 ∧
      ofDouble d = ⟨d.negative, (dropZeros 17 coefficient exponent).1,
        (dropZeros 17 coefficient exponent).2⟩ := by
  have place := leadingExponent_ofDouble_lt positive small
  obtain ⟨coarsest, next⟩ := (Basin.ofDouble d).search_le
    (leadingExponent (Basin.ofDouble d).value (Basin.ofDouble d).bottom) 17 Nat.one_pos
  refine ⟨_, _, coarsest.trans_lt place, next, ?_⟩
  rw [ofDouble, if_neg nonzero]

/-- If a double lies below a power of ten, its shortest decimal lies below the next one. -/
theorem abs_value_ofDouble_lt (nonzero : d.mantissa ≠ 0) (positive : 0 < digits)
    (small : |d.value| < 10 ^ digits) : |(ofDouble d).value| < 10 ^ (digits + 1) := by
  obtain ⟨coefficient, exponent, fine, next, found⟩ := exists_hit nonzero positive small
  have near : (coefficient : ℚ) ≤
      gridFloor (Basin.ofDouble d).value (Basin.ofDouble d).bottom exponent + 1 := by
    exact_mod_cast next
  have unit : (10 : ℚ) ^ exponent ≤ 10 ^ digits := by
    rw [← zpow_natCast]
    exact zpow_le_zpow_right₀ (by norm_num) fine.le
  have floor := gridFloor_mul_le (Basin.ofDouble d).value (bottom_pos d) exponent
  rw [value_div_bottom] at floor
  rw [Decimal.abs_value, found]
  simp only [value_dropZeros]
  calc (coefficient : ℚ) * 10 ^ exponent
      ≤ (gridFloor (Basin.ofDouble d).value (Basin.ofDouble d).bottom exponent + 1) *
          10 ^ exponent := mul_le_mul_of_nonneg_right near (by positivity)
    _ ≤ |d.value| + 10 ^ exponent := by linarith
    _ < 10 ^ digits + 10 ^ digits := add_lt_add_of_lt_of_le small unit
    _ ≤ 10 ^ (digits + 1) := by
        rw [pow_succ]
        linarith [pow_pos (by norm_num : (0 : ℚ) < 10) digits]

theorem exponent_ofDouble_lt (nonzero : d.mantissa ≠ 0) (positive : 0 < digits)
    (small : |d.value| < 10 ^ digits) : (ofDouble d).exponent < digits + 17 := by
  obtain ⟨coefficient, exponent, fine, -, found⟩ := exists_hit nonzero positive small
  have shifted := exponent_dropZeros_le 17 coefficient exponent
  rw [found]
  simp only
  omega

/-- The leading digit of a shortest decimal stands within the range of finite doubles. -/
theorem adjusted_shortest?_le {x : Float} {exact : Decimal} (shortest : shortest? x = some exact) :
    exact.adjusted ≤ 400 := by
  obtain ⟨d, finite, rfl⟩ := Option.map_eq_some_iff.mp shortest
  by_cases nonzero : d.mantissa = 0
  · rw [ofDouble, if_pos nonzero, adjusted]
    exact (by decide : (-1 : ℤ) + digitCount 0 - 1 ≤ 400)
  -- Three factors of two are less than a factor of ten.
  have small : |d.value| < 10 ^ 342 := by
    calc |d.value| < 2 ^ 1024 := Double.abs_value_lt finite
      _ ≤ 2 ^ (3 * 342) := pow_le_pow_right₀ (by norm_num) (by norm_num)
      _ = (2 ^ 3) ^ 342 := pow_mul _ _ _
      _ ≤ 10 ^ 342 := pow_le_pow_left₀ (by norm_num) (by norm_num) _
  by_cases zero : (ofDouble d).coefficient = 0
  · have place := exponent_ofDouble_lt nonzero (by decide) small
    rw [adjusted, zero, show digitCount 0 = 1 from rfl]
    omega
  · have reached := (pow_adjusted_le zero).trans_lt
      (abs_value_ofDouble_lt nonzero (by decide) small)
    rw [← zpow_natCast, zpow_lt_zpow_iff_right₀ (by norm_num)] at reached
    omega

end Decimal

end Number

end Promptline
