import Promptline.Function.Arithmetic
import Promptline.Proofs.Number.Shortest

/-!
# Decimal rounding

A double is rounded in three steps: it is written as its shortest decimal, the decimal is rounded to
the places, and the result is read as a double.  The middle step is d.  It always has an answer,
the nearest multiple of the last place with ties to the even one, and everything that is expected of
rounding follows from that: a rounded number stays as it is, the order and the sign are kept, and
the error is half a unit of the last place at most.
-/

namespace Promptline

namespace Arithmetic

open Number Number.Decimal

variable {x : Float} {d rounded : Decimal} {places : ℕ}

/-- No bound on the working precision or on the places stands in the way of the decimal step. -/
theorem roundFloat_eq (shortest : shortest? x = some d) (few : places ≤ 999999)
    (round : d.roundTo? places = some rounded) :
    roundFloat x places = .ok rounded.toFloat := by
  have leading := adjusted_shortest?_le shortest
  have word : ¬ wordRange < d.workingPrecision places := by
    rw [wordRange, workingPrecision]
    omega
  have precision : ¬ precisionRange < d.workingPrecision places := by
    rw [precisionRange, workingPrecision]
    omega
  have place : ¬ placeRange < (places : ℤ) := by
    rw [placeRange]
    omega
  rw [roundTo?] at round
  simp only [roundFloat, shortest, if_neg word, if_neg precision, if_neg place,
    Int.toNat_natCast, round, if_neg (Int.natCast_nonneg places).not_gt]

/-- Every decimal has a rounded one within its working precision, the nearest multiple of the last
place, or the even multiple of two that are equally near.  Rounding changes it by half of the place
at most, again at more places not at all, and keeps order and sign.  For the shortest decimal of a
double, this is the number that is read back. -/
theorem rounding_is_half_even (d : Decimal) (places : ℕ) :
    ∃ rounded, d.roundTo? places = some rounded ∧
      (∃ n : ℤ, n.natAbs < 10 ^ (d.workingPrecision places).toNat ∧
        rounded.value = n / 10 ^ places ∧
        (∀ m : ℤ, |d.value - n / 10 ^ places| ≤ |d.value - m / 10 ^ places|) ∧
        ∀ m : ℤ, m ≠ n → |d.value - m / 10 ^ places| = |d.value - n / 10 ^ places| →
          Even n) ∧
      |d.value - rounded.value| ≤ 1 / 2 / 10 ^ places ∧
      (∀ more ≥ places, ∃ again, rounded.roundTo? more = some again ∧
        again.value = rounded.value) ∧
      (∀ other otherRounded : Decimal, d.value ≤ other.value →
        other.roundTo? places = some otherRounded → rounded.value ≤ otherRounded.value) ∧
      (d.negated.roundTo? places = some rounded.negated ∧
        rounded.negated.value = -rounded.value) ∧
      ∀ x, shortest? x = some d → places ≤ 999999 →
        roundFloat x places = .ok rounded.toFloat := by
  have scale : (0 : ℚ) < 10 ^ places := by positivity
  have round := d.roundTo?_eq places
  have nearest := d.nearestEven_multiple places
  refine ⟨d.placed places, round,
    ⟨d.multiple places, ?fits, d.value_placed places, ?closest, ?even⟩, ?error, ?again, ?order,
    ?odd, fun x shortest few => roundFloat_eq shortest few round⟩
  case fits =>
    rw [natAbs_multiple]
    exact d.atPlace_lt places
  case closest =>
    intro m
    rw [abs_value_sub_div, abs_value_sub_div]
    exact div_le_div_of_nonneg_right (nearest.abs_sub_le m) scale.le
  case even =>
    intro m apart tie
    rw [abs_value_sub_div, abs_value_sub_div, div_left_inj' scale.ne'] at tie
    exact nearest.even_of_tie apart tie
  case error =>
    rw [value_placed, abs_value_sub_div]
    exact div_le_div_of_nonneg_right nearest.near scale.le
  case again =>
    intro more finer
    obtain ⟨zeros, rfl⟩ := Nat.exists_eq_add_of_le finer
    refine ⟨_, roundTo?_eq _ _, value_placed_of_multiple (n := d.multiple places * 10 ^ zeros) ?_⟩
    rw [value_placed, pow_add, Int.cast_mul]
    push_cast
    rw [mul_div_mul_right _ _ (by positivity)]
  case order =>
    intro other otherRounded below otherRound
    obtain rfl := Option.some.inj ((other.roundTo?_eq places).symm.trans otherRound)
    exact value_placed_mono places below
  case odd =>
    exact ⟨by rw [roundTo?_eq, placed_negated], value_negated _⟩

/-- The number lies halfway between 9.9 and 10.0, and the even multiple has a digit more. -/
theorem tie_is_carried_into_a_new_digit :
    shortest? 9.95 = some ⟨false, 995, -2⟩ ∧
      roundTo? 1 ⟨false, 995, -2⟩ = some ⟨false, 100, -1⟩ ∧
      roundFloat 9.95 1 = .ok (toFloat ⟨false, 100, -1⟩) := by
  have shortest : shortest? 9.95 = some ⟨false, 995, -2⟩ := by decide +kernel
  have result : roundTo? 1 ⟨false, 995, -2⟩ = some ⟨false, 100, -1⟩ := by decide +kernel
  obtain ⟨rounded, round, -, -, -, -, -, read⟩ := rounding_is_half_even ⟨false, 995, -2⟩ 1
  obtain rfl := Option.some.inj (round.symm.trans result)
  exact ⟨shortest, result, read 9.95 shortest (by decide)⟩

end Arithmetic

end Promptline
