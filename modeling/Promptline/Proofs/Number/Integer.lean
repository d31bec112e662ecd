import Promptline.Number.Notation
import Promptline.Number.Read
import Promptline.Proofs.Expression.LongInteger

/-!
# Integers as texts

The decimal text of an integer reads back as the integer, as long as it has no more digits than the
limit.
-/

namespace Promptline

namespace Text

/-- An ASCII digit has the value of its place after the zero. -/
theorem digitValue?_of_isDigit {c : Char} (digit : c.isDigit = true) :
    digitValue? c = some (c.toNat - '0'.toNat) := by
  have ascii : c.toNat < 128 := by
    have range := digit
    simp only [Char.isDigit, ge_iff_le, Bool.and_eq_true, decide_eq_true_eq,
      UInt32.le_iff_toNat_le] at range
    exact Nat.lt_of_le_of_lt range.2 (by decide)
  rw [digitValue?, if_pos ascii, if_pos digit]

theorem isDigit_of_ascii {c : Char} (digit : c.isDigit = true) : isDigit c = true := by
  rw [isDigit, digitValue?_of_isDigit digit]
  rfl

end Text

namespace Number

theorem isDigit_of_mem_toDigits {n : Nat} {c : Char} (member : c ∈ Nat.toDigits 10 n) :
    c.isDigit = true :=
  Nat.isDigit_of_mem_toDigits (by decide) (by decide) member

theorem moreDigits_of_ascii {digits : List Char} (all : ∀ c ∈ digits, c.isDigit = true) :
    moreDigits digits = (digits.map fun c => c.toNat - '0'.toNat, []) := by
  induction digits with
  | nil => rfl
  | cons c cs ih =>
      have digit := all c List.mem_cons_self
      have later := ih fun d member => all d (List.mem_cons_of_mem _ member)
      have plain : c ≠ '_' := by
        rintro rfl
        exact absurd digit (by decide)
      rw [moreDigits.eq_3 _ _ (fun _ _ same => absurd same plain),
        Text.digitValue?_of_isDigit digit, later]
      rfl

theorem takeDigits_of_ascii {digits : List Char} (all : ∀ c ∈ digits, c.isDigit = true) :
    takeDigits digits = (digits.map fun c => c.toNat - '0'.toNat, []) := by
  cases digits with
  | nil => rfl
  | cons c cs =>
      have later := moreDigits_of_ascii fun d member => all d (List.mem_cons_of_mem _ member)
      rw [takeDigits, Text.digitValue?_of_isDigit (all c List.mem_cons_self), later]
      rfl

theorem ofDigits_map_ascii (base : Nat) (digits : List Char) :
    ofDigits base (digits.map fun c => c.toNat - '0'.toNat) = Nat.ofDigitChars base digits 0 := by
  rw [ofDigits, List.foldl_map, Nat.ofDigitChars_eq_foldl]
  congr 1
  funext n c
  rw [Nat.mul_comm]

/-- The decimal text of an integer: its digits, after a minus sign if it is negative. -/
theorem toList_intText (n : Int) :
    (intText n).toList =
      if n < 0 then '-' :: Nat.toDigits 10 n.natAbs else Nat.toDigits 10 n.natAbs := by
  rw [intText, String.toList_ofList]

theorem isInteger_intText (n : Int) :
    Lexer.IsInteger (intText n).toList (Nat.toDigits 10 n.natAbs).length := by
  refine ⟨Nat.toDigits 10 n.natAbs, ?_, fun c member => ?_, rfl⟩
  · rw [toList_intText]
    split
    · exact .inr (.inr rfl)
    · exact .inl rfl
  · exact Text.isDigit_of_ascii (isDigit_of_mem_toDigits member)

/-- The decimal text of an integer reads back as the integer. -/
theorem readInteger_intText {n : Int} (short : (Nat.toDigits 10 n.natAbs).length ≤ digitLimit) :
    readInteger (intText n).toList = .ok n := by
  have digits := fun c => @isDigit_of_mem_toDigits n.natAbs c
  have signed : takeSign (intText n).toList = (decide (n < 0), Nat.toDigits 10 n.natAbs) := by
    rw [toList_intText]
    by_cases negative : n < 0
    · rw [if_pos negative, decide_eq_true negative]
      rfl
    · rw [if_neg negative, decide_eq_false negative]
      exact Lexer.takeSign_of_digits fun c member => Text.isDigit_of_ascii (digits c member)
  have magnitude : ofDigits 10 ((Nat.toDigits 10 n.natAbs).map fun c => c.toNat - '0'.toNat) =
      n.natAbs := by
    rw [ofDigits_map_ascii, Nat.ofDigitChars_ten_toDigits]
  rw [readInteger, (isInteger_intText n).trimPadding_eq, signed]
  simp only [takeDigits_of_ascii digits]
  split
  · next nothing =>
      have empty := congrArg (fun read => read.1.length) nothing
      have positive := @Nat.length_toDigits_pos 10 n.natAbs
      simp only [List.length_map, List.length_nil] at empty
      omega
  · next values _ taken =>
      obtain ⟨rfl, -⟩ := Prod.mk.inj taken
      rw [List.length_map, if_neg (by omega), magnitude]
      congr 1
      by_cases negative : n < 0
      · simp only [negative, decide_true, if_true]
        omega
      · simp only [negative, decide_false, Bool.false_eq_true, if_false]
        omega
  · next taken => exact absurd (congrArg Prod.snd taken) (by simp)

/-- A number is at least a power of ten exactly if it has more digits than the exponent counts. -/
theorem pow_ten_le_iff {n digits : Nat} (positive : 0 < digits) :
    Nat.pow 10 digits ≤ n ↔ digits < (Nat.toDigits 10 n).length := by
  have fits := Nat.length_toDigits_le_iff (b := 10) (n := n) (by decide) positive
  rw [Nat.pow_eq]
  omega

theorem intText_eq_toString (n : Int) : intText n = toString n := by
  apply String.toList_inj.mp
  rw [toList_intText]
  cases n with
  | ofNat m =>
      have nonneg : ¬ Int.ofNat m < 0 := Int.not_lt.mpr (Int.natCast_nonneg m)
      rw [if_neg nonneg]
      exact Nat.toList_repr.symm
  | negSucc m =>
      rw [if_pos (Int.negSucc_lt_zero m)]
      change _ = ("-" ++ Nat.repr (m + 1)).toList
      rw [String.toList_append, Nat.toList_repr]
      rfl

end Number

end Promptline
