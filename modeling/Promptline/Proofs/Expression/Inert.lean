import Mathlib
import Promptline.Proofs.Answer
import Promptline.Proofs.Expression.LongInteger
import Promptline.Proofs.Text.Run

/-!
# Characters that delimit nothing

Apart from strings, no token and no white space holds a quotation mark or a closing brace.  So
whoever looks for the end of an action need not know the tokens inside it.  A text that starts with
a name has that name as its first token.
-/

namespace Promptline

namespace Text

/-- The first character of a name is an ASCII letter or an underscore. -/
theorem range_of_isNameStart {c : Char} (starts : isNameStart c = true) :
    65 ≤ c.toNat ∧ c.toNat ≤ 122 := by
  simp only [isNameStart, Char.isAlpha, Char.isUpper, Char.isLower, ge_iff_le, Bool.or_eq_true,
    Bool.and_eq_true, decide_eq_true_eq, beq_iff_eq, UInt32.le_iff_toNat_le] at starts
  rcases starts with (⟨low, high⟩ | ⟨low, high⟩) | rfl
  · exact ⟨low, Nat.le_trans high (by decide)⟩
  · exact ⟨Nat.le_trans (by decide) low, high⟩
  · decide

theorem isBlank_eq_false_of_isNameStart {c : Char} (starts : isNameStart c = true) :
    isBlank c = false := by
  have outside : ∀ interval ∈ blankSet.intervals, interval.2 < 65 ∨ 122 < interval.1 := by decide
  have range := range_of_isNameStart starts
  rw [isBlank, CharSet.contains, List.any_eq_false]
  intro interval listed
  have apart := outside interval listed
  simp only [Bool.and_eq_true, decide_eq_true_eq]
  omega

theorem isDigit_eq_false_of_isNameStart {c : Char} (starts : isNameStart c = true) :
    isDigit c = false := by
  have outside : ∀ base ∈ zeros, base + 10 ≤ 65 ∨ 122 < base := by decide
  have range := range_of_isNameStart starts
  rw [Bool.eq_false_iff]
  intro digit
  obtain ⟨base, listed, low, high⟩ := exists_zero_of_isDigit digit
  have apart := outside base listed
  omega

end Text

namespace Lexer

open Text (extent take_extent signLength)

/-- The characters that decide where an action ends: the brace that closes it, and the marks of
strings. -/
def delimiters : List Char := ['}', '"', rawMark]

/-- A text without delimiters. -/
def Inert (text : List Char) : Prop := ∀ c ∈ text, c ∉ delimiters

theorem inert_nil : Inert [] := by
  simp [Inert]

theorem Inert.cons {c : Char} {text : List Char} (outside : c ∉ delimiters)
    (inert : Inert text) : Inert (c :: text) := by
  intro d member
  rcases List.mem_cons.mp member with rfl | later
  · exact outside
  · exact inert d later

theorem Inert.append {front back : List Char} (inert_front : Inert front)
    (inert_back : Inert back) : Inert (front ++ back) := by
  intro c member
  exact (List.mem_append.mp member).elim (inert_front c) (inert_back c)

theorem inert_take_add {cs : List Char} {first second : Nat} (inert_front : Inert (cs.take first))
    (inert_back : Inert ((cs.drop first).take second)) : Inert (cs.take (first + second)) := by
  rw [List.take_add]
  exact inert_front.append inert_back

section Classes

variable {p : Char → Bool}

theorem not_mem_delimiters (apart : ∀ mark ∈ delimiters, p mark = false) {c : Char}
    (inside : p c = true) : c ∉ delimiters := by
  intro listed
  rw [apart c listed] at inside
  contradiction

theorem inert_of_forall (apart : ∀ mark ∈ delimiters, p mark = false) {text : List Char}
    (all : ∀ c ∈ text, p c = true) : Inert text :=
  fun c member => not_mem_delimiters apart (all c member)

theorem inert_extent (apart : ∀ mark ∈ delimiters, p mark = false) (cs : List Char) :
    Inert (cs.take (extent p cs)) := by
  rw [take_extent]
  exact inert_of_forall apart fun c member => List.all_eq_true.mp List.all_takeWhile c member

theorem inert_extent_one (apart : ∀ mark ∈ delimiters, p mark = false) (cs : List Char) :
    Inert (cs.take (extent p (cs.take 1))) := by
  have short := Text.extent_le_length p (cs.take 1)
  have inside := inert_extent apart (cs.take 1)
  rw [List.length_take] at short
  rwa [List.take_take, Nat.min_eq_left (by omega)] at inside

end Classes

theorem apart_of_all {p : Char → Bool} (all : delimiters.all (fun mark => !p mark) = true) :
    ∀ mark ∈ delimiters, p mark = false := by
  simpa using all

theorem blank_apart : ∀ mark ∈ delimiters, Text.isBlank mark = false :=
  apart_of_all (by decide)

theorem digit_apart : ∀ mark ∈ delimiters, Text.isDigit mark = false :=
  apart_of_all (by decide)

theorem hexDigit_apart : ∀ mark ∈ delimiters, Text.isHexDigit mark = false :=
  apart_of_all (by decide)

theorem word_apart : ∀ mark ∈ delimiters, Text.isWord mark = false :=
  apart_of_all (by decide)

theorem nameStart_apart : ∀ mark ∈ delimiters, Text.isNameStart mark = false :=
  apart_of_all (by decide)

/-! ## Numbers -/

theorem inert_sign (cs : List Char) : Inert (cs.take (signLength cs)) := by
  rcases signLength_cases cs with none | plus | minus
  · rw [none]
    exact inert_nil
  · rw [plus]
    exact inert_nil.cons (by decide)
  · rw [minus]
    exact inert_nil.cons (by decide)

theorem inert_exponent (cs : List Char) : Inert (cs.take (exponentLength cs)) := by
  unfold exponentLength
  split
  · next c cs =>
      split
      · next mark =>
          simp only
          split
          · exact inert_nil
          · have outside : c ∉ delimiters := by rcases mark with rfl | rfl <;> decide
            rw [Nat.add_assoc, Nat.add_comm 1, List.take_succ_cons]
            exact .cons outside (inert_take_add (inert_sign cs) (inert_extent digit_apart _))
      · exact inert_nil
  · exact inert_nil

theorem inert_hex (cs : List Char) : Inert (cs.take (hexLength cs)) := by
  unfold hexLength
  split
  · next x cs =>
      split
      · next mark =>
          simp only
          split
          · exact inert_nil
          · have outside : x ∉ delimiters := by rcases mark with rfl | rfl <;> decide
            rw [Nat.add_comm, List.take_succ_cons, List.take_succ_cons]
            exact .cons (by decide) (.cons outside (inert_extent hexDigit_apart cs))
      · exact inert_nil
  · exact inert_nil

theorem inert_fraction (cs : List Char) : Inert (cs.take (fractionLength cs)) := by
  unfold fractionLength
  split
  · next cs =>
      rw [Nat.add_comm, List.take_succ_cons]
      exact .cons (by decide) (inert_extent digit_apart cs)
  · exact inert_nil

theorem inert_decimal (cs : List Char) : Inert (cs.take (decimalLength cs)) := by
  unfold decimalLength
  simp only
  split
  · exact inert_nil
  · refine inert_take_add (inert_take_add (inert_extent digit_apart cs) (inert_fraction _)) ?_
    exact inert_exponent _

theorem inert_number (cs : List Char) : Inert (cs.take (numberLength cs)) := by
  by_cases none : numberLength cs = 0
  · rw [none]
    exact inert_nil
  · rw [numberLength_eq none]
    refine inert_take_add (inert_sign cs) ?_
    split
    · exact inert_decimal _
    · exact inert_hex _

/-! ## Names and paths -/

theorem inert_path (cs : List Char) : Inert (cs.take (pathLength cs)) := by
  fun_induction pathLength cs with
  | case1 c cs starts word ih =>
      have total (more : Nat) : 2 + word + more = word + more + 1 + 1 := by omega
      rw [total, List.take_succ_cons, List.take_succ_cons]
      refine .cons (by decide) (.cons (not_mem_delimiters nameStart_apart starts) ?_)
      exact inert_take_add (inert_extent word_apart cs) ih
  | case2 => exact inert_nil
  | case3 => exact inert_nil

theorem inert_rootPath (cs : List Char) : Inert (cs.take (rootPathLength cs)) := by
  unfold rootPathLength
  split
  · next cs =>
      rw [Nat.add_comm, List.take_succ_cons]
      exact .cons (by decide) (inert_path cs)
  · exact inert_nil

theorem inert_name (cs : List Char) : Inert (cs.take (nameLength cs)) := by
  unfold nameLength
  split
  · next c cs =>
      split
      · next starts =>
          rw [Nat.add_comm, List.take_succ_cons]
          exact .cons (not_mem_delimiters nameStart_apart starts) (inert_extent word_apart cs)
      · exact inert_nil
  · exact inert_nil

/-- Only strings hold delimiters. -/
theorem inert_measure (cs : List Char) {pattern : Pattern}
    (plain : pattern ≠ .string ∧ pattern ≠ .raw) : Inert (cs.take (pattern.measure cs)) := by
  cases pattern with
  | blank => exact inert_extent blank_apart cs
  | number => exact inert_number cs
  | path => exact inert_path cs
  | rootPath => exact inert_rootPath cs
  | name => exact inert_name cs
  | string => exact absurd rfl plain.1
  | raw => exact absurd rfl plain.2
  | dot => exact inert_extent_one (apart_of_all (by decide)) cs
  | openParen => exact inert_extent_one (apart_of_all (by decide)) cs
  | closeParen => exact inert_extent_one (apart_of_all (by decide)) cs
  | pipe => exact inert_extent_one (apart_of_all (by decide)) cs

/-! ## The first token -/

/-- The tokens of a text that is not empty are what its first pattern gives, and those of the rest.
-/
theorem tokensFrom_eq_ok {offset : Nat} {cs : List Char} {tokens : List Token} (nonempty : cs ≠ [])
    (lexed : tokensFrom offset cs = .ok tokens) :
    ∃ pattern length lexeme later,
      Pattern.first? cs = some (pattern, length) ∧ 0 < length ∧
        decode (cs.take length) pattern = .ok lexeme ∧
        tokensFrom (offset + length) (cs.drop length) = .ok later ∧
        tokens = (lexeme.map fun lexeme => ⟨lexeme, cs.take length, offset⟩).toList ++ later := by
  obtain ⟨c, cs, rfl⟩ := List.exists_cons_of_ne_nil nonempty
  rw [tokensFrom] at lexed
  split at lexed
  · contradiction
  · next pattern length hit =>
      have positive := (Pattern.measure_of_first? hit).2
      have rest : (c :: cs).drop length = cs.drop (length - 1) := List.drop_cons positive
      obtain ⟨lexeme, decoded, continues⟩ := bind_eq_ok_iff.mp lexed
      obtain ⟨later, behind, same⟩ := bind_eq_ok_iff.mp continues
      refine ⟨pattern, length, lexeme, later, hit, positive, decoded, ?_, ?_⟩
      · rw [rest, behind]
      · cases lexeme <;> exact (Except.ok.inj same).symm

/-- A text that starts like a name starts with a name. -/
theorem Pattern.first?_of_isNameStart {c : Char} (starts : Text.isNameStart c = true)
    (cs : List Char) : Pattern.first? (c :: cs) = some (.name, 1 + extent Text.isWord cs) := by
  have other (d : Char) (fails : Text.isNameStart d = false) : c ≠ d := by
    rintro rfl
    rw [fails] at starts
    contradiction
  have unblank := Text.isBlank_eq_false_of_isNameStart starts
  have undigit := Text.isDigit_eq_false_of_isNameStart starts
  have sign : signLength (c :: cs) = 0 := by
    simp [signLength, other '+' (by decide), other '-' (by decide)]
  have hex : hexLength (c :: cs) = 0 := by simp [hexLength, other '0' (by decide)]
  have decimal : decimalLength (c :: cs) = 0 := by
    simp [decimalLength, extent, undigit, fractionLength, other '.' (by decide)]
  have path : pathLength (c :: cs) = 0 := by simp [pathLength, other '.' (by decide)]
  have positive : 0 < 1 + (cs.takeWhile Text.isWord).length := by omega
  simp [Pattern.first?, Pattern.order, Pattern.measure, numberLength, sign, hex, decimal, path,
    extent, unblank, rootPathLength, nameLength, starts, positive, other '.' (by decide),
    other '$' (by decide)]

end Lexer

end Promptline
