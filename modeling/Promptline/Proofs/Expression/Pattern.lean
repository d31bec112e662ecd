import Mathlib.Computability.Language
import Promptline.Proofs.Expression.Separated

/-!
# Token patterns

Every pattern of the lexer is a regular language, and what the lexer measures is the longest front
part of a text in that language.  So the lexer reads alike from two texts that have the same front
parts in these languages, and no pattern fits where it measures nothing.
-/

namespace Promptline

namespace Text

theorem extent_append_of_forall {p : Char → Bool} {front : List Char}
    (all : ∀ c ∈ front, p c = true) (rest : List Char) :
    extent p (front ++ rest) = front.length + extent p rest := by
  rw [extent, List.takeWhile_append_of_pos all, List.length_append, extent]

theorem extent_cons_of_false {p : Char → Bool} {c : Char} (other : p c = false)
    (rest : List Char) : extent p (c :: rest) = 0 := by
  simp [extent, other]

end Text

namespace Lexer

open Text (extent signLength)
open scoped Computability

/-! ## Languages -/

/-- The single characters of a class. -/
def single (p : Char → Bool) : Language Char :=
  {text | ∃ c, p c = true ∧ text = [c]}

/-- The character itself. -/
def only (mark : Char) : Language Char :=
  single (· == mark)

/-- At least one text of a language, and then others. -/
def several (language : Language Char) : Language Char :=
  language * language∗

/-- An optional sign. -/
def signs : Language Char :=
  1 + single fun c => c == '+' || c == '-'

/-- Decimal digits of any script. -/
def digits : Language Char :=
  several (single Text.isDigit)

/-- Hexadecimal numbers with their mark. -/
def hexadecimals : Language Char :=
  only '0' * (single (fun c => c == 'x' || c == 'X') * several (single Text.isHexDigit))

/-- Exponents. -/
def exponents : Language Char :=
  single (fun c => c == 'e' || c == 'E') * (signs * digits)

/-- A point with any number of digits behind it. -/
def fractions : Language Char :=
  only '.' * (single Text.isDigit)∗

/-- Decimal numbers without an exponent: there is a digit before or after the point. -/
def mantissas : Language Char :=
  digits * (1 + fractions) + only '.' * digits

/-- Decimal numbers without a sign. -/
def decimals : Language Char :=
  mantissas * (1 + exponents)

/-- Names. -/
def words : Language Char :=
  single Text.isNameStart * (single Text.isWord)∗

/-- A point with a name behind it. -/
def steps : Language Char :=
  only '.' * words

/-- What may stand between the quotation marks of a string: other characters than quotation marks
and line feeds, and any of these but line feeds behind a backslash. -/
def insides : Language Char :=
  (single (fun c => c != '"' && c != '\\' && c != '\n') +
    only '\\' * single (· != '\n'))∗

/-- The texts that belong to a pattern. -/
def Pattern.language : Pattern → Language Char
  | blank => several (single Text.isBlank)
  | number => signs * (hexadecimals + decimals)
  | path => several steps
  | dot => only '.'
  | rootPath => only '$' * steps∗
  | name => words
  | string => only '"' * (insides * only '"')
  | raw => only rawMark * ((single (· != rawMark))∗ * only rawMark)
  | openParen => only '('
  | closeParen => only ')'
  | pipe => only '|'

section Membership

variable {p : Char → Bool} {language : Language Char} {text : List Char}

theorem mem_single_mul :
    text ∈ single p * language ↔ ∃ c rest, p c = true ∧ rest ∈ language ∧ text = c :: rest := by
  rw [Language.mem_mul]
  constructor
  · rintro ⟨_, ⟨c, member, rfl⟩, rest, later, rfl⟩
    exact ⟨c, rest, member, later, rfl⟩
  · rintro ⟨c, rest, member, later, rfl⟩
    exact ⟨[c], ⟨c, member, rfl⟩, rest, later, rfl⟩

theorem mem_only {mark : Char} : text ∈ only mark ↔ text = [mark] := by
  constructor
  · rintro ⟨c, same, rfl⟩
    rw [beq_iff_eq.mp same]
  · rintro rfl
    exact ⟨mark, beq_self_eq_true mark, rfl⟩

theorem mem_only_mul {mark : Char} :
    text ∈ only mark * language ↔ ∃ rest ∈ language, text = mark :: rest := by
  rw [only, mem_single_mul]
  simp

theorem mem_optional : text ∈ 1 + language ↔ text = [] ∨ text ∈ language := by
  rw [Language.mem_add, Language.mem_one]

theorem append_mem_kstar {front back : List Char} (first : front ∈ language)
    (later : back ∈ language∗) : front ++ back ∈ language∗ := by
  rw [← Language.one_add_self_mul_kstar_eq_kstar]
  exact .inr (Language.append_mem_mul first later)

theorem mem_kstar_single : text ∈ (single p)∗ ↔ ∀ c ∈ text, p c = true := by
  constructor
  · rintro ⟨pieces, rfl, singles⟩ c member
    obtain ⟨piece, listed, inside⟩ := List.mem_flatten.mp member
    obtain ⟨d, holds, rfl⟩ := singles piece listed
    rwa [List.mem_singleton.mp inside]
  · intro all
    induction text with
    | nil => exact Language.nil_mem_kstar _
    | cons c text ih =>
        obtain ⟨first, later⟩ := List.forall_mem_cons.mp all
        have alone : [c] ∈ single p := ⟨c, first, rfl⟩
        exact append_mem_kstar alone (ih later)

theorem mem_several_single :
    text ∈ several (single p) ↔ text ≠ [] ∧ ∀ c ∈ text, p c = true := by
  rw [several, mem_single_mul]
  constructor
  · rintro ⟨c, rest, first, later, rfl⟩
    exact ⟨List.cons_ne_nil c rest, List.forall_mem_cons.mpr ⟨first, mem_kstar_single.mp later⟩⟩
  · rintro ⟨nonempty, all⟩
    obtain ⟨c, rest, rfl⟩ := List.exists_cons_of_ne_nil nonempty
    obtain ⟨first, later⟩ := List.forall_mem_cons.mp all
    exact ⟨c, rest, first, mem_kstar_single.mpr later, rfl⟩

theorem mem_digits : text ∈ digits ↔ text ≠ [] ∧ ∀ c ∈ text, Text.isDigit c = true :=
  mem_several_single

theorem mem_signs : text ∈ signs ↔ text = [] ∨ text = ['+'] ∨ text = ['-'] := by
  rw [signs, mem_optional]
  constructor
  · rintro (rfl | ⟨c, sign, rfl⟩)
    · exact .inl rfl
    · rcases Bool.or_eq_true_iff.mp sign with plus | minus
      · rw [beq_iff_eq.mp plus]
        exact .inr (.inl rfl)
      · rw [beq_iff_eq.mp minus]
        exact .inr (.inr rfl)
  · rintro (rfl | rfl | rfl)
    · exact .inl rfl
    · exact .inr ⟨'+', rfl, rfl⟩
    · exact .inr ⟨'-', rfl, rfl⟩

end Membership

/-! ## The longest front part -/

/-- The front part of a text of the given length is the longest one in a language, or there is none
but the empty one. -/
structure Longest (language : Language Char) (cs : List Char) (length : Nat) : Prop where
  /-- The front part is in the language. -/
  mem : 0 < length → cs.take length ∈ language
  /-- None that is in the language is longer. -/
  le : ∀ {text rest}, text ∈ language → cs = text ++ rest → text.length ≤ length

section Runs

variable {p : Char → Bool} {cs text rest : List Char}

theorem take_extent_mem (p : Char → Bool) (cs : List Char) :
    cs.take (extent p cs) ∈ (single p)∗ := by
  rw [Text.take_extent]
  exact mem_kstar_single.mpr fun c member => List.mem_takeWhile_imp member

theorem take_extent_ne_nil (positive : 0 < extent p cs) : cs.take (extent p cs) ≠ [] := by
  have bound := Text.extent_le_length p cs
  apply List.ne_nil_of_length_pos
  rw [List.length_take]
  omega

theorem longest_extent (p : Char → Bool) (cs : List Char) :
    Longest (several (single p)) cs (extent p cs) where
  mem positive :=
    mem_several_single.mpr
      ⟨take_extent_ne_nil positive, mem_kstar_single.mp (take_extent_mem p cs)⟩
  le := by
    rintro text rest member rfl
    rw [Text.extent_append_of_forall (mem_several_single.mp member).2]
    exact Nat.le_add_right _ _

/-- A run ends at the first character of another class. -/
theorem extent_eq_length (all : ∀ c ∈ text, p c = true) {d : Char} (other : p d = false)
    (rest : List Char) : extent p (text ++ d :: rest) = text.length := by
  rw [Text.extent_append_of_forall all, Text.extent_cons_of_false other, Nat.add_zero]

theorem longest_one (mark : Char) (cs : List Char) :
    Longest (only mark) cs (extent (· == mark) (cs.take 1)) where
  mem positive := by
    cases cs with
    | nil => exact absurd positive (Nat.lt_irrefl 0)
    | cons c cs =>
        have one : extent (· == mark) [c] = 1 := by
          have bound := Text.extent_le_length (· == mark) [c]
          exact Nat.le_antisymm bound positive
        rw [List.take_succ_cons, List.take_zero, one]
        refine mem_only.mpr ?_
        by_contra other
        have differs : c ≠ mark := by simpa using other
        simp [extent, differs] at one
  le := by
    rintro text rest member rfl
    rw [mem_only.mp member]
    simp [extent]

end Runs

/-! ## Numbers -/

section Numbers

variable {text cs rest : List Char}

theorem take_signLength_mem (cs : List Char) : cs.take (signLength cs) ∈ signs :=
  mem_signs.mpr (signLength_cases cs)

theorem signLength_append (sign : text ∈ signs) (unsigned : signLength rest = 0) :
    signLength (text ++ rest) = text.length := by
  rcases mem_signs.mp sign with rfl | rfl | rfl
  · exact unsigned
  · rfl
  · rfl

theorem signLength_of_digits_append (digits_mem : text ∈ digits) (rest : List Char) :
    signLength (text ++ rest) = 0 := by
  obtain ⟨nonempty, all⟩ := mem_digits.mp digits_mem
  obtain ⟨c, cs, rfl⟩ := List.exists_cons_of_ne_nil nonempty
  have digit := all c List.mem_cons_self
  rw [List.cons_append, signLength_cons, if_neg]
  rintro (rfl | rfl)
  · exact absurd digit (by decide)
  · exact absurd digit (by decide)

theorem take_add_mem {first second : Language Char} {m n : Nat} (front : cs.take m ∈ first)
    (back : (cs.drop m).take n ∈ second) : cs.take (m + n) ∈ first * second := by
  rw [List.take_add]
  exact Language.append_mem_mul front back

theorem longest_hexLength (cs : List Char) : Longest hexadecimals cs (hexLength cs) where
  mem positive := by
    unfold hexLength at positive ⊢
    split at positive
    · next x cs =>
        split at positive
        · next mark =>
            simp only [mark, if_true] at positive ⊢
            split at positive
            · contradiction
            · next some_digit =>
                rw [if_neg some_digit, Nat.add_comm, List.take_succ_cons, List.take_succ_cons]
                have tail := (longest_extent Text.isHexDigit cs).mem (Nat.pos_of_ne_zero some_digit)
                exact mem_only_mul.mpr
                  ⟨_, mem_single_mul.mpr ⟨x, _, by simpa using mark, tail, rfl⟩, rfl⟩
        · contradiction
    · contradiction
  le := by
    rintro text rest member rfl
    obtain ⟨_, marked, rfl⟩ := mem_only_mul.mp member
    obtain ⟨x, tail, mark, tail_mem, rfl⟩ := mem_single_mul.mp marked
    have nonempty := List.length_pos_iff.mpr (mem_several_single.mp tail_mem).1
    have run := (longest_extent Text.isHexDigit (tail ++ rest)).le tail_mem rfl
    have cased : x = 'x' ∨ x = 'X' := by simpa using mark
    simp only [List.cons_append, hexLength, cased, if_true, List.length_cons]
    rw [if_neg (by omega)]
    omega

/-- The letters of exponents are no digits. -/
theorem isDigit_of_exponentMark {c : Char} (mark : c = 'e' ∨ c = 'E') :
    Text.isDigit c = false := by
  rcases mark with rfl | rfl <;> decide

theorem mem_exponents :
    text ∈ exponents ↔ ∃ c sign ds, (c = 'e' ∨ c = 'E') ∧ sign ∈ signs ∧ ds ∈ digits ∧
      text = c :: (sign ++ ds) := by
  rw [exponents, mem_single_mul]
  constructor
  · rintro ⟨c, _, mark, ⟨sign, sign_mem, ds, digits_mem, rfl⟩, rfl⟩
    exact ⟨c, sign, ds, by simpa using mark, sign_mem, digits_mem, rfl⟩
  · rintro ⟨c, sign, ds, mark, sign_mem, digits_mem, rfl⟩
    exact ⟨c, _, by simpa using mark, Language.append_mem_mul sign_mem digits_mem, rfl⟩

theorem longest_exponentLength (cs : List Char) :
    Longest exponents cs (exponentLength cs) where
  mem positive := by
    unfold exponentLength at positive ⊢
    split at positive
    · next c cs =>
        split at positive
        · next mark =>
            simp only [mark, if_true] at positive ⊢
            split at positive
            · contradiction
            · next some_digit =>
                rw [if_neg some_digit, Nat.add_assoc, Nat.add_comm 1, List.take_succ_cons]
                have tail := (longest_extent Text.isDigit (cs.drop (signLength cs))).mem
                  (Nat.pos_of_ne_zero some_digit)
                have signed := take_add_mem (take_signLength_mem cs) tail
                exact mem_single_mul.mpr ⟨c, _, by simpa using mark, signed, rfl⟩
        · contradiction
    · contradiction
  le := by
    rintro text rest member rfl
    obtain ⟨c, sign, ds, mark, sign_mem, digits_mem, rfl⟩ := mem_exponents.mp member
    have signed := signLength_append sign_mem (signLength_of_digits_append digits_mem rest)
    have run := (longest_extent Text.isDigit (ds ++ rest)).le digits_mem rfl
    have nonempty := List.length_pos_iff.mpr (mem_digits.mp digits_mem).1
    simp only [List.cons_append, List.append_assoc, exponentLength, mark, if_true, signed,
      List.drop_left, List.length_cons, List.length_append]
    rw [if_neg (by omega)]
    omega

/-- An empty front part is no exception where a language is optional. -/
theorem Longest.mem_optional {language : Language Char} {length : Nat}
    (longest : Longest language cs length) : cs.take length ∈ 1 + language := by
  rcases Nat.eq_zero_or_pos length with rfl | positive
  · exact Lexer.mem_optional.mpr (.inl List.take_zero)
  · exact Lexer.mem_optional.mpr (.inr (longest.mem positive))

theorem mem_fractions :
    text ∈ fractions ↔ ∃ ds, (∀ c ∈ ds, Text.isDigit c = true) ∧ text = '.' :: ds := by
  rw [fractions, mem_only_mul]
  simp only [mem_kstar_single]

theorem longest_fractionLength (cs : List Char) :
    Longest fractions cs (fractionLength cs) where
  mem positive := by
    unfold fractionLength at positive ⊢
    split at positive
    · next cs =>
        rw [Nat.add_comm, List.take_succ_cons]
        exact mem_fractions.mpr ⟨_, mem_kstar_single.mp (take_extent_mem Text.isDigit cs), rfl⟩
    · contradiction
  le := by
    rintro text rest member rfl
    obtain ⟨ds, all, rfl⟩ := mem_fractions.mp member
    rw [List.cons_append, fractionLength, Text.extent_append_of_forall all, List.length_cons]
    omega

theorem mem_mantissas :
    text ∈ mantissas ↔
      (text ∈ digits ∨ ∃ whole ∈ digits, ∃ fraction ∈ fractions, text = whole ++ fraction) ∨
        ∃ ds ∈ digits, text = '.' :: ds := by
  rw [mantissas, Language.mem_add, mem_only_mul, Language.mem_mul]
  refine or_congr_left ?_
  constructor
  · rintro ⟨whole, whole_mem, fraction, optional, rfl⟩
    rcases mem_optional.mp optional with rfl | fraction_mem
    · exact .inl (by rwa [List.append_nil])
    · exact .inr ⟨whole, whole_mem, fraction, fraction_mem, rfl⟩
  · rintro (whole_mem | ⟨whole, whole_mem, fraction, fraction_mem, rfl⟩)
    · exact ⟨text, whole_mem, [], mem_optional.mpr (.inl rfl), List.append_nil text⟩
    · exact ⟨whole, whole_mem, fraction, mem_optional.mpr (.inr fraction_mem), rfl⟩

/-- What is measured of a text that starts with a mantissa: at least the mantissa, and no more if an
exponent may follow. -/
theorem mantissa_measured {whole fraction : Nat} (member : text ∈ mantissas)
    (whole_eq : extent Text.isDigit (text ++ rest) = whole)
    (fraction_eq : fractionLength ((text ++ rest).drop whole) = fraction) :
    ¬ (whole = 0 ∧ fraction ≤ 1) ∧ text.length ≤ whole + fraction ∧
      ∀ c tail, rest = c :: tail → c = 'e' ∨ c = 'E' → whole + fraction = text.length := by
  have dot : Text.isDigit '.' = false := by decide
  rcases mem_mantissas.mp member with
    (digits_mem | ⟨ds, digits_mem, _, fraction_mem, rfl⟩) | ⟨ds, digits_mem, rfl⟩
  · obtain ⟨nonempty, all⟩ := mem_digits.mp digits_mem
    have positive := List.length_pos_iff.mpr nonempty
    have run := Text.extent_append_of_forall all rest
    refine ⟨by omega, by omega, ?_⟩
    rintro c tail rfl mark
    rw [Text.extent_cons_of_false (isDigit_of_exponentMark mark), Nat.add_zero, whole_eq] at run
    subst run
    rw [List.drop_left] at fraction_eq
    rcases mark with rfl | rfl <;> exact congrArg (text.length + ·) fraction_eq.symm
  · obtain ⟨nonempty, all⟩ := mem_digits.mp digits_mem
    obtain ⟨fs, fraction_all, rfl⟩ := mem_fractions.mp fraction_mem
    have positive := List.length_pos_iff.mpr nonempty
    rw [List.append_assoc, List.cons_append] at whole_eq fraction_eq
    rw [extent_eq_length all dot] at whole_eq
    subst whole_eq
    rw [List.drop_left, fractionLength, Text.extent_append_of_forall fraction_all] at fraction_eq
    rw [List.length_append, List.length_cons]
    refine ⟨by omega, by omega, ?_⟩
    rintro c tail rfl mark
    rw [Text.extent_cons_of_false (isDigit_of_exponentMark mark)] at fraction_eq
    omega
  · obtain ⟨nonempty, all⟩ := mem_digits.mp digits_mem
    have positive := List.length_pos_iff.mpr nonempty
    rw [List.cons_append] at whole_eq fraction_eq
    rw [Text.extent_cons_of_false dot] at whole_eq
    subst whole_eq
    rw [List.drop_zero, fractionLength, Text.extent_append_of_forall all] at fraction_eq
    rw [List.length_cons]
    refine ⟨by omega, by omega, ?_⟩
    rintro c tail rfl mark
    rw [Text.extent_cons_of_false (isDigit_of_exponentMark mark)] at fraction_eq
    omega

theorem mantissa_mem {whole fraction : Nat} (whole_eq : extent Text.isDigit cs = whole)
    (fraction_eq : fractionLength (cs.drop whole) = fraction)
    (some_digit : ¬ (whole = 0 ∧ fraction ≤ 1)) : cs.take (whole + fraction) ∈ mantissas := by
  have fraction_longest := longest_fractionLength (cs.drop whole)
  rw [fraction_eq] at fraction_longest
  rcases Nat.eq_zero_or_pos whole with rfl | positive
  · rw [List.drop_zero] at fraction_eq
    unfold fractionLength at fraction_eq
    split at fraction_eq
    · next cs =>
        subst fraction_eq
        have tail := (longest_extent Text.isDigit cs).mem (by omega)
        rw [Nat.zero_add, Nat.add_comm, List.take_succ_cons]
        exact mem_mantissas.mpr (.inr ⟨_, tail, rfl⟩)
    · omega
  · have front := (longest_extent Text.isDigit cs).mem (whole_eq ▸ positive)
    rw [whole_eq] at front
    exact .inl (take_add_mem front fraction_longest.mem_optional)

theorem longest_decimalLength (cs : List Char) : Longest decimals cs (decimalLength cs) where
  mem positive := by
    simp only [decimalLength] at positive ⊢
    split at positive
    · contradiction
    · next some_digit =>
        rw [if_neg some_digit]
        exact take_add_mem (mantissa_mem rfl rfl some_digit)
          (longest_exponentLength _).mem_optional
  le := by
    rintro text rest member rfl
    obtain ⟨mantissa, mantissa_mem, exponent, optional, rfl⟩ := member
    simp only [List.append_assoc, decimalLength, List.length_append]
    obtain ⟨some_digit, covered, ends_at⟩ :=
      @mantissa_measured mantissa (exponent ++ rest) _ _ mantissa_mem rfl rfl
    rw [if_neg some_digit]
    rcases mem_optional.mp optional with rfl | exponent_mem
    · rw [List.length_nil]
      omega
    · obtain ⟨c, sign, ds, mark, -, -, shape⟩ := mem_exponents.mp exponent_mem
      have ends := ends_at c (sign ++ ds ++ rest) (by rw [shape, List.cons_append]) mark
      have longest := (longest_exponentLength (exponent ++ rest)).le exponent_mem rfl
      rw [ends, List.drop_left]
      omega

theorem signLength_of_unsigned (member : text ∈ hexadecimals + decimals) (rest : List Char) :
    signLength (text ++ rest) = 0 := by
  rcases member with hex | ⟨mantissa, mantissa_mem, exponent, -, rfl⟩
  · obtain ⟨_, -, rfl⟩ := mem_only_mul.mp hex
    rfl
  · rw [List.append_assoc]
    rcases mem_mantissas.mp mantissa_mem with
      (digits_mem | ⟨ds, digits_mem, fraction, -, rfl⟩) | ⟨ds, -, rfl⟩
    · exact signLength_of_digits_append digits_mem _
    · rw [List.append_assoc]
      exact signLength_of_digits_append digits_mem _
    · rfl

theorem ne_nil_of_unsigned (member : text ∈ hexadecimals + decimals) : text ≠ [] := by
  rcases member with hex | ⟨mantissa, mantissa_mem, exponent, -, rfl⟩
  · obtain ⟨_, -, rfl⟩ := mem_only_mul.mp hex
    exact List.cons_ne_nil _ _
  · refine List.append_ne_nil_of_left_ne_nil ?_ exponent
    rcases mem_mantissas.mp mantissa_mem with
      (digits_mem | ⟨ds, digits_mem, fraction, -, rfl⟩) | ⟨ds, -, rfl⟩
    · exact (mem_digits.mp digits_mem).1
    · exact List.append_ne_nil_of_left_ne_nil (mem_digits.mp digits_mem).1 fraction
    · exact List.cons_ne_nil _ _

/-- Of a hexadecimal number, only the zero is a decimal one. -/
theorem decimalLength_le_hexLength (hex : hexLength cs ≠ 0) :
    decimalLength cs ≤ hexLength cs := by
  have positive := Nat.pos_of_ne_zero hex
  unfold hexLength at hex
  split at hex
  · next x cs =>
      split at hex
      · next mark =>
          have zero : Text.isDigit '0' = true := by decide
          have other : Text.isDigit x = false := by rcases mark with rfl | rfl <;> decide
          have whole : extent Text.isDigit ('0' :: x :: cs) = 1 :=
            @extent_eq_length _ ['0'] (by simpa using zero) x other cs
          have fraction : fractionLength (x :: cs) = 0 := by rcases mark with rfl | rfl <;> rfl
          have exponent : exponentLength (x :: cs) = 0 := by
            rcases mark with rfl | rfl <;> simp [exponentLength]
          have single : decimalLength ('0' :: x :: cs) = 1 := by
            simp [decimalLength, whole, fraction, exponent]
          rw [single]
          exact positive
      · contradiction
  · contradiction

theorem longest_numberLength (cs : List Char) :
    Longest (signs * (hexadecimals + decimals)) cs (numberLength cs) where
  mem positive := by
    have measured := Nat.ne_of_gt positive
    rw [numberLength_eq measured]
    refine take_add_mem (take_signLength_mem cs) ?_
    split
    · next decimal =>
        refine .inr ((longest_decimalLength _).mem (Nat.pos_of_ne_zero fun nothing => measured ?_))
        simp [numberLength, decimal, nothing]
    · next hex => exact .inl ((longest_hexLength _).mem (Nat.pos_of_ne_zero hex))
  le := by
    rintro text rest member rfl
    obtain ⟨sign, sign_mem, body, body_mem, rfl⟩ := Language.mem_mul.mp member
    have signed := signLength_append sign_mem (signLength_of_unsigned body_mem rest)
    have longest : body.length ≤
        if hexLength (body ++ rest) = 0 then decimalLength (body ++ rest)
        else hexLength (body ++ rest) := by
      rcases body_mem with hex | decimal
      · have run := (longest_hexLength (body ++ rest)).le hex rfl
        split
        · omega
        · exact run
      · have run := (longest_decimalLength (body ++ rest)).le decimal rfl
        split
        · exact run
        · next hex => exact Nat.le_trans run (decimalLength_le_hexLength hex)
    have nonempty := List.length_pos_iff.mpr (ne_nil_of_unsigned body_mem)
    simp only [List.append_assoc, numberLength, signed, List.drop_left, List.length_append]
    rw [if_neg (by omega)]
    omega

end Numbers

/-! ## Paths and names -/

section Names

variable {text cs rest : List Char}

theorem mem_words :
    text ∈ words ↔ ∃ c cs, Text.isNameStart c = true ∧ (∀ d ∈ cs, Text.isWord d = true) ∧
      text = c :: cs := by
  rw [words, mem_single_mul]
  simp only [mem_kstar_single]

theorem longest_nameLength (cs : List Char) : Longest words cs (nameLength cs) where
  mem positive := by
    unfold nameLength at positive ⊢
    split at positive
    · next c cs =>
        split at positive
        · next starts =>
            rw [if_pos starts, Nat.add_comm, List.take_succ_cons]
            exact mem_single_mul.mpr ⟨c, _, starts, take_extent_mem Text.isWord cs, rfl⟩
        · contradiction
    · contradiction
  le := by
    rintro text rest member rfl
    obtain ⟨c, cs, starts, all, rfl⟩ := mem_words.mp member
    rw [List.cons_append, nameLength, if_pos starts, Text.extent_append_of_forall all,
      List.length_cons]
    omega

theorem mem_steps :
    text ∈ steps ↔ ∃ c cs, Text.isNameStart c = true ∧ (∀ d ∈ cs, Text.isWord d = true) ∧
      text = '.' :: c :: cs := by
  rw [steps, mem_only_mul]
  constructor
  · rintro ⟨_, member, rfl⟩
    obtain ⟨c, cs, starts, all, rfl⟩ := mem_words.mp member
    exact ⟨c, cs, starts, all, rfl⟩
  · rintro ⟨c, cs, starts, all, rfl⟩
    exact ⟨_, mem_words.mpr ⟨c, cs, starts, all, rfl⟩, rfl⟩

theorem take_pathLength_mem (cs : List Char) : cs.take (pathLength cs) ∈ steps∗ := by
  fun_induction pathLength cs with
  | case1 c cs starts word ih =>
      have front : ('.' :: c :: cs).take (2 + word) ∈ steps := by
        rw [Nat.add_comm, List.take_succ_cons, List.take_succ_cons]
        exact mem_steps.mpr
          ⟨c, _, starts, mem_kstar_single.mp (take_extent_mem Text.isWord cs), rfl⟩
      rw [List.take_add]
      refine append_mem_kstar front ?_
      rwa [Nat.add_comm 2, List.drop_succ_cons, List.drop_succ_cons]
  | case2 => exact Language.nil_mem_kstar _
  | case3 => exact Language.nil_mem_kstar _

theorem steps_cases (member : text ∈ steps∗) : text = [] ∨ ∃ tail, text = '.' :: tail := by
  rw [← Language.one_add_self_mul_kstar_eq_kstar] at member
  refine (mem_optional.mp member).imp_right ?_
  rintro ⟨_, first, later, -, rfl⟩
  obtain ⟨c, cs, -, -, rfl⟩ := mem_steps.mp first
  exact ⟨_, rfl⟩

/-- Steps are measured one after another. -/
theorem length_le_pathLength (member : text ∈ steps∗) (rest : List Char) :
    text.length ≤ pathLength (text ++ rest) := by
  obtain ⟨pieces, rfl, all⟩ := Language.mem_kstar.mp member
  clear member
  induction pieces with
  | nil => exact Nat.zero_le _
  | cons piece pieces ih =>
      obtain ⟨first, later⟩ := List.forall_mem_cons.mp all
      obtain ⟨c, word, starts, word_all, rfl⟩ := mem_steps.mp first
      have covered := ih later
      rw [List.flatten_cons, List.cons_append, List.cons_append, List.cons_append,
        List.cons_append, List.append_assoc, List.length_cons, List.length_cons,
        List.length_append, pathLength, if_pos starts]
      simp only
      -- Either this is the last step, or the point of the next one ends its name.
      rcases steps_cases (Language.join_mem_kstar later) with last | ⟨tail, next⟩
      · have run := Text.extent_append_of_forall word_all (pieces.flatten ++ rest)
        rw [last, List.length_nil]
        rw [last] at run
        omega
      · have dot : Text.isWord '.' = false := by decide
        have run : extent Text.isWord (word ++ (pieces.flatten ++ rest)) = word.length := by
          rw [next, List.cons_append]
          exact extent_eq_length word_all dot _
        rw [run, List.drop_left]
        omega

theorem longest_pathLength (cs : List Char) : Longest (several steps) cs (pathLength cs) where
  mem positive := by
    have member := take_pathLength_mem cs
    rw [← Language.one_add_self_mul_kstar_eq_kstar] at member
    refine (mem_optional.mp member).resolve_left ?_
    apply List.ne_nil_of_length_pos
    have bound := pathLength_le_length cs
    rw [List.length_take]
    omega
  le := by
    rintro text rest ⟨piece, first, _, later, rfl⟩ rfl
    exact length_le_pathLength (append_mem_kstar first later) rest

theorem longest_rootPathLength (cs : List Char) :
    Longest (only '$' * steps∗) cs (rootPathLength cs) where
  mem positive := by
    unfold rootPathLength at positive ⊢
    split at positive
    · next cs =>
        rw [Nat.add_comm, List.take_succ_cons]
        exact mem_only_mul.mpr ⟨_, take_pathLength_mem cs, rfl⟩
    · contradiction
  le := by
    rintro text rest member rfl
    obtain ⟨path, later, rfl⟩ := mem_only_mul.mp member
    have covered := length_le_pathLength later rest
    rw [List.cons_append, rootPathLength, List.length_cons]
    omega

end Names

/-! ## Strings -/

section Strings

variable {text cs rest : List Char}

theorem take_closingLength_mem {length : Nat}
    (closes : Text.JsonString.closingLength cs = some length) :
    cs.take length ∈ insides * only '"' := by
  fun_induction Text.JsonString.closingLength cs generalizing length with
  | case1 => contradiction
  | case2 cs =>
      obtain rfl := Option.some.inj closes
      exact Language.append_mem_mul (Language.nil_mem_kstar _) (mem_only.mpr rfl)
  | case3 => contradiction
  | case4 => contradiction
  | case5 => contradiction
  | case6 c cs unbroken ih =>
      obtain ⟨inner, closed, rfl⟩ := Option.map_eq_some_iff.mp closes
      obtain ⟨front, front_mem, quote, quote_mem, shape⟩ := Language.mem_mul.mp (ih closed)
      have escape : ['\\', c] ∈ only '\\' * single (· != '\n') :=
        mem_only_mul.mpr ⟨[c], ⟨c, by simpa using unbroken, rfl⟩, rfl⟩
      rw [List.take_succ_cons, List.take_succ_cons, ← shape]
      exact Language.append_mem_mul (append_mem_kstar (.inr escape) front_mem) quote_mem
  | case7 c cs unquoted unbroken lone escapes ih =>
      obtain ⟨inner, closed, rfl⟩ := Option.map_eq_some_iff.mp closes
      obtain ⟨front, front_mem, quote, quote_mem, shape⟩ := Language.mem_mul.mp (ih closed)
      have unescaped : c ≠ '\\' := by
        rintro rfl
        cases cs with
        | nil => exact lone rfl rfl
        | cons d cs => exact escapes d cs rfl rfl
      have plain : [c] ∈ single fun c => c != '"' && c != '\\' && c != '\n' :=
        ⟨c, by simp [unescaped, show c ≠ '"' from unquoted, show c ≠ '\n' from unbroken], rfl⟩
      rw [List.take_succ_cons, ← shape]
      exact Language.append_mem_mul (append_mem_kstar (.inl plain) front_mem) quote_mem

/-- What stands before the closing quotation mark does not hide it. -/
theorem closingLength_of_insides (member : text ∈ insides) (rest : List Char) :
    Text.JsonString.closingLength (text ++ '"' :: rest) = some (text.length + 1) := by
  obtain ⟨pieces, rfl, all⟩ := Language.mem_kstar.mp member
  clear member
  induction pieces with
  | nil => rfl
  | cons piece pieces ih =>
      obtain ⟨first, later⟩ := List.forall_mem_cons.mp all
      rw [List.flatten_cons, List.append_assoc, List.length_append, Nat.add_assoc]
      rcases first with ⟨c, plain, rfl⟩ | escape
      · simp only [Bool.and_eq_true, bne_iff_ne] at plain
        obtain ⟨⟨unquoted, unescaped⟩, unbroken⟩ := plain
        rw [List.singleton_append, Text.JsonString.closingLength_of_plain unquoted unbroken
          unescaped, ih later, Option.map_some, List.length_singleton, Nat.add_comm 1]
      · obtain ⟨_, ⟨c, unbroken, rfl⟩, rfl⟩ := mem_only_mul.mp escape
        have broken : c ≠ '\n' := by simpa using unbroken
        rw [List.cons_append, List.singleton_append,
          Text.JsonString.closingLength_of_escape broken, ih later, Option.map_some,
          List.length_cons, List.length_singleton, Nat.add_comm (1 + 1)]

theorem mem_strings :
    text ∈ Pattern.string.language ↔ ∃ inner ∈ insides, text = '"' :: (inner ++ ['"']) := by
  rw [Pattern.language, mem_only_mul]
  constructor
  · rintro ⟨_, ⟨inner, inner_mem, quote, quote_mem, rfl⟩, rfl⟩
    rw [mem_only.mp quote_mem]
    exact ⟨inner, inner_mem, rfl⟩
  · rintro ⟨inner, inner_mem, rfl⟩
    exact ⟨_, Language.append_mem_mul inner_mem (mem_only.mpr rfl), rfl⟩

theorem longest_stringLength (cs : List Char) :
    Longest Pattern.string.language cs (stringLength cs) where
  mem positive := by
    unfold stringLength at positive ⊢
    split at positive
    · next cs =>
        cases closes : Text.JsonString.closingLength cs with
        | none => simp [closes] at positive
        | some length =>
            rw [Option.map_some, Option.getD_some, List.take_succ_cons]
            exact mem_only_mul.mpr ⟨_, take_closingLength_mem closes, rfl⟩
    · contradiction
  le := by
    rintro text rest member rfl
    obtain ⟨inner, inner_mem, rfl⟩ := mem_strings.mp member
    rw [List.cons_append, List.append_assoc, List.singleton_append, stringLength,
      closingLength_of_insides inner_mem rest]
    simp

theorem mem_raws :
    text ∈ Pattern.raw.language ↔ ∃ inner, rawMark ∉ inner ∧
      text = rawMark :: (inner ++ [rawMark]) := by
  have class_iff : ∀ inner : List Char, inner ∈ (single (· != rawMark))∗ ↔ rawMark ∉ inner := by
    intro inner
    rw [mem_kstar_single]
    simp only [bne_iff_ne, ne_eq]
    exact ⟨fun all member => all rawMark member rfl, fun free c member same => free (same ▸ member)⟩
  rw [Pattern.language, mem_only_mul]
  constructor
  · rintro ⟨_, ⟨inner, inner_mem, mark, mark_mem, rfl⟩, rfl⟩
    rw [mem_only.mp mark_mem]
    exact ⟨inner, (class_iff inner).mp inner_mem, rfl⟩
  · rintro ⟨inner, free, rfl⟩
    exact ⟨_, Language.append_mem_mul ((class_iff inner).mpr free) (mem_only.mpr rfl), rfl⟩

theorem longest_rawLength (cs : List Char) : Longest Pattern.raw.language cs (rawLength cs) where
  mem positive := by
    unfold rawLength at positive ⊢
    split at positive
    · next c cs =>
        split at positive
        · next mark =>
            simp only [mark, if_true] at positive ⊢
            split at positive
            · next closed =>
                rw [if_pos closed, List.take_succ_cons]
                obtain ⟨d, stops, shape⟩ := Text.take_extent_succ closed
                have same : d = rawMark := by simpa using stops
                rw [shape, same]
                refine mem_raws.mpr ⟨_, ?_, rfl⟩
                intro member
                have other := List.mem_takeWhile_imp member
                simp at other
            · contradiction
        · contradiction
    · contradiction
  le := by
    rintro text rest member rfl
    obtain ⟨inner, free, rfl⟩ := mem_raws.mp member
    have run := extent_ne_rawMark free rest
    rw [List.cons_append, List.append_assoc, List.singleton_append, rawLength, if_pos rfl, run]
    simp

end Strings

/-! ## Patterns -/

/-- What a pattern measures is the longest front part that belongs to it. -/
theorem Pattern.longest (pattern : Pattern) (cs : List Char) :
    Longest pattern.language cs (pattern.measure cs) := by
  cases pattern with
  | blank => exact longest_extent Text.isBlank cs
  | number => exact longest_numberLength cs
  | path => exact longest_pathLength cs
  | rootPath => exact longest_rootPathLength cs
  | name => exact longest_nameLength cs
  | string => exact longest_stringLength cs
  | raw => exact longest_rawLength cs
  | dot | openParen | closeParen | pipe => exact longest_one _ cs

namespace Pattern

variable {pattern : Pattern} {cs text : List Char} {length bound : Nat}

/-- No pattern fits the empty text. -/
theorem ne_nil_of_mem (member : text ∈ pattern.language) : text ≠ [] := by
  cases pattern with
  | blank => exact (mem_several_single.mp member).1
  | number =>
      obtain ⟨sign, -, body, body_mem, rfl⟩ := Language.mem_mul.mp member
      exact List.append_ne_nil_of_right_ne_nil sign (ne_nil_of_unsigned body_mem)
  | path =>
      obtain ⟨_, first, later, -, rfl⟩ := Language.mem_mul.mp member
      obtain ⟨c, cs, -, -, rfl⟩ := mem_steps.mp first
      exact List.cons_ne_nil _ _
  | name =>
      obtain ⟨c, cs, -, -, rfl⟩ := mem_words.mp member
      exact List.cons_ne_nil _ _
  | rootPath | string | raw =>
      obtain ⟨rest, -, rfl⟩ := mem_only_mul.mp member
      exact List.cons_ne_nil _ _
  | dot | openParen | closeParen | pipe =>
      rw [mem_only.mp member]
      exact List.cons_ne_nil _ _

theorem measure_take_le (pattern : Pattern) (cs : List Char) (bound : Nat) :
    pattern.measure (cs.take bound) ≤ pattern.measure cs := by
  rcases Nat.eq_zero_or_pos (pattern.measure (cs.take bound)) with nothing | positive
  · exact nothing ▸ Nat.zero_le _
  · have within := measure_le_length pattern (cs.take bound)
    have front := (pattern.longest (cs.take bound)).mem positive
    obtain ⟨rest, shape⟩ : (cs.take bound).take (pattern.measure (cs.take bound)) <+: cs :=
      (List.take_prefix _ _).trans (List.take_prefix _ _)
    have longest := (pattern.longest cs).le front shape.symm
    rwa [List.length_take_of_le within] at longest

/-- What stands behind the measured front part does not matter. -/
theorem measure_take (within : pattern.measure cs ≤ bound) :
    pattern.measure (cs.take bound) = pattern.measure cs := by
  refine Nat.le_antisymm (measure_take_le pattern cs bound) ?_
  rcases Nat.eq_zero_or_pos (pattern.measure cs) with nothing | positive
  · exact nothing ▸ Nat.zero_le _
  · have front := (pattern.longest cs).mem positive
    obtain ⟨rest, shape⟩ : cs.take (pattern.measure cs) <+: cs.take bound :=
      List.take_prefix_take_left within
    have longest := (pattern.longest (cs.take bound)).le front shape.symm
    rwa [List.length_take_of_le (measure_le_length pattern cs)] at longest

/-- The first pattern that fits is the same one in a text that is cut behind what it measures. -/
theorem first?_take (first : first? cs = some (pattern, length)) (within : length ≤ bound) :
    first? (cs.take bound) = some (pattern, length) := by
  obtain ⟨measured, positive⟩ := measure_of_first? first
  rw [first?, List.find?_map, Option.map_eq_some_iff] at first ⊢
  obtain ⟨_, found, same⟩ := first
  cases same
  refine ⟨pattern, ?_, by rw [measure_take within]⟩
  rw [List.find?_eq_some_iff_append] at found ⊢
  obtain ⟨fits, before, after, order_eq, skipped⟩ := found
  refine ⟨by simpa [measure_take within] using fits, before, after, order_eq, ?_⟩
  intro other listed
  have nothing := skipped other listed
  have less := measure_take_le other cs bound
  simp at nothing ⊢
  omega

theorem first?_append_left {front back : List Char}
    (first : first? (text ++ (front ++ back)) = some (pattern, text.length)) :
    first? (text ++ front) = some (pattern, text.length) := by
  have cut := first?_take first (Nat.le_add_right text.length front.length)
  rwa [← List.append_assoc, ← List.length_append, List.take_left] at cut

theorem mem_order (pattern : Pattern) : pattern ∈ order := by
  cases pattern <;> decide

/-- No pattern is found exactly if none fits any front part of the text. -/
theorem first?_eq_none_iff :
    first? cs = none ↔ ∀ (pattern : Pattern), ∀ text ∈ pattern.language, ¬ text <+: cs := by
  rw [first?, List.find?_eq_none]
  constructor
  · rintro nothing pattern text member ⟨rest, shape⟩
    have zero := nothing _ (List.mem_map_of_mem pattern.mem_order)
    have longest := (pattern.longest cs).le member shape.symm
    have some_char := List.length_pos_iff.mpr (ne_nil_of_mem member)
    simp at zero
    omega
  · intro free hit listed
    obtain ⟨pattern, -, rfl⟩ := List.mem_map.mp listed
    intro positive
    have front := (pattern.longest cs).mem (by simpa using positive)
    exact free pattern _ front (List.take_prefix _ _)

/-- The text that the first pattern measures belongs to it. -/
theorem mem_of_first? (first : first? cs = some (pattern, length)) :
    cs.take length ∈ pattern.language := by
  obtain ⟨rfl, positive⟩ := measure_of_first? first
  exact (pattern.longest cs).mem positive

end Pattern

end Lexer

end Promptline
