import Promptline.Expression.Parser

/-!
# Integers that are too long to be read

A decimal integer with more digits than the limit is no parse error: it stops the reading of the
whole expression.  That happens exactly when the lexer gets to such an integer, so what stands
after it or after a malformed token does not matter.
-/

namespace Promptline

namespace Text

theorem trimWhile_of_forall {p : Char → Bool} {cs : List Char} (none : ∀ c ∈ cs, p c = false) :
    trimWhile p cs = cs := by
  have front : cs.dropWhile p = cs := by
    cases cs with
    | nil => rfl
    | cons c cs => simp [none c List.mem_cons_self]
  have back : cs.reverse.dropWhile p = cs.reverse := by
    cases reversed : cs.reverse with
    | nil => rfl
    | cons c rest =>
        have member : c ∈ cs := List.mem_reverse.mp (reversed ▸ List.mem_cons_self)
        simp [none c member]
  rw [trimWhile, front, dropEndWhile, back, List.reverse_reverse]

/-- White space and digits of every script are apart. -/
theorem blank_apart_from_digits :
    ∀ interval ∈ blankSet.intervals, ∀ base ∈ zeros,
      interval.2 < base ∨ base + 10 ≤ interval.1 := by
  decide

theorem exists_zero_of_isDigit {c : Char} (digit : isDigit c = true) :
    ∃ base ∈ zeros, base ≤ c.toNat ∧ c.toNat < base + 10 := by
  rw [isDigit, digitValue?] at digit
  split at digit
  · split at digit
    · next ascii =>
        simp only [Char.isDigit, ge_iff_le, Bool.and_eq_true, decide_eq_true_eq,
          UInt32.le_iff_toNat_le] at ascii
        exact ⟨0x0030, List.mem_cons_self, ascii.1, Nat.lt_succ_of_le ascii.2⟩
    · contradiction
  · rw [Option.isSome_map, List.find?_isSome] at digit
    obtain ⟨base, member, inside⟩ := digit
    exact ⟨base, member, by simpa using inside⟩

theorem isBlank_eq_false_of_isDigit {c : Char} (digit : isDigit c = true) : isBlank c = false := by
  obtain ⟨base, member, low, high⟩ := exists_zero_of_isDigit digit
  rw [isBlank, CharSet.contains, List.any_eq_false]
  intro interval listed
  have apart := blank_apart_from_digits interval listed base member
  simp only [Bool.and_eq_true, decide_eq_true_eq]
  omega

end Text

namespace Number

theorem moreDigits_of_digits {digits : List Char}
    (all : ∀ c ∈ digits, Text.isDigit c = true) :
    ∃ values, moreDigits digits = (values, []) ∧ values.length = digits.length := by
  induction digits with
  | nil => exact ⟨[], rfl, rfl⟩
  | cons c cs ih =>
      obtain ⟨values, taken, length⟩ := ih fun d member => all d (List.mem_cons_of_mem _ member)
      have digit := all c List.mem_cons_self
      obtain ⟨value, decoded⟩ := Option.isSome_iff_exists.mp digit
      have plain : c ≠ '_' := by
        rintro rfl
        exact absurd digit (by decide)
      refine ⟨value :: values, ?_, by simp [length]⟩
      rw [moreDigits.eq_3 _ _ (fun _ _ same => absurd same plain), decoded, taken]

theorem takeDigits_of_digits {digits : List Char}
    (all : ∀ c ∈ digits, Text.isDigit c = true) :
    ∃ values, takeDigits digits = (values, []) ∧ values.length = digits.length := by
  cases digits with
  | nil => exact ⟨[], rfl, rfl⟩
  | cons c cs =>
      obtain ⟨values, taken, length⟩ :=
        moreDigits_of_digits fun d member => all d (List.mem_cons_of_mem _ member)
      obtain ⟨value, decoded⟩ := Option.isSome_iff_exists.mp (all c List.mem_cons_self)
      refine ⟨value :: values, ?_, by simp [length]⟩
      rw [takeDigits, decoded, taken]

end Number

namespace Lexer

open Text (extent signLength)

/-- The text of a decimal integer: an optional sign and a number of digits of any script. -/
def IsInteger (text : List Char) (count : Nat) : Prop :=
  ∃ digits, (text = digits ∨ text = '+' :: digits ∨ text = '-' :: digits) ∧
    (∀ c ∈ digits, Text.isDigit c = true) ∧ digits.length = count

theorem IsInteger.not_mem {text : List Char} {count : Nat} (integer : IsInteger text count)
    {c : Char} (unsigned : c ≠ '+' ∧ c ≠ '-') (other : Text.isDigit c = false) : c ∉ text := by
  obtain ⟨digits, shape, all, -⟩ := integer
  have outside : c ∉ digits := fun member => by simp [all c member] at other
  rcases shape with rfl | rfl | rfl <;> simp [unsigned, outside]

/-- An integer has no white space in it. -/
theorem IsInteger.isBlank_eq_false {text : List Char} {count : Nat}
    (integer : IsInteger text count) {c : Char} (member : c ∈ text) : Text.isBlank c = false := by
  obtain ⟨digits, shape, all, -⟩ := integer
  rcases shape with rfl | rfl | rfl
  · exact Text.isBlank_eq_false_of_isDigit (all c member)
  all_goals
    rcases List.mem_cons.mp member with rfl | later
    · decide
    · exact Text.isBlank_eq_false_of_isDigit (all c later)

theorem IsInteger.trimBlank_eq {text : List Char} {count : Nat} (integer : IsInteger text count) :
    Text.trimBlank text = text :=
  Text.trimWhile_of_forall fun _ => integer.isBlank_eq_false

theorem IsInteger.trimPadding_eq {text : List Char} {count : Nat} (integer : IsInteger text count) :
    Text.trimPadding text = text := by
  apply Text.trimWhile_of_forall
  intro c member
  rw [Text.isPadding, integer.isBlank_eq_false member, Bool.false_and]

theorem takeSign_of_digits {digits : List Char} (all : ∀ c ∈ digits, Text.isDigit c = true) :
    Number.takeSign digits = (false, digits) := by
  unfold Number.takeSign
  split
  · next rest => exact absurd (all '-' List.mem_cons_self) (by decide)
  · next rest => exact absurd (all '+' List.mem_cons_self) (by decide)
  · rfl

/-- An integer cannot be read exactly if it has more digits than the limit. -/
theorem IsInteger.readInteger_eq_tooLong_iff {text : List Char} {count : Nat}
    (integer : IsInteger text count) (limit : Nat) :
    Number.readInteger text = .error (.tooLong limit) ↔
      limit = count ∧ Number.digitLimit < count := by
  have trimmed := integer.trimPadding_eq
  obtain ⟨digits, shape, all, length⟩ := integer
  obtain ⟨values, taken, same⟩ := Number.takeDigits_of_digits all
  have signed : ∃ negative, Number.takeSign text = (negative, digits) := by
    rcases shape with rfl | rfl | rfl
    · exact ⟨false, takeSign_of_digits all⟩
    · exact ⟨false, rfl⟩
    · exact ⟨true, rfl⟩
  obtain ⟨negative, signed⟩ := signed
  rw [Number.readInteger, trimmed, signed]
  simp only [taken]
  cases values with
  | nil =>
      rw [List.length_nil] at same
      have short : ¬ Number.digitLimit < count := by omega
      simp [short]
  | cons value rest =>
      simp only [gt_iff_lt, same, length]
      split
      · next long => simp [long, eq_comm]
      · next short => simp [short]

/-- The characters that tell the text of another number from that of a decimal integer. -/
def marks : List Char := ['x', 'X', '.', 'e', 'E']

theorem marks_apart :
    ∀ mark ∈ marks, (mark ≠ '+' ∧ mark ≠ '-') ∧ Text.isDigit mark = false := by
  intro mark listed
  simp only [marks, List.mem_cons, List.not_mem_nil, or_false] at listed
  rcases listed with rfl | rfl | rfl | rfl | rfl <;> exact ⟨by decide, by decide⟩

/-- A decimal integer has the value that reading it gives. -/
theorem IsInteger.numberValue_eq {text : List Char} {count : Nat}
    (integer : IsInteger text count) :
    numberValue text =
      match Number.readInteger text with
      | .ok n => .ok (.int n)
      | .error (.tooLong digits) => .error (.tooLong (.reading digits))
      | .error .malformed => .ok (.int 0) := by
  have unmarked : ∀ mark ∈ marks, ∀ c ∈ text, (c == mark) = false := by
    intro mark listed c member
    obtain ⟨unsigned, other⟩ := marks_apart mark listed
    exact beq_false_of_ne fun same => integer.not_mem unsigned other (same ▸ member)
  have decimal : (text.any fun c => c == 'x' || c == 'X') = false := by
    rw [List.any_eq_false]
    intro c member
    simp [unmarked 'x' (by decide) c member, unmarked 'X' (by decide) c member]
  have whole : (text.any fun c => c == '.' || c == 'e' || c == 'E') = false := by
    rw [List.any_eq_false]
    intro c member
    simp [unmarked '.' (by decide) c member, unmarked 'e' (by decide) c member,
      unmarked 'E' (by decide) c member]
  rw [numberValue, decimal, whole]
  rfl

theorem IsInteger.numberValue_eq_tooLong_iff {text : List Char} {count : Nat}
    (integer : IsInteger text count) (limit : DigitLimit) :
    numberValue text = .error (.tooLong limit) ↔
      limit = .reading count ∧ Number.digitLimit < count := by
  have reads : numberValue text = .error (.tooLong limit) ↔
      ∃ digits, limit = .reading digits ∧
        Number.readInteger text = .error (.tooLong digits) := by
    rw [integer.numberValue_eq]
    cases Number.readInteger text with
    | ok n => simp
    | error fault => cases fault <;> simp [eq_comm]
  rw [reads]
  constructor
  · rintro ⟨digits, rfl, stopped⟩
    obtain ⟨rfl, long⟩ := (integer.readInteger_eq_tooLong_iff digits).mp stopped
    exact ⟨rfl, long⟩
  · rintro ⟨rfl, long⟩
    exact ⟨count, rfl, (integer.readInteger_eq_tooLong_iff count).mpr ⟨rfl, long⟩⟩

/-- A number's text that holds one of the marks can be read. -/
theorem numberValue_ne_error_of_mark {text : List Char} {mark : Char} (listed : mark ∈ marks)
    (member : mark ∈ text) (fault : LexFault) : numberValue text ≠ .error fault := by
  unfold numberValue
  split
  · simp
  · next decimal =>
      split
      · simp
      · next whole =>
          simp only [Bool.not_eq_true, List.any_eq_false, Bool.or_eq_false_iff,
            beq_eq_false_iff_ne] at decimal whole
          have apart := decimal mark member
          have also_apart := whole mark member
          simp [marks, apart, also_apart] at listed

theorem hexLength_mark {cs : List Char} (hex : hexLength cs ≠ 0) :
    ∃ mark ∈ marks, mark ∈ cs.take (hexLength cs) := by
  unfold hexLength at hex ⊢
  split at hex
  · next x rest =>
      split at hex
      · next mark =>
          refine ⟨x, ?_, ?_⟩
          · rcases mark with rfl | rfl <;> decide
          · simp only [mark, if_true]
            split
            · next zero => simp [zero] at hex
            · rw [Nat.add_comm]
              simp
      · contradiction
  · contradiction

theorem mem_take_of_drop {c : Char} {cs rest : List Char} {start length : Nat}
    (shape : cs.drop start = c :: rest) (within : start < length) : c ∈ cs.take length := by
  obtain ⟨extra, rfl⟩ := Nat.exists_eq_add_of_lt within
  rw [Nat.add_assoc, List.take_add, shape, List.take_succ_cons]
  simp

theorem decimalLength_cases {cs : List Char} (decimal : decimalLength cs ≠ 0) :
    (∃ mark ∈ marks, mark ∈ cs.take (decimalLength cs)) ∨
      ∀ c ∈ cs.take (decimalLength cs), Text.isDigit c = true := by
  unfold decimalLength at decimal ⊢
  simp only at decimal ⊢
  split at decimal
  · contradiction
  · next some_digit =>
      rw [if_neg some_digit]
      by_cases fraction : fractionLength (cs.drop (extent Text.isDigit cs)) = 0
      · by_cases exponent : exponentLength (cs.drop (extent Text.isDigit cs)) = 0
        · right
          intro c member
          have front := List.prefix_iff_eq_take.mp (List.takeWhile_prefix Text.isDigit (l := cs))
          rw [fraction, Nat.add_zero, exponent, Nat.add_zero, extent, ← front] at member
          exact List.all_eq_true.mp List.all_takeWhile c member
        · left
          cases tail : cs.drop (extent Text.isDigit cs) with
          | nil => simp [tail, exponentLength] at exponent
          | cons c rest =>
              have mark : c = 'e' ∨ c = 'E' := Decidable.byContradiction fun other => by
                simp [tail, exponentLength, other] at exponent
              refine ⟨c, ?_, mem_take_of_drop tail ?_⟩
              · rcases mark with rfl | rfl <;> decide
              · rw [← tail, fraction, Nat.add_zero]
                omega
      · left
        unfold fractionLength at fraction
        split at fraction
        · next tail =>
            refine ⟨'.', by decide, mem_take_of_drop tail ?_⟩
            rw [tail, fractionLength]
            omega
        · contradiction

theorem signLength_cases (cs : List Char) :
    cs.take (signLength cs) = [] ∨ cs.take (signLength cs) = ['+'] ∨
      cs.take (signLength cs) = ['-'] := by
  unfold signLength
  split <;> simp

theorem numberLength_eq {cs : List Char} (number : numberLength cs ≠ 0) :
    numberLength cs = signLength cs +
      if hexLength (cs.drop (signLength cs)) = 0 then decimalLength (cs.drop (signLength cs))
      else hexLength (cs.drop (signLength cs)) := by
  simp only [numberLength] at number ⊢
  exact if_neg fun nothing => number (if_pos nothing)

/-- A measured number either holds one of the marks or is a decimal integer. -/
theorem numberLength_cases {cs : List Char} (number : numberLength cs ≠ 0) :
    (∃ mark ∈ marks, mark ∈ cs.take (numberLength cs)) ∨
      ∃ count, IsInteger (cs.take (numberLength cs)) count := by
  have measured : ¬ (hexLength (cs.drop (signLength cs)) = 0 ∧
      decimalLength (cs.drop (signLength cs)) = 0) := fun nothing =>
    number (by simp [numberLength, nothing])
  rw [numberLength_eq number, List.take_add]
  split
  · next decimal =>
      rcases decimalLength_cases fun nothing => measured ⟨decimal, nothing⟩ with
        ⟨mark, listed, member⟩ | all
      · exact .inl ⟨mark, listed, List.mem_append_right _ member⟩
      · right
        refine ⟨_, _, ?_, all, rfl⟩
        rcases signLength_cases cs with none | plus | minus
        · simp [none]
        · simp [plus]
        · simp [minus]
  · next hex =>
      obtain ⟨mark, listed, member⟩ := hexLength_mark hex
      exact .inl ⟨mark, listed, List.mem_append_right _ member⟩

theorem Pattern.measure_of_first? {cs : List Char} {pattern : Pattern} {length : Nat}
    (hit : Pattern.first? cs = some (pattern, length)) :
    length = pattern.measure cs ∧ 0 < length := by
  have listed := List.mem_of_find?_eq_some hit
  have positive := List.find?_some hit
  obtain ⟨_, -, same⟩ := List.mem_map.mp listed
  cases same
  exact ⟨rfl, by simpa using positive⟩

/-- The next token of a text is an integer with too many digits. -/
def StartsLong (cs : List Char) (count : Nat) : Prop :=
  ∃ length, Pattern.first? cs = some (.number, length) ∧ IsInteger (cs.take length) count ∧
    Number.digitLimit < count

/-- Decoding a token stops at an integer that is too long exactly when the token is one. -/
theorem decode_eq_tooLong_iff {cs : List Char} {pattern : Pattern} {length : Nat}
    (hit : Pattern.first? cs = some (pattern, length)) (limit : DigitLimit) :
    decode (cs.take length) pattern = .error (.tooLong limit) ↔
      ∃ count, limit = .reading count ∧ StartsLong cs count := by
  have starts : ∀ count, StartsLong cs count ↔
      pattern = .number ∧ IsInteger (cs.take length) count ∧ Number.digitLimit < count := by
    intro count
    rw [StartsLong, hit]
    constructor
    · rintro ⟨_, same, integer, long⟩
      cases same
      exact ⟨rfl, integer, long⟩
    · rintro ⟨rfl, integer, long⟩
      exact ⟨length, rfl, integer, long⟩
  simp only [starts]
  cases pattern with
  | number =>
      obtain ⟨rfl, positive⟩ := Pattern.measure_of_first? hit
      have value : decode (cs.take (numberLength cs)) .number = .error (.tooLong limit) ↔
          numberValue (cs.take (numberLength cs)) = .error (.tooLong limit) := by
        rw [decode]
        cases numberValue (cs.take (numberLength cs)) <;> simp [Except.map]
      rw [Pattern.measure, value]
      constructor
      · intro stopped
        rcases numberLength_cases (Nat.ne_of_gt positive) with ⟨mark, listed, member⟩ | integer
        · exact absurd stopped (numberValue_ne_error_of_mark listed member _)
        · obtain ⟨count, integer⟩ := integer
          obtain ⟨same, long⟩ := (integer.numberValue_eq_tooLong_iff limit).mp stopped
          exact ⟨count, same, rfl, integer, long⟩
      · rintro ⟨count, same, -, integer, long⟩
        exact (integer.numberValue_eq_tooLong_iff limit).mpr ⟨same, long⟩
  | string =>
      simp only [decode, reduceCtorEq, false_and, and_false, exists_false, iff_false]
      split <;> simp
  | _ => simp [decode]

/-- Lexing gets from a text to a rest of it, reading every token before that rest. -/
inductive Reaches : List Char → List Char → Prop
  /-- The whole text is a rest. -/
  | refl (cs : List Char) : Reaches cs cs
  /-- A token is read, and lexing goes on. -/
  | token {cs rest : List Char} {pattern : Pattern} {length : Nat} {lexeme : Option Lexeme}
      (hit : Pattern.first? cs = some (pattern, length))
      (read : decode (cs.take length) pattern = .ok lexeme)
      (later : Reaches (cs.drop length) rest) : Reaches cs rest

/-- Lexing a text meets an integer with too many digits. -/
def MeetsLong (cs : List Char) (count : Nat) : Prop :=
  ∃ rest, Reaches cs rest ∧ StartsLong rest count

theorem not_meetsLong_of_first?_eq_none {cs : List Char} (none : Pattern.first? cs = none)
    (count : Nat) : ¬ MeetsLong cs count := by
  rintro ⟨rest, reaches, length, number, -⟩
  cases reaches with
  | refl => simp [none] at number
  | token hit => simp [none] at hit

theorem not_meetsLong_nil (count : Nat) : ¬ MeetsLong [] count := by
  apply not_meetsLong_of_first?_eq_none
  simp [Pattern.first?, Pattern.order, Pattern.measure, extent, signLength, numberLength, hexLength,
    decimalLength, fractionLength, pathLength, rootPathLength, nameLength, stringLength, rawLength]

theorem meetsLong_iff {cs : List Char} {pattern : Pattern} {length : Nat}
    (hit : Pattern.first? cs = some (pattern, length)) (count : Nat) :
    MeetsLong cs count ↔ StartsLong cs count ∨
      ∃ lexeme, decode (cs.take length) pattern = .ok lexeme ∧
        MeetsLong (cs.drop length) count := by
  constructor
  · rintro ⟨rest, reaches, starts⟩
    cases reaches with
    | refl => exact .inl starts
    | token other read later =>
        rw [hit] at other
        cases other
        exact .inr ⟨_, read, rest, later, starts⟩
  · rintro (starts | ⟨lexeme, read, rest, later, starts⟩)
    · exact ⟨cs, .refl cs, starts⟩
    · exact ⟨rest, .token hit read later, starts⟩

/-- Lexing stops at an integer that is too long exactly when it meets one. -/
theorem tokensFrom_eq_tooLong_iff (offset : Nat) (cs : List Char) (limit : DigitLimit) :
    tokensFrom offset cs = .error (.tooLong limit) ↔
      ∃ count, limit = .reading count ∧ MeetsLong cs count := by
  fun_induction tokensFrom offset cs with
  | case1 => simp [not_meetsLong_nil]
  | case2 offset c cs nothing => simp [not_meetsLong_of_first?_eq_none nothing]
  | case3 offset c cs pattern length hit text ih =>
      obtain ⟨-, positive⟩ := Pattern.measure_of_first? hit
      have shorter : (c :: cs).drop length = cs.drop (length - 1) := by
        rw [← Nat.sub_add_cancel positive, List.drop_succ_cons, Nat.add_sub_cancel]
      have starts := decode_eq_tooLong_iff hit
      simp only [meetsLong_iff hit, shorter]
      cases read : decode text pattern with
      | error fault =>
          rw [read] at starts
          simpa [bind, Except.bind] using starts limit
      | ok lexeme =>
          rw [read] at starts
          have fits : ∀ count, ¬ StartsLong (c :: cs) count := fun count long => by
            simpa using (starts (.reading count)).mpr ⟨count, rfl, long⟩
          simp only [fits, false_or, Except.ok.injEq, exists_eq_left', ← ih, bind, Except.bind]
          split
          · next later => simp [later]
          · next later => cases lexeme <;> simp [later]

end Lexer

namespace Expression

/-- Reading an expression meets an integer with too many digits. -/
def MeetsLong (source : String) (count : Nat) : Prop :=
  Lexer.MeetsLong (Text.trim source).toList count

/-- Parsing an expression stops at an integer that is too long exactly when its lexing meets
one. -/
theorem parse_eq_tooLong_iff (source : String) (limit : DigitLimit) :
    parse source = .error (.tooLong limit) ↔
      ∃ count, limit = .reading count ∧ MeetsLong source count := by
  have lexing := Lexer.tokensFrom_eq_tooLong_iff 0 (Text.trim source).toList limit
  simp only [parse, MeetsLong]
  split
  · next empty =>
      rw [empty]
      simp [Lexer.not_meetsLong_nil]
  · rw [← lexing, parseTrimmed, Lexer.tokenize]
    split
    · next malformed => simp [malformed]
    · next long => simp [long]
    · next read =>
        rw [read]
        split <;> simp

end Expression

end Promptline
