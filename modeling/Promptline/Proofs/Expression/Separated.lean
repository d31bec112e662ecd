import Promptline.Proofs.Expression.Literal

/-!
# Tokens end at separators

White space, parentheses and bars end whatever token is before them.  So the tokens of a text are
those of its front, and then those of the rest, if the front has tokens at all and a separator
follows it; and where a text stands decides on nothing but the offsets of its tokens.
-/

namespace Promptline

namespace Text

/-- White space and the characters of names are apart. -/
theorem blank_apart_from_words :
    ∀ interval ∈ blankSet.intervals, ∀ word ∈ wordSet.intervals,
      interval.2 < word.1 ∨ word.2 < interval.1 := by
  decide +kernel

/-- White space is at most a blank in ASCII. -/
theorem range_of_isBlank {c : Char} (blank : isBlank c = true) : c.toNat ≤ 32 ∨ 128 ≤ c.toNat := by
  have ranges : ∀ interval ∈ blankSet.intervals, interval.2 ≤ 32 ∨ 128 ≤ interval.1 := by decide
  rw [isBlank, CharSet.contains, List.any_eq_true] at blank
  obtain ⟨interval, listed, inside⟩ := blank
  have range := ranges interval listed
  simp only [Bool.and_eq_true, decide_eq_true_eq] at inside
  omega

theorem range_of_isAlphanum {c : Char} (alphanum : c.isAlphanum = true) :
    48 ≤ c.toNat ∧ c.toNat ≤ 122 := by
  rcases Bool.or_eq_true_iff.mp alphanum with alpha | digit
  · have range := range_of_isNameStart (c := c) (by simp [isNameStart, alpha])
    omega
  · simp only [Char.isDigit, ge_iff_le, Bool.and_eq_true, decide_eq_true_eq,
      UInt32.le_iff_toNat_le] at digit
    exact ⟨digit.1, Nat.le_trans digit.2 (by decide)⟩

theorem range_of_isHexDigit {c : Char} (digit : isHexDigit c = true) :
    48 ≤ c.toNat ∧ c.toNat ≤ 122 := by
  rw [isHexDigit, hexValue?] at digit
  split at digit
  · next decimal => exact range_of_isAlphanum (by simp [Char.isAlphanum, decimal])
  · split at digit
    · next lower => exact ⟨Nat.le_trans (by decide) lower.1, Nat.le_trans lower.2 (by decide)⟩
    · split at digit
      · next upper => exact ⟨Nat.le_trans (by decide) upper.1, Nat.le_trans upper.2 (by decide)⟩
      · contradiction

theorem isWord_eq_false_of_isBlank {c : Char} (blank : isBlank c = true) : isWord c = false := by
  rw [Bool.eq_false_iff]
  intro word
  rw [isWord] at word
  split at word
  · next ascii =>
      have low := range_of_isBlank blank
      rcases Bool.or_eq_true_iff.mp word with alphanum | underscore
      · have range := range_of_isAlphanum alphanum
        omega
      · rw [beq_iff_eq.mp underscore] at low
        exact absurd low (by decide)
  · rw [isBlank, CharSet.contains, List.any_eq_true] at blank
    rw [CharSet.contains, List.any_eq_true] at word
    obtain ⟨interval, listed, inside⟩ := blank
    obtain ⟨other, alsoListed, alsoInside⟩ := word
    have apart := blank_apart_from_words interval listed other alsoListed
    simp only [Bool.and_eq_true, decide_eq_true_eq] at inside alsoInside
    omega

end Text

namespace Lexer

open Text (extent signLength)

/-- Characters that end whatever token is before them. -/
def isSeparator (c : Char) : Bool :=
  Text.isBlank c || c == '(' || c == ')' || c == '|'

/-- Nothing follows, or a separator. -/
def Separated (rest : List Char) : Prop :=
  ∀ c ∈ rest.head?, isSeparator c = true

theorem eq_false_of_isSeparator {p : Char → Bool}
    (blank : ∀ c, Text.isBlank c = true → p c = false)
    (marks : p '(' = false ∧ p ')' = false ∧ p '|' = false) {c : Char}
    (separator : isSeparator c = true) : p c = false := by
  simp only [isSeparator, Bool.or_eq_true, beq_iff_eq] at separator
  rcases separator with ((white | rfl) | rfl) | rfl
  · exact blank c white
  · exact marks.1
  · exact marks.2.1
  · exact marks.2.2

theorem isDigit_of_isSeparator {c : Char} (separator : isSeparator c = true) :
    Text.isDigit c = false := by
  refine eq_false_of_isSeparator (fun c blank => ?_) (by decide) separator
  by_contra digit
  rw [Text.isBlank_eq_false_of_isDigit (by simpa using digit)] at blank
  contradiction

theorem isWord_of_isSeparator {c : Char} (separator : isSeparator c = true) :
    Text.isWord c = false :=
  eq_false_of_isSeparator (fun _ => Text.isWord_eq_false_of_isBlank) (by decide) separator

theorem isNameStart_of_isSeparator {c : Char} (separator : isSeparator c = true) :
    Text.isNameStart c = false := by
  refine eq_false_of_isSeparator (fun c blank => ?_) (by decide) separator
  by_contra starts
  rw [Text.isBlank_eq_false_of_isNameStart (by simpa using starts)] at blank
  contradiction

theorem isHexDigit_of_isSeparator {c : Char} (separator : isSeparator c = true) :
    Text.isHexDigit c = false := by
  refine eq_false_of_isSeparator (fun c blank => ?_) (by decide) separator
  have low := Text.range_of_isBlank blank
  by_contra digit
  have range := Text.range_of_isHexDigit (by simpa using digit)
  omega

theorem ne_of_isSeparator {c d : Char} (separator : isSeparator c = true)
    (other : isSeparator d = false) : c ≠ d := by
  rintro rfl
  rw [separator] at other
  contradiction

theorem signLength_cons (c : Char) (cs : List Char) :
    signLength (c :: cs) = if c = '+' ∨ c = '-' then 1 else 0 := by
  unfold signLength
  split <;> simp_all

/-! ## No measure exceeds the text -/

theorem signLength_le_length (cs : List Char) : signLength cs ≤ cs.length := by
  cases cs with
  | nil => exact Nat.le_refl 0
  | cons c cs =>
      rw [signLength_cons]
      split <;> simp

theorem fractionLength_le_length (cs : List Char) : fractionLength cs ≤ cs.length := by
  unfold fractionLength
  split
  · next cs =>
      have digits := Text.extent_le_length Text.isDigit cs
      rw [List.length_cons]
      omega
  · exact Nat.zero_le _

theorem exponentLength_le_length (cs : List Char) : exponentLength cs ≤ cs.length := by
  unfold exponentLength
  split
  · next c cs =>
      have sign := signLength_le_length cs
      have digits := Text.extent_le_length Text.isDigit (cs.drop (signLength cs))
      rw [List.length_drop] at digits
      rw [List.length_cons]
      split
      · simp only
        split <;> omega
      · exact Nat.zero_le _
  · exact Nat.zero_le _

theorem hexLength_le_length (cs : List Char) : hexLength cs ≤ cs.length := by
  unfold hexLength
  split
  · next x cs =>
      have digits := Text.extent_le_length Text.isHexDigit cs
      rw [List.length_cons, List.length_cons]
      split
      · simp only
        split <;> omega
      · exact Nat.zero_le _
  · exact Nat.zero_le _

theorem decimalLength_le_length (cs : List Char) : decimalLength cs ≤ cs.length := by
  have whole := Text.extent_le_length Text.isDigit cs
  have fraction := fractionLength_le_length (cs.drop (extent Text.isDigit cs))
  have exponent := exponentLength_le_length
    (cs.drop (extent Text.isDigit cs + fractionLength (cs.drop (extent Text.isDigit cs))))
  rw [List.length_drop] at fraction exponent
  simp only [decimalLength]
  split <;> omega

theorem numberLength_le_length (cs : List Char) : numberLength cs ≤ cs.length := by
  have sign := signLength_le_length cs
  have hex := hexLength_le_length (cs.drop (signLength cs))
  have decimal := decimalLength_le_length (cs.drop (signLength cs))
  rw [List.length_drop] at hex decimal
  simp only [numberLength]
  split
  · split <;> omega
  · omega

theorem pathLength_le_length (cs : List Char) : pathLength cs ≤ cs.length := by
  fun_induction pathLength cs with
  | case1 c cs starts word ih =>
      have length : word ≤ cs.length := Text.extent_le_length Text.isWord cs
      rw [List.length_drop] at ih
      rw [List.length_cons, List.length_cons]
      omega
  | case2 => exact Nat.zero_le _
  | case3 => exact Nat.zero_le _

theorem rootPathLength_le_length (cs : List Char) : rootPathLength cs ≤ cs.length := by
  unfold rootPathLength
  split
  · next cs =>
      have path := pathLength_le_length cs
      rw [List.length_cons]
      omega
  · exact Nat.zero_le _

theorem nameLength_le_length (cs : List Char) : nameLength cs ≤ cs.length := by
  unfold nameLength
  split
  · next c cs =>
      have word := Text.extent_le_length Text.isWord cs
      rw [List.length_cons]
      split <;> omega
  · exact Nat.zero_le _

theorem closingLength_le_length {cs : List Char} {length : Nat}
    (closes : Text.JsonString.closingLength cs = some length) : length ≤ cs.length := by
  fun_induction Text.JsonString.closingLength cs generalizing length with
  | case1 => contradiction
  | case2 cs =>
      obtain rfl := Option.some.inj closes
      simp
  | case3 => contradiction
  | case4 => contradiction
  | case5 => contradiction
  | case6 c cs unbroken ih =>
      obtain ⟨inner, closed, rfl⟩ := Option.map_eq_some_iff.mp closes
      exact Nat.add_le_add_right (ih closed) 2
  | case7 c cs unquoted unbroken lone escapes ih =>
      obtain ⟨inner, closed, rfl⟩ := Option.map_eq_some_iff.mp closes
      exact Nat.add_le_add_right (ih closed) 1

theorem stringLength_le_length (cs : List Char) : stringLength cs ≤ cs.length := by
  unfold stringLength
  split
  · next cs =>
      cases closes : Text.JsonString.closingLength cs with
      | none => exact Nat.zero_le _
      | some inner => exact Nat.add_le_add_right (closingLength_le_length closes) 1
  · exact Nat.zero_le _

theorem rawLength_le_length (cs : List Char) : rawLength cs ≤ cs.length := by
  unfold rawLength
  split
  · next c cs =>
      rw [List.length_cons]
      split
      · simp only
        split <;> omega
      · exact Nat.zero_le _
  · exact Nat.zero_le _

theorem Pattern.measure_le_length (pattern : Pattern) (cs : List Char) :
    pattern.measure cs ≤ cs.length := by
  have single (p : Char → Bool) : extent p (cs.take 1) ≤ cs.length :=
    Nat.le_trans (Text.extent_le_length p _) (by simp)
  cases pattern with
  | blank => exact Text.extent_le_length Text.isBlank cs
  | number => exact numberLength_le_length cs
  | path => exact pathLength_le_length cs
  | rootPath => exact rootPathLength_le_length cs
  | name => exact nameLength_le_length cs
  | string => exact stringLength_le_length cs
  | raw => exact rawLength_le_length cs
  | dot | openParen | closeParen | pipe => exact single _

/-! ## What is measured before a separator -/

/-- A string that is closed stays closed, whatever follows. -/
theorem closingLength_append {cs : List Char} {length : Nat}
    (closes : Text.JsonString.closingLength cs = some length) (rest : List Char) :
    Text.JsonString.closingLength (cs ++ rest) = some length := by
  fun_induction Text.JsonString.closingLength cs generalizing length with
  | case1 => contradiction
  | case2 cs => exact closes
  | case3 cs => contradiction
  | case4 => contradiction
  | case5 => contradiction
  | case6 c cs unbroken ih =>
      obtain ⟨inner, closed, rfl⟩ := Option.map_eq_some_iff.mp closes
      rw [List.cons_append, List.cons_append, Text.JsonString.closingLength_of_escape unbroken,
        ih closed]
      rfl
  | case7 c cs unquoted unbroken lone escapes ih =>
      obtain ⟨inner, closed, rfl⟩ := Option.map_eq_some_iff.mp closes
      have unescaped : c ≠ '\\' := by
        rintro rfl
        cases cs with
        | nil => exact lone rfl rfl
        | cons d cs => exact escapes d cs rfl rfl
      rw [List.cons_append, Text.JsonString.closingLength_of_plain unquoted unbroken unescaped,
        ih closed]
      rfl

theorem Pattern.first?_nil : first? [] = none := by
  simp [first?, order, measure, extent, signLength, numberLength, hexLength, decimalLength,
    fractionLength, pathLength, rootPathLength, nameLength, stringLength, rawLength]

theorem Pattern.first?_of_unclosed {cs : List Char}
    (unclosed : Text.JsonString.closingLength cs = none) : first? ('"' :: cs) = none := by
  simp [first?, order, measure, extent, numberLength, hexLength, decimalLength, fractionLength,
    pathLength, rootPathLength, nameLength, stringLength, rawLength, rawMark, signLength, unclosed,
    show Text.isBlank '"' = false by decide, show Text.isDigit '"' = false by decide,
    show Text.isNameStart '"' = false by decide]

theorem rawLength_closed {s : List Char} (plain : rawMark ∉ s) (rest : List Char) :
    rawLength (rawMark :: (s ++ rawMark :: rest)) = s.length + 2 := by
  simp [rawLength, extent_ne_rawMark plain]

theorem Pattern.first?_of_unclosed_raw {cs : List Char} (unclosed : rawMark ∉ cs) :
    first? (rawMark :: cs) = none := by
  have raw : rawLength (rawMark :: cs) = 0 := by
    have all : cs.takeWhile (· != rawMark) = cs := by
      rw [List.takeWhile_eq_self_iff]
      intro c member
      rw [bne_iff_ne]
      rintro rfl
      exact unclosed member
    simp [rawLength, extent, all]
  have unblank : Text.isBlank rawMark = false := by decide
  have undigit : Text.isDigit rawMark = false := by decide
  have unnamed : Text.isNameStart rawMark = false := by decide
  have other (d : Char) (differs : d ≠ rawMark) : rawMark ≠ d := Ne.symm differs
  simp [first?, order, measure, raw, extent, numberLength, hexLength, decimalLength,
    fractionLength, pathLength, rootPathLength, nameLength, stringLength, signLength, unblank,
    undigit, unnamed, other '+' (by decide), other '-' (by decide), other '.' (by decide),
    other '0' (by decide), other '$' (by decide), other '"' (by decide), other '(' (by decide),
    other ')' (by decide), other '|' (by decide)]

/-- Before a separator no string starts that only the rest closes. -/
theorem stringLength_append {cs : List Char} {hit : Pattern} {length : Nat}
    (first : Pattern.first? cs = some (hit, length)) (rest : List Char) :
    stringLength (cs ++ rest) = stringLength cs := by
  cases cs with
  | nil => rw [Pattern.first?_nil] at first; contradiction
  | cons c cs =>
      by_cases quote : c = '"'
      · subst quote
        cases closes : Text.JsonString.closingLength cs with
        | none => rw [Pattern.first?_of_unclosed closes] at first; contradiction
        | some inner =>
            simp only [List.cons_append, stringLength, closes, closingLength_append closes]
      · simp [stringLength, quote]

theorem rawLength_append {cs : List Char} {hit : Pattern} {length : Nat}
    (first : Pattern.first? cs = some (hit, length)) (rest : List Char) :
    rawLength (cs ++ rest) = rawLength cs := by
  cases cs with
  | nil => rw [Pattern.first?_nil] at first; contradiction
  | cons c cs =>
      by_cases mark : c = rawMark
      · subst mark
        by_cases member : rawMark ∈ cs
        · obtain ⟨s, later, rfl, plain⟩ := List.eq_append_cons_of_mem member
          rw [List.cons_append, List.append_assoc, List.cons_append, rawLength_closed plain,
            rawLength_closed plain]
        · rw [Pattern.first?_of_unclosed_raw member] at first
          contradiction
      · simp [rawLength, mark]

theorem blankLength_append {cs : List Char} {hit : Pattern} {length : Nat}
    (first : Pattern.first? cs = some (hit, length)) (visible : hit ≠ .blank) (rest : List Char) :
    extent Text.isBlank (cs ++ rest) = extent Text.isBlank cs := by
  cases cs with
  | nil => rw [Pattern.first?_nil] at first; contradiction
  | cons c cs =>
      cases blank : Text.isBlank c with
      | false => simp [extent, blank]
      | true =>
          have positive : 0 < extent Text.isBlank (c :: cs) := by simp [extent, blank]
          simp [Pattern.first?, Pattern.order, Pattern.measure, positive] at first
          exact absurd first.1.symm visible

section Separated

variable {rest : List Char} (separated : Separated rest)
include separated

theorem extent_separated {p : Char → Bool} (apart : ∀ c, isSeparator c = true → p c = false)
    (cs : List Char) : extent p (cs ++ rest) = extent p cs :=
  Text.extent_append (fun c head => apart c (separated c head)) cs

theorem signLength_separated (cs : List Char) : signLength (cs ++ rest) = signLength cs := by
  cases cs with
  | cons c cs => rw [List.cons_append, signLength_cons, signLength_cons]
  | nil =>
      cases rest with
      | nil => rfl
      | cons c rest =>
          have separator := separated c rfl
          rw [List.nil_append, signLength_cons, if_neg]
          · rfl
          · simp [ne_of_isSeparator separator (d := '+') (by decide),
              ne_of_isSeparator separator (d := '-') (by decide)]

theorem exponentLength_separated (cs : List Char) :
    exponentLength (cs ++ rest) = exponentLength cs := by
  cases cs with
  | cons c cs =>
      simp only [List.cons_append, exponentLength, signLength_separated separated,
        List.drop_append_of_le_length (signLength_le_length cs),
        extent_separated separated fun _ => isDigit_of_isSeparator]
  | nil =>
      cases rest with
      | nil => rfl
      | cons c rest =>
          have separator := separated c rfl
          simp [exponentLength, ne_of_isSeparator separator (d := 'e') (by decide),
            ne_of_isSeparator separator (d := 'E') (by decide)]

theorem fractionLength_separated (cs : List Char) :
    fractionLength (cs ++ rest) = fractionLength cs := by
  cases cs with
  | cons c cs =>
      by_cases dot : c = '.'
      · subst dot
        simp only [List.cons_append, fractionLength,
          extent_separated separated fun _ => isDigit_of_isSeparator]
      · simp [fractionLength, dot]
  | nil =>
      cases rest with
      | nil => rfl
      | cons c rest =>
          simp [fractionLength, ne_of_isSeparator (separated c rfl) (d := '.') (by decide)]

theorem decimalLength_separated (cs : List Char) :
    decimalLength (cs ++ rest) = decimalLength cs := by
  have whole := Text.extent_le_length Text.isDigit cs
  have fraction := fractionLength_le_length (cs.drop (extent Text.isDigit cs))
  rw [List.length_drop] at fraction
  simp only [decimalLength, extent_separated separated fun _ => isDigit_of_isSeparator,
    List.drop_append_of_le_length whole, fractionLength_separated separated]
  rw [List.drop_append_of_le_length (by omega), exponentLength_separated separated]

theorem hexLength_separated (cs : List Char) : hexLength (cs ++ rest) = hexLength cs := by
  match cs with
  | c :: x :: cs =>
      by_cases zero : c = '0'
      · subst zero
        simp only [List.cons_append, hexLength,
          extent_separated separated fun _ => isHexDigit_of_isSeparator]
      · simp [hexLength, zero]
  | [c] =>
      cases rest with
      | nil => rfl
      | cons x rest =>
          have separator := separated x rfl
          by_cases zero : c = '0'
          · simp [hexLength, zero, ne_of_isSeparator separator (d := 'x') (by decide),
              ne_of_isSeparator separator (d := 'X') (by decide)]
          · simp [hexLength, zero]
  | [] =>
      cases rest with
      | nil => rfl
      | cons c rest =>
          simp [hexLength, ne_of_isSeparator (separated c rfl) (d := '0') (by decide)]

theorem numberLength_separated (cs : List Char) :
    numberLength (cs ++ rest) = numberLength cs := by
  simp only [numberLength, signLength_separated separated,
    List.drop_append_of_le_length (signLength_le_length cs), hexLength_separated separated,
    decimalLength_separated separated]

theorem pathLength_separated (cs : List Char) : pathLength (cs ++ rest) = pathLength cs := by
  fun_induction pathLength cs with
  | case1 c cs starts word ih =>
      have length := Text.extent_le_length Text.isWord cs
      rw [List.cons_append, List.cons_append, pathLength, if_pos starts,
        extent_separated separated fun _ => isWord_of_isSeparator]
      simp only [List.drop_append_of_le_length length]
      rw [ih]
  | case2 c cs stops => simp [pathLength, stops]
  | case3 cs other =>
      cases rest with
      | nil => rw [List.append_nil, pathLength.eq_2 cs other]
      | cons d rest =>
          have separator := separated d rfl
          rcases cs with _ | ⟨c, _ | ⟨next, cs⟩⟩
          · simp [pathLength, ne_of_isSeparator separator (d := '.') (by decide)]
          · by_cases dot : c = '.'
            · simp [pathLength, dot, isNameStart_of_isSeparator separator]
            · simp [pathLength, dot]
          · have dotless : c ≠ '.' := by
              rintro rfl
              exact other next cs rfl
            simp [pathLength, dotless]

theorem rootPathLength_separated {cs : List Char} (nonempty : cs ≠ []) :
    rootPathLength (cs ++ rest) = rootPathLength cs := by
  obtain ⟨c, cs, rfl⟩ := List.exists_cons_of_ne_nil nonempty
  by_cases root : c = '$'
  · subst root
    simp only [List.cons_append, rootPathLength, pathLength_separated separated]
  · simp [rootPathLength, root]

theorem nameLength_separated {cs : List Char} (nonempty : cs ≠ []) :
    nameLength (cs ++ rest) = nameLength cs := by
  obtain ⟨c, cs, rfl⟩ := List.exists_cons_of_ne_nil nonempty
  simp only [List.cons_append, nameLength,
    extent_separated separated fun _ => isWord_of_isSeparator]

/-- A text that is read as a token is measured alike by every pattern before a separator. -/
theorem measure_separated {cs : List Char} {hit : Pattern} {length : Nat}
    (first : Pattern.first? cs = some (hit, length)) (visible : hit ≠ .blank) (pattern : Pattern) :
    pattern.measure (cs ++ rest) = pattern.measure cs := by
  have nonempty : cs ≠ [] := by
    rintro rfl
    rw [Pattern.first?_nil] at first
    contradiction
  have front : (cs ++ rest).take 1 = cs.take 1 :=
    List.take_append_of_le_length (List.length_pos_iff.mpr nonempty)
  cases pattern with
  | blank => exact blankLength_append first visible rest
  | number => exact numberLength_separated separated cs
  | path => exact pathLength_separated separated cs
  | rootPath => exact rootPathLength_separated separated nonempty
  | name => exact nameLength_separated separated nonempty
  | string => exact stringLength_append first rest
  | raw => exact rawLength_append first rest
  | dot | openParen | closeParen | pipe => simp only [Pattern.measure, front]

theorem first?_separated {cs : List Char} {hit : Pattern} {length : Nat}
    (first : Pattern.first? cs = some (hit, length)) (visible : hit ≠ .blank) :
    Pattern.first? (cs ++ rest) = some (hit, length) := by
  rw [← first, Pattern.first?, Pattern.first?]
  simp only [measure_separated separated first visible]

end Separated

/-! ## Tokens -/

/-- What the first pattern gives comes before the tokens of the rest. -/
theorem tokensFrom_of_first? {offset length : Nat} {cs : List Char} {pattern : Pattern}
    {lexeme : Option Lexeme} {later : List Token}
    (first : Pattern.first? cs = some (pattern, length))
    (decoded : decode (cs.take length) pattern = .ok lexeme)
    (behind : tokensFrom (offset + length) (cs.drop length) = .ok later) :
    tokensFrom offset cs =
      .ok ((lexeme.map fun lexeme => ⟨lexeme, cs.take length, offset⟩).toList ++ later) := by
  cases cs with
  | nil => rw [Pattern.first?_nil] at first; contradiction
  | cons c cs =>
      have positive := (Pattern.measure_of_first? first).2
      rw [List.drop_cons positive] at behind
      rw [tokensFrom, first]
      simp only [decoded, behind, bind, Except.bind]
      cases lexeme <;> rfl

theorem Pattern.first?_of_isBlank {c : Char} (blank : Text.isBlank c = true) (cs : List Char) :
    first? (c :: cs) = some (.blank, extent Text.isBlank cs + 1) := by
  simp [first?, order, measure, extent, blank]

theorem tokensFrom_blank_run (offset : Nat) {c : Char} (blank : Text.isBlank c = true)
    (cs : List Char) :
    tokensFrom offset (c :: cs) =
      tokensFrom (offset + (extent Text.isBlank cs + 1)) (cs.drop (extent Text.isBlank cs)) := by
  rw [tokensFrom, Pattern.first?_of_isBlank blank]
  simp only [decode, Nat.add_sub_cancel]
  cases tokensFrom (offset + (extent Text.isBlank cs + 1)) (cs.drop (extent Text.isBlank cs)) <;>
    rfl

/-- White space has no tokens. -/
theorem tokensFrom_of_isBlank (offset : Nat) {c : Char} (blank : Text.isBlank c = true)
    (cs : List Char) : tokensFrom offset (c :: cs) = tokensFrom (offset + 1) cs := by
  rw [tokensFrom_blank_run offset blank]
  cases cs with
  | nil => rfl
  | cons d cs =>
      cases next : Text.isBlank d with
      | false => simp [extent, next]
      | true =>
          have run : extent Text.isBlank (d :: cs) = extent Text.isBlank cs + 1 := by
            simp [extent, next]
          rw [tokensFrom_blank_run (offset + 1) next, run, List.drop_succ_cons]
          congr 1
          omega

theorem tokensFrom_blanks (offset : Nat) {blanks : List Char}
    (blank : ∀ c ∈ blanks, Text.isBlank c = true) (rest : List Char) :
    tokensFrom offset (blanks ++ rest) = tokensFrom (offset + blanks.length) rest := by
  induction blanks generalizing offset with
  | nil => rfl
  | cons c blanks ih =>
      obtain ⟨first, later⟩ := List.forall_mem_cons.mp blank
      rw [List.cons_append, tokensFrom_of_isBlank offset first, ih (offset + 1) later,
        List.length_cons, Nat.add_assoc, Nat.add_comm 1]

/-- Parentheses and bars are tokens whatever follows. -/
inductive Mark : Char → Lexeme → Prop
  /-- An opening parenthesis. -/
  | openParen : Mark '(' .openParen
  /-- A closing parenthesis. -/
  | closeParen : Mark ')' .closeParen
  /-- A bar. -/
  | pipe : Mark '|' .pipe

theorem Mark.first?_eq {c : Char} {lexeme : Lexeme} (mark : Mark c lexeme) (cs : List Char) :
    ∃ pattern, Pattern.first? (c :: cs) = some (pattern, 1) ∧
      decode [c] pattern = .ok (some lexeme) := by
  have unblank : Text.isBlank c = false := by cases mark <;> decide
  have undigit : Text.isDigit c = false := by cases mark <;> decide
  have unnamed : Text.isNameStart c = false := by cases mark <;> decide
  cases mark <;>
    simp [Pattern.first?, Pattern.order, Pattern.measure, extent, numberLength, hexLength,
      decimalLength, fractionLength, pathLength, rootPathLength, nameLength, stringLength,
      rawLength, rawMark, signLength, unblank, undigit, unnamed, decode]

theorem Mark.tokensFrom_cons {c : Char} {lexeme : Lexeme} (mark : Mark c lexeme) {offset : Nat}
    {cs : List Char} {tokens : List Token} (behind : tokensFrom (offset + 1) cs = .ok tokens) :
    tokensFrom offset (c :: cs) = .ok (⟨lexeme, [c], offset⟩ :: tokens) := by
  obtain ⟨pattern, first, decoded⟩ := mark.first?_eq cs
  exact tokensFrom_of_first? first decoded behind

/-- Before a separator the tokens of a text do not depend on what follows. -/
theorem tokensFrom_separated {offset : Nat} {front rest : List Char} {first second : List Token}
    (separated : Separated rest) (lexed : tokensFrom offset front = .ok first)
    (behind : tokensFrom (offset + front.length) rest = .ok second) :
    tokensFrom offset (front ++ rest) = .ok (first ++ second) := by
  induction size : front.length using Nat.strong_induction_on generalizing front first offset with
  | h size ih =>
  subst size
  cases front with
  | nil =>
      rw [tokensFrom] at lexed
      obtain rfl := Except.ok.inj lexed
      exact behind
  | cons c front =>
      cases blank : Text.isBlank c with
      | true =>
          rw [tokensFrom_of_isBlank offset blank] at lexed
          rw [List.cons_append, tokensFrom_of_isBlank offset blank]
          refine ih front.length (Nat.lt_succ_self _) lexed ?_ rfl
          rwa [Nat.add_assoc, Nat.add_comm 1, ← List.length_cons]
      | false =>
          obtain ⟨pattern, length, lexeme, later, hit, positive, decoded, read, rfl⟩ :=
            tokensFrom_eq_ok (List.cons_ne_nil _ _) lexed
          obtain ⟨measured, -⟩ := Pattern.measure_of_first? hit
          have within : length ≤ (c :: front).length := measured ▸ pattern.measure_le_length _
          have visible : pattern ≠ .blank := by
            rintro rfl
            simp [measured, Pattern.measure, extent, blank] at positive
          have shorter : ((c :: front).drop length).length < (c :: front).length := by
            rw [List.length_drop]
            omega
          have longer : offset + length + ((c :: front).drop length).length =
              offset + (c :: front).length := by
            rw [List.length_drop]
            omega
          have both := ih _ shorter read (by rw [longer, behind]) rfl
          rw [← List.drop_append_of_le_length within] at both
          rw [tokensFrom_of_first? (first?_separated separated hit visible)
            (by rw [List.take_append_of_le_length within, decoded]) both,
            List.take_append_of_le_length within, List.append_assoc]

/-! ## Tokens at another place -/

end Lexer

namespace Token

/-- A token that stands so much further on. -/
def moved (distance : Nat) (token : Token) : Token :=
  { token with start := token.start + distance }

end Token

namespace Lexer

theorem tokensFrom_moved {offset : Nat} {cs : List Char} {tokens : List Token}
    (lexed : tokensFrom offset cs = .ok tokens) (distance : Nat) :
    tokensFrom (offset + distance) cs = .ok (tokens.map (Token.moved distance)) := by
  induction size : cs.length using Nat.strong_induction_on generalizing cs tokens offset with
  | h size ih =>
  subst size
  by_cases nonempty : cs = []
  · subst nonempty
    rw [tokensFrom] at lexed ⊢
    obtain rfl := Except.ok.inj lexed
    rfl
  · obtain ⟨pattern, length, lexeme, later, hit, positive, decoded, read, rfl⟩ :=
      tokensFrom_eq_ok nonempty lexed
    have shorter : (cs.drop length).length < cs.length := by
      have some := List.length_pos_iff.mpr nonempty
      rw [List.length_drop]
      omega
    have behind := ih _ shorter read rfl
    rw [Nat.add_right_comm] at behind
    rw [tokensFrom_of_first? hit decoded behind, List.map_append]
    cases lexeme <;> rfl

end Lexer

end Promptline
