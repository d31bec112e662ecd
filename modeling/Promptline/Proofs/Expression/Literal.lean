import Promptline.Proofs.Expression.Inert
import Promptline.Proofs.Number.Integer
import Promptline.Proofs.Text.JsonString

/-!
# Literals

A quoted string, a raw string and the decimal text of an integer are one token each, and that token
means the text or the integer that was written.
-/

namespace Promptline

namespace Text

/-- A text between two characters outside a class is not trimmed. -/
theorem trimWhile_between {p : Char → Bool} {first last : Char} (before : p first = false)
    (behind : p last = false) (cs : List Char) :
    trimWhile p (first :: (cs ++ [last])) = first :: (cs ++ [last]) := by
  simp [trimWhile, dropEndWhile, before, behind]

end Text

namespace Lexer

open Text (extent signLength)

/-- The text is one token, with no white space around it. -/
structure IsToken (text : List Char) (lexeme : Lexeme) : Prop where
  /-- There is no white space around it. -/
  trimmed : Text.trimBlank text = text
  /-- There is a character to read. -/
  nonempty : text ≠ []
  /-- It is read as one token. -/
  lexed : tokensFrom 0 text = .ok [⟨lexeme, text, 0⟩]

/-- A text that one pattern takes whole is one token. -/
theorem tokensFrom_whole {text : List Char} {pattern : Pattern} {lexeme : Lexeme} (offset : Nat)
    (hit : Pattern.first? text = some (pattern, text.length))
    (decoded : decode text pattern = .ok (some lexeme)) :
    tokensFrom offset text = .ok [⟨lexeme, text, offset⟩] := by
  obtain ⟨-, positive⟩ := Pattern.measure_of_first? hit
  obtain ⟨c, cs, rfl⟩ := List.exists_cons_of_length_pos positive
  have nothing : cs.drop ((c :: cs).length - 1) = [] := by
    rw [List.length_cons, Nat.add_sub_cancel, List.drop_length]
  rw [tokensFrom, hit]
  simp only [List.take_length, decoded, nothing]
  rw [tokensFrom]
  rfl

/-! ## Strings -/

theorem Pattern.first?_quote {cs : List Char} {length : Nat}
    (closes : Text.JsonString.closingLength cs = some length) :
    first? ('"' :: cs) = some (.string, length + 1) := by
  simp [first?, order, measure, extent, numberLength, hexLength, decimalLength, fractionLength,
    pathLength, rootPathLength, nameLength, stringLength, signLength, closes,
    show Text.isBlank '"' = false by decide, show Text.isDigit '"' = false by decide,
    show Text.isNameStart '"' = false by decide]

/-- A spelling between quotation marks is one string. -/
theorem isToken_quoted {inner s : List Char} (spells : Text.JsonString.Spells inner s) :
    IsToken ('"' :: (inner ++ ['"'])) (.string (String.ofList s)) := by
  have unblank : Text.isBlank '"' = false := by decide
  have closes := spells.closingLength_append []
  have whole : ('"' :: (inner ++ ['"'])).length = inner.length + 1 + 1 := by simp
  have inside_eq : inside ('"' :: (inner ++ ['"'])) = inner := by simp [inside]
  refine ⟨Text.trimWhile_between unblank unblank inner, List.cons_ne_nil _ _, ?_⟩
  apply tokensFrom_whole 0
  · rw [whole]
    exact Pattern.first?_quote closes
  · rw [decode, inside_eq, spells.decode?_eq]

theorem extent_ne_rawMark {s : List Char} (plain : rawMark ∉ s) (rest : List Char) :
    extent (· != rawMark) (s ++ rawMark :: rest) = s.length := by
  have all : ∀ c ∈ s, (c != rawMark) = true := by
    intro c member
    rw [bne_iff_ne]
    rintro rfl
    exact plain member
  rw [extent, List.takeWhile_append_of_pos all]
  simp

theorem Pattern.first?_rawMark {s : List Char} (plain : rawMark ∉ s) :
    first? (rawMark :: (s ++ [rawMark])) = some (.raw, s.length + 2) := by
  have inner := extent_ne_rawMark plain []
  have raw : rawLength (rawMark :: (s ++ [rawMark])) = s.length + 2 := by
    simp [rawLength, inner]
  have unblank : Text.isBlank rawMark = false := by decide
  have undigit : Text.isDigit rawMark = false := by decide
  have unnamed : Text.isNameStart rawMark = false := by decide
  have other (d : Char) (differs : d ≠ rawMark) : rawMark ≠ d := Ne.symm differs
  simp [first?, order, measure, raw, extent, numberLength, hexLength, decimalLength,
    fractionLength, pathLength, rootPathLength, nameLength, stringLength, signLength, unblank,
    undigit, unnamed, other '+' (by decide), other '-' (by decide), other '.' (by decide),
    other '0' (by decide), other '$' (by decide), other '"' (by decide)]

/-- A text without back quotes is one string between them. -/
theorem isToken_raw {s : List Char} (plain : rawMark ∉ s) :
    IsToken (rawMark :: (s ++ [rawMark])) (.string (String.ofList s)) := by
  have unblank : Text.isBlank rawMark = false := by decide
  have whole : (rawMark :: (s ++ [rawMark])).length = s.length + 2 := by simp
  have inside_eq : inside (rawMark :: (s ++ [rawMark])) = s := by simp [inside]
  refine ⟨Text.trimWhile_between unblank unblank s, List.cons_ne_nil _ _, ?_⟩
  apply tokensFrom_whole 0
  · rw [whole]
    exact Pattern.first?_rawMark plain
  · rw [decode, inside_eq]

/-! ## Integers -/

theorem hexLength_of_digits {digits : List Char} (all : ∀ c ∈ digits, Text.isDigit c = true) :
    hexLength digits = 0 := by
  unfold hexLength
  split
  · next x _ =>
      have digit : Text.isDigit x = true := all x (by simp)
      have unmarked : ¬ (x = 'x' ∨ x = 'X') := by
        rintro (rfl | rfl)
        · exact absurd digit (by decide)
        · exact absurd digit (by decide)
      rw [if_neg unmarked]
  · rfl

theorem decimalLength_of_digits {digits : List Char} (nonempty : digits ≠ [])
    (all : ∀ c ∈ digits, Text.isDigit c = true) : decimalLength digits = digits.length := by
  have whole : extent Text.isDigit digits = digits.length := by
    rw [extent, List.takeWhile_eq_self_iff.mpr all]
  have positive : digits.length ≠ 0 := by simpa using nonempty
  simp [decimalLength, whole, fractionLength, exponentLength, positive]

theorem signLength_of_digits {digits : List Char} (all : ∀ c ∈ digits, Text.isDigit c = true) :
    signLength digits = 0 := by
  unfold signLength
  split
  · exact absurd (all '+' List.mem_cons_self) (by decide)
  · exact absurd (all '-' List.mem_cons_self) (by decide)
  · rfl

theorem IsInteger.numberLength_eq {text : List Char} {count : Nat} (integer : IsInteger text count)
    (positive : 0 < count) : numberLength text = text.length := by
  obtain ⟨digits, shape, all, rfl⟩ := integer
  have nonempty : digits ≠ [] := List.length_pos_iff.mp positive
  have hex := hexLength_of_digits all
  have decimal := decimalLength_of_digits nonempty all
  have unsigned := signLength_of_digits all
  rcases shape with rfl | rfl | rfl
  · simp [numberLength, unsigned, hex, decimal, nonempty]
  · simp [numberLength, signLength, hex, decimal, nonempty, Nat.add_comm]
  · simp [numberLength, signLength, hex, decimal, nonempty, Nat.add_comm]

theorem IsInteger.exists_cons {text : List Char} {count : Nat} (integer : IsInteger text count)
    (positive : 0 < count) : ∃ c cs, text = c :: cs ∧ Text.isBlank c = false := by
  obtain ⟨digits, shape, all, rfl⟩ := integer
  rcases shape with rfl | rfl | rfl
  · obtain ⟨c, cs, rfl⟩ := List.exists_cons_of_length_pos positive
    exact ⟨c, cs, rfl, Text.isBlank_eq_false_of_isDigit (all c List.mem_cons_self)⟩
  · exact ⟨'+', digits, rfl, by decide⟩
  · exact ⟨'-', digits, rfl, by decide⟩

theorem IsInteger.first?_eq {text : List Char} {count : Nat} (integer : IsInteger text count)
    (positive : 0 < count) : Pattern.first? text = some (.number, text.length) := by
  have number := integer.numberLength_eq positive
  obtain ⟨c, cs, rfl, unblank⟩ := integer.exists_cons positive
  simp [Pattern.first?, Pattern.order, Pattern.measure, number, extent, unblank]

/-- The decimal text of an integer is one number. -/
theorem isToken_intText {n : Int}
    (short : (Nat.toDigits 10 n.natAbs).length ≤ Number.digitLimit) :
    IsToken (Number.intText n).toList (.number (.int n)) := by
  have integer := Number.isInteger_intText n
  have positive : 0 < (Nat.toDigits 10 n.natAbs).length := Nat.length_toDigits_pos
  obtain ⟨c, cs, split, -⟩ := integer.exists_cons positive
  refine ⟨integer.trimBlank_eq, by simp [split], ?_⟩
  apply tokensFrom_whole 0 (integer.first?_eq positive)
  rw [decode, integer.numberValue_eq, Number.readInteger_intText short]
  rfl

end Lexer

/-- A text that is one token for a constant is an expression for that constant. -/
theorem Expression.parse_of_isToken {text : List Char} {lexeme : Lexeme} {value : Literal}
    (token : Lexer.IsToken text lexeme)
    (constant : ∀ state stop, Parser.State.step state ⟨lexeme, text, stop⟩ =
      .ok (state.push (.node (.literal value)))) :
    parse (String.ofList text) = .ok ⟨String.ofList text, .literal value⟩ := by
  have unchanged : Text.trim (String.ofList text) = String.ofList text := by
    rw [Text.trim, String.toList_ofList, token.trimmed]
  have given : String.ofList text ≠ "" := by
    intro empty
    have nothing := congrArg String.toList empty
    rw [String.toList_ofList] at nothing
    exact token.nonempty nothing
  rw [parse, unchanged, if_neg given, parseTrimmed, Lexer.tokenize, String.toList_ofList,
    token.lexed]
  simp only [Parser.parse, Parser.run, List.foldlM_cons, List.foldlM_nil, constant]
  rfl

end Promptline
