import Promptline.Proofs.Answer
import Promptline.Proofs.Expression.Pattern

/-!
# Tokens tile their source

The tokens of a text and the white space between them make it up.  Where lexing stops at a character
that starts no token, they make up what stands before it, and no pattern fits there.
-/

namespace Promptline.Lexer

/-- What stands in a text from one offset to another. -/
def slice (source : List Char) (lo hi : Nat) : List Char :=
  (source.drop lo).take (hi - lo)

theorem slice_self (source : List Char) (lo : Nat) : slice source lo lo = [] := by
  rw [slice, Nat.sub_self, List.take_zero]

theorem slice_append {source : List Char} {lo middle hi : Nat} (first : lo ≤ middle)
    (second : middle ≤ hi) :
    slice source lo hi = slice source lo middle ++ slice source middle hi := by
  have whole : hi - lo = (middle - lo) + (hi - middle) := by omega
  rw [slice, slice, slice, whole, List.take_add, List.drop_drop, Nat.add_sub_cancel' first]

theorem slice_middle (front text back : List Char) :
    slice (front ++ (text ++ back)) front.length (front.length + text.length) = text := by
  rw [slice, List.drop_left, Nat.add_sub_cancel_left, List.take_left]

/-- A token means what its text means, for a pattern that the text belongs to. -/
def Belongs (token : Token) : Prop :=
  ∃ pattern : Pattern, pattern ≠ .blank ∧ token.text ∈ pattern.language ∧
    decode token.text pattern = .ok (some token.lexeme)

/-- Tokens in order, and nothing but white space beside them, make up a text from one offset to
another. -/
inductive Tiles (source : List Char) : Nat → List Token → Nat → Prop
  /-- White space alone. -/
  | blank {lo hi : Nat} (ordered : lo ≤ hi) (within : hi ≤ source.length)
      (gap : ∀ c ∈ slice source lo hi, Text.isBlank c = true) : Tiles source lo [] hi
  /-- White space, then a token, and what makes up the rest. -/
  | token {lo hi : Nat} {token : Token} {later : List Token} (ordered : lo ≤ token.start)
      (nonempty : token.start < token.stop)
      (gap : ∀ c ∈ slice source lo token.start, Text.isBlank c = true)
      (text_eq : token.text = slice source token.start token.stop) (belongs : Belongs token)
      (rest : Tiles source token.stop later hi) : Tiles source lo (token :: later) hi

/-- White space in front changes nothing. -/
theorem Tiles.of_gap {source : List Char} {lo middle hi : Nat} {tokens : List Token}
    (ordered : lo ≤ middle) (gap : ∀ c ∈ slice source lo middle, Text.isBlank c = true)
    (tiles : Tiles source middle tokens hi) : Tiles source lo tokens hi := by
  have joined {stop : Nat} (further : middle ≤ stop)
      (more : ∀ c ∈ slice source middle stop, Text.isBlank c = true) :
      ∀ c ∈ slice source lo stop, Text.isBlank c = true := by
    intro c member
    rw [slice_append ordered further] at member
    exact (List.mem_append.mp member).elim (gap c) (more c)
  cases tiles with
  | blank further within more =>
      exact .blank (Nat.le_trans ordered further) within (joined further more)
  | token further nonempty more text_eq belongs rest =>
      have whole := joined further more
      exact .token (Nat.le_trans ordered further) nonempty whole text_eq belongs rest

/-- Only white space has no meaning. -/
theorem eq_blank_of_decode {text : List Char} {pattern : Pattern}
    (decoded : decode text pattern = .ok none) : pattern = .blank := by
  cases pattern with
  | blank => rfl
  | number =>
      rw [decode] at decoded
      cases value : numberValue text <;> simp [value, Except.map] at decoded
  | string =>
      rw [decode] at decoded
      split at decoded <;> simp at decoded
  | _ => simp [decode] at decoded

theorem ne_blank_of_decode {text : List Char} {pattern : Pattern} {lexeme : Lexeme}
    (decoded : decode text pattern = .ok (some lexeme)) : pattern ≠ .blank := by
  rintro rfl
  simp [decode] at decoded

/-- The first piece of a text that has tokens: white space or the text of the first token. -/
theorem exists_first_piece {offset : Nat} {cs : List Char} {tokens : List Token}
    (nonempty : cs ≠ []) (lexed : tokensFrom offset cs = .ok tokens) :
    ∃ text rest pattern lexeme later, cs = text ++ rest ∧ text ∈ pattern.language ∧
      Pattern.first? cs = some (pattern, text.length) ∧ decode text pattern = .ok lexeme ∧
      tokensFrom (offset + text.length) rest = .ok later ∧
      tokens = (lexeme.map fun lexeme => ⟨lexeme, text, offset⟩).toList ++ later := by
  obtain ⟨pattern, length, lexeme, later, hit, -, decoded, read, shape⟩ :=
    tokensFrom_eq_ok nonempty lexed
  obtain ⟨measured, -⟩ := Pattern.measure_of_first? hit
  have within : length ≤ cs.length := measured ▸ pattern.measure_le_length cs
  have text_length : (cs.take length).length = length := List.length_take_of_le within
  refine ⟨cs.take length, cs.drop length, pattern, lexeme, later, ?_, Pattern.mem_of_first? hit, ?_,
    decoded, ?_, shape⟩
  · rw [List.take_append_drop]
  · rw [text_length, hit]
  · rw [text_length, read]

/-- A first piece comes before the tokens of the rest. -/
theorem tokensFrom_append {offset : Nat} {text rest : List Char} {pattern : Pattern}
    {lexeme : Option Lexeme} {later : List Token}
    (first : Pattern.first? (text ++ rest) = some (pattern, text.length))
    (decoded : decode text pattern = .ok lexeme)
    (behind : tokensFrom (offset + text.length) rest = .ok later) :
    tokensFrom offset (text ++ rest) =
      .ok ((lexeme.map fun lexeme => ⟨lexeme, text, offset⟩).toList ++ later) := by
  have cut : (text ++ rest).take text.length = text := List.take_left
  have read := @tokensFrom_of_first? offset _ _ _ lexeme later first
    (by rw [cut, decoded]) (by rw [List.drop_left, behind])
  rwa [cut] at read

/-- The tokens of a text tile the place where it stands. -/
theorem tiles_of_tokensFrom {cs : List Char} {tokens : List Token} (front back : List Char)
    (lexed : tokensFrom front.length cs = .ok tokens) :
    Tiles (front ++ (cs ++ back)) front.length tokens (front.length + cs.length) := by
  induction size : cs.length using Nat.strong_induction_on generalizing front cs tokens with
  | h size ih =>
  subst size
  by_cases nonempty : cs = []
  · subst nonempty
    rw [tokensFrom] at lexed
    obtain rfl := Except.ok.inj lexed
    refine .blank (Nat.le_refl _) (by simp) ?_
    simp [slice_self]
  · obtain ⟨text, rest, pattern, lexeme, later, rfl, member, -, decoded, read, rfl⟩ :=
      exists_first_piece nonempty lexed
    have positive := List.length_pos_iff.mpr (Pattern.ne_nil_of_mem member)
    have shorter : rest.length < (text ++ rest).length := by
      rw [List.length_append]
      omega
    have behind := ih _ shorter (front ++ text) (by rw [List.length_append, read]) rfl
    have whole : (text ++ rest).length = text.length + rest.length := List.length_append
    rw [List.append_assoc, ← List.append_assoc text, List.length_append, Nat.add_assoc, ← whole]
      at behind
    have text_eq : slice (front ++ (text ++ rest ++ back)) front.length
        (front.length + text.length) = text := by
      rw [List.append_assoc text, slice_middle]
    cases lexeme with
    | none =>
        obtain rfl := eq_blank_of_decode decoded
        refine behind.of_gap (Nat.le_add_right _ _) ?_
        rw [text_eq]
        exact (mem_several_single.mp member).2
    | some lexeme =>
        refine .token (Nat.le_refl _) (Nat.lt_add_of_pos_right positive) ?_ text_eq.symm
          ⟨pattern, ne_blank_of_decode decoded, member, decoded⟩ behind
        simp [slice_self]

/-! ## Where lexing stops -/

/-- A fault of the lexer's own: no pattern fits at an offset. -/
def IsUnmatched (fault : ParseFault) (offset : Nat) : Prop :=
  fault = .unterminatedString offset ∨ ∃ c, fault = .unexpectedChar c offset

theorem isUnmatched_unmatched_iff (c : Char) (offset position : Nat) :
    IsUnmatched (unmatched c offset) position ↔ position = offset := by
  rw [IsUnmatched, unmatched]
  split <;> simp [eq_comm]

theorem numberValue_ne_malformed (text : List Char) (fault : ParseFault) :
    numberValue text ≠ .error (.malformed fault) := by
  unfold numberValue
  split
  · simp
  · split
    · simp
    · split <;> simp

theorem decode_ne_unmatched (text : List Char) (pattern : Pattern) {fault : ParseFault}
    {offset : Nat} (own : IsUnmatched fault offset) :
    decode text pattern ≠ .error (.malformed fault) := by
  intro stopped
  cases pattern with
  | number =>
      rw [decode] at stopped
      have readable := numberValue_ne_malformed text fault
      cases value : numberValue text <;> simp_all [Except.map]
  | string =>
      rw [decode] at stopped
      split at stopped
      · contradiction
      · obtain rfl | ⟨c, rfl⟩ := own <;> simp at stopped
  | _ => simp [decode] at stopped

/-- Where no pattern fits, what stands before has tokens of its own. -/
theorem exists_of_unmatched {offset position : Nat} {cs : List Char} {fault : ParseFault}
    (own : IsUnmatched fault position)
    (stopped : tokensFrom offset cs = .error (.malformed fault)) :
    ∃ front c rest tokens, cs = front ++ c :: rest ∧ position = offset + front.length ∧
      fault = unmatched c position ∧ tokensFrom offset front = .ok tokens ∧
      Pattern.first? (c :: rest) = none := by
  fun_induction tokensFrom offset cs with
  | case1 => contradiction
  | case2 offset c cs nothing =>
      obtain rfl : unmatched c offset = fault := by simpa using stopped
      obtain rfl := (isUnmatched_unmatched_iff c offset position).mp own
      exact ⟨[], c, cs, [], rfl, rfl, rfl, by rw [tokensFrom], nothing⟩
  | case3 offset c cs pattern length hit text ih =>
      obtain ⟨measured, positive⟩ := Pattern.measure_of_first? hit
      have within : length ≤ (c :: cs).length := measured ▸ pattern.measure_le_length _
      have behind : (c :: cs).drop length = cs.drop (length - 1) := List.drop_cons positive
      obtain undecoded | ⟨lexeme, decoded, continues⟩ := bind_eq_error_iff.mp stopped
      · exact absurd undecoded (decode_ne_unmatched text pattern own)
      · have later : tokensFrom (offset + length) (cs.drop (length - 1)) =
            .error (.malformed fault) := by
          obtain later | ⟨tokens, -, impossible⟩ := bind_eq_error_iff.mp continues
          · exact later
          · cases lexeme <;> cases impossible
        obtain ⟨front, d, rest, tokens, split, rfl, fault_eq, lexed, nothing⟩ := ih later
        have text_length : text.length = length := List.length_take_of_le within
        have whole : c :: cs = text ++ (front ++ d :: rest) := by
          rw [← split, ← behind, List.take_append_drop]
        rw [whole, ← text_length] at hit
        rw [← text_length] at lexed
        have front_lexed := tokensFrom_append (Pattern.first?_append_left hit) decoded lexed
        refine ⟨text ++ front, d, rest, _, ?_, ?_, fault_eq, front_lexed, nothing⟩
        · rw [whole, List.append_assoc]
        · rw [List.length_append, text_length, Nat.add_assoc]

/-- Lexing tiles: if it succeeds, the tokens and the white space between them make up the source, at
whose end the parser takes the end of the expression.  If it stops at a character that starts no
token, then tokens of their own and white space make up what stands before it, and no pattern fits
there. -/
theorem tokenize_tiles (source : String) :
    (∀ tokens, tokenize source = .ok tokens →
      Tiles source.toList 0 tokens source.length ∧
        Expression.parseTrimmed source =
          match Parser.parse tokens source.length with
          | .error fault => .error (.parse ⟨fault, source⟩)
          | .ok node => .ok ⟨source, node⟩) ∧
    ∀ fault offset, tokenize source = .error (.malformed fault) → IsUnmatched fault offset →
      ∃ c rest tokens, source.toList.drop offset = c :: rest ∧ fault = unmatched c offset ∧
        tokenize (String.ofList (source.toList.take offset)) = .ok tokens ∧
        Tiles source.toList 0 tokens offset ∧
        ∀ (pattern : Pattern), ∀ text ∈ pattern.language, ¬ text <+: c :: rest := by
  constructor
  · intro tokens lexed
    constructor
    · have tiles := tiles_of_tokensFrom [] [] lexed
      rwa [List.nil_append, List.append_nil, List.length_nil, Nat.zero_add,
        String.length_toList] at tiles
    · cases parsed : Parser.parse tokens source.length <;>
        simp [Expression.parseTrimmed, lexed, parsed]
  · intro fault offset stopped own
    obtain ⟨front, c, rest, tokens, split, position, fault_eq, lexed, nothing⟩ :=
      exists_of_unmatched own stopped
    rw [Nat.zero_add] at position
    subst position
    have tiles := tiles_of_tokensFrom [] (c :: rest) lexed
    rw [List.nil_append, ← split, List.length_nil, Nat.zero_add] at tiles
    refine ⟨c, rest, tokens, ?_, fault_eq, ?_, tiles, Pattern.first?_eq_none_iff.mp nothing⟩
    · rw [split, List.drop_left]
    · rw [split, List.take_left, tokenize, String.toList_ofList, lexed]

/-- Tiling at two sources: one has tokens, and in the other a string is not closed. -/
theorem tokenize_tiles_closed_and_unclosed :
    (∃ tokens, tokenize " .A|upper" = .ok tokens ∧ Tiles " .A|upper".toList 0 tokens 9) ∧
    tokenize ".A \"x" = .error (.malformed (.unterminatedString 3)) ∧
      ∃ tokens, tokenize (String.ofList ".A ".toList) = .ok tokens ∧
        Tiles ".A \"x".toList 0 tokens 3 := by
  have lexed : tokenize " .A|upper" = .ok
      [⟨.field ["A"], ['.', 'A'], 1⟩, ⟨.pipe, ['|'], 3⟩,
        ⟨.identifier "upper", ['u', 'p', 'p', 'e', 'r'], 4⟩] := by cbv
  have stopped : tokenize ".A \"x" = .error (.malformed (.unterminatedString 3)) := by cbv
  obtain ⟨tiles, -⟩ := (tokenize_tiles " .A|upper").1 _ lexed
  obtain ⟨c, rest, tokens, -, -, front_lexed, front_tiles, -⟩ :=
    (tokenize_tiles ".A \"x").2 _ 3 stopped (.inl rfl)
  exact ⟨⟨_, lexed, tiles⟩, stopped, tokens, front_lexed, front_tiles⟩

end Promptline.Lexer
