import Promptline.Proofs.Expression.Piping
import Promptline.Proofs.Expression.Tiling

/-!
# White space between tokens

A token is read the same whatever white space stands beside it.  So the tokens of a text may be
written with single spaces between them, and white space may be put between any two of them.  The
parser notices only where it parts a closing parenthesis from the path behind it.
-/

namespace Promptline

namespace Token

/-- What a token means and the text it was read from. -/
def content (token : Token) : Lexeme × List Char :=
  (token.lexeme, token.text)

end Token

namespace Lexer

/-! ## Single spaces -/

/-- The texts of tokens with single spaces between them. -/
def spaced (tokens : List Token) : List Char :=
  Text.joinWith [' '] (tokens.map Token.text)

theorem spaced_cons (token : Token) {later : List Token} (more : later ≠ []) :
    spaced (token :: later) = token.text ++ ' ' :: spaced later := by
  obtain ⟨next, later, rfl⟩ := List.exists_cons_of_ne_nil more
  simp [spaced, Text.joinWith]

/-- The text of a token is that token by itself. -/
theorem tokensFrom_text {text rest : List Char} {pattern : Pattern} {lexeme : Lexeme}
    (first : Pattern.first? (text ++ rest) = some (pattern, text.length))
    (decoded : decode text pattern = .ok (some lexeme)) (offset : Nat) :
    tokensFrom offset text = .ok [⟨lexeme, text, offset⟩] := by
  have alone : Pattern.first? (text ++ []) = some (pattern, text.length) :=
    Pattern.first?_append_left first
  rw [List.append_nil] at alone
  exact tokensFrom_whole offset alone decoded

theorem tokensFrom_spaced {offset : Nat} {cs : List Char} {tokens : List Token}
    (lexed : tokensFrom offset cs = .ok tokens) (place : Nat) :
    ∃ again, tokensFrom place (spaced tokens) = .ok again ∧
      again.map Token.content = tokens.map Token.content := by
  induction size : cs.length using Nat.strong_induction_on
    generalizing cs tokens offset place with
  | h size ih =>
  subst size
  by_cases nonempty : cs = []
  · subst nonempty
    rw [tokensFrom] at lexed
    obtain rfl := Except.ok.inj lexed
    exact ⟨[], by rw [spaced, List.map_nil, Text.joinWith, tokensFrom], rfl⟩
  · obtain ⟨text, rest, pattern, lexeme, later, rfl, member, first, decoded, read, rfl⟩ :=
      exists_first_piece nonempty lexed
    have positive := List.length_pos_iff.mpr (Pattern.ne_nil_of_mem member)
    have shorter : rest.length < (text ++ rest).length := by
      rw [List.length_append]
      omega
    cases lexeme with
    | none => exact ih _ shorter read place rfl
    | some lexeme =>
        have alone := tokensFrom_text first decoded place
        rw [Option.map_some, Option.toList_some, List.singleton_append]
        by_cases last : later = []
        · subst last
          exact ⟨_, alone, rfl⟩
        · have blank : Text.isBlank ' ' = true := by decide
          obtain ⟨again, behind, same⟩ := ih _ shorter read (place + text.length + 1) rfl
          rw [← tokensFrom_of_isBlank _ blank] at behind
          have separated : Separated (' ' :: spaced later) := by
            simp [Separated, isSeparator, blank]
          have both := tokensFrom_separated separated alone behind
          refine ⟨_ :: again, by rw [spaced_cons _ last]; exact both, ?_⟩
          rw [List.map_cons, List.map_cons, same]
          rfl

/-! ## More white space -/

/-- A text may be cut where it cuts no token. -/
theorem exists_tokensFrom_cut {offset : Nat} {front back : List Char} {tokens : List Token}
    (lexed : tokensFrom offset (front ++ back) = .ok tokens)
    (uncut : ∀ token ∈ tokens, token.stop ≤ offset + front.length ∨
      offset + front.length ≤ token.start) :
    ∃ before behind, tokens = before ++ behind ∧ tokensFrom offset front = .ok before ∧
      tokensFrom (offset + front.length) back = .ok behind := by
  induction size : front.length using Nat.strong_induction_on
    generalizing front tokens offset with
  | h size ih =>
  subst size
  by_cases nonempty : front = []
  · subst nonempty
    exact ⟨[], tokens, rfl, by rw [tokensFrom], lexed⟩
  · obtain ⟨text, rest, pattern, lexeme, later, split, member, first, decoded, read, rfl⟩ :=
      exists_first_piece (List.append_ne_nil_of_left_ne_nil nonempty back) lexed
    rcases Nat.lt_or_ge front.length text.length with reaches | within
    · -- The first piece reaches over the cut, so it is no token.
      obtain ⟨more, rfl⟩ := List.prefix_of_prefix_length_le (List.prefix_append front back)
        (split ▸ List.prefix_append text rest) (Nat.le_of_lt reaches)
      rw [List.append_assoc] at split
      obtain rfl := List.append_cancel_left split
      have some_char := List.length_pos_iff.mpr nonempty
      cases lexeme with
      | some lexeme =>
          have beside := uncut _ List.mem_cons_self
          simp only [Token.stop] at beside
          omega
      | none =>
          obtain rfl := eq_blank_of_decode decoded
          obtain ⟨front_blank, more_blank⟩ :=
            List.forall_mem_append.mp (mem_several_single.mp member).2
          have nothing := tokensFrom_blanks offset front_blank []
          rw [List.append_nil, tokensFrom] at nothing
          rw [List.length_append, ← Nat.add_assoc] at read
          rw [Option.map_none, Option.toList_none, List.nil_append]
          exact ⟨[], later, rfl, nothing, by rw [tokensFrom_blanks _ more_blank, read]⟩
    · obtain ⟨front, rfl⟩ := List.prefix_of_prefix_length_le
        (split ▸ List.prefix_append text rest) (List.prefix_append front back) within
      rw [List.append_assoc] at split first
      obtain rfl := List.append_cancel_left split
      have positive := List.length_pos_iff.mpr (Pattern.ne_nil_of_mem member)
      have shorter : front.length < (text ++ front).length := by
        rw [List.length_append]
        omega
      have whole : offset + (text ++ front).length = offset + text.length + front.length := by
        rw [List.length_append, Nat.add_assoc]
      rw [whole] at uncut ⊢
      obtain ⟨before, behind, rfl, front_lexed, back_lexed⟩ := ih _ shorter read
        (fun token later => uncut token (List.mem_append_right _ later)) rfl
      exact ⟨_, behind, (List.append_assoc _ _ _).symm,
        tokensFrom_append (Pattern.first?_append_left first) decoded front_lexed, back_lexed⟩

/-- White space that is put where it cuts no token moves the tokens behind it. -/
theorem tokensFrom_spread {offset : Nat} {front back white : List Char} {before behind : List Token}
    (front_lexed : tokensFrom offset front = .ok before)
    (back_lexed : tokensFrom (offset + front.length) back = .ok behind)
    (whole : tokensFrom offset (front ++ back) = .ok (before ++ behind))
    (blank : ∀ c ∈ white, Text.isBlank c = true) :
    tokensFrom offset (front ++ (white ++ back)) =
      .ok (before ++ behind.map (Token.moved white.length)) := by
  have moved := tokensFrom_moved back_lexed white.length
  rw [← tokensFrom_blanks _ blank] at moved
  cases white with
  | nil =>
      have same : behind.map (Token.moved 0) = behind := List.map_id behind
      rw [List.nil_append, whole, List.length_nil, same]
  | cons c white =>
      refine tokensFrom_separated ?_ front_lexed moved
      simp [Separated, isSeparator, blank c List.mem_cons_self]

theorem Tiles.bounds {source : List Char} {lo hi : Nat} {tokens : List Token}
    (tiles : Tiles source lo tokens hi) :
    lo ≤ hi ∧ ∀ token ∈ tokens, lo ≤ token.start ∧ token.stop ≤ hi := by
  induction tiles with
  | blank ordered => exact ⟨ordered, by simp⟩
  | token ordered nonempty _ _ _ _ ih =>
      obtain ⟨further, inside⟩ := ih
      refine ⟨by omega, List.forall_mem_cons.mpr ⟨⟨ordered, further⟩, ?_⟩⟩
      intro token later
      have range := inside token later
      omega

end Lexer

namespace Parser

/-! ## Parsing tokens with other gaps -/

/-- Tokens that mean the same, where a path directly follows a closing parenthesis in both lists or
in neither.  The marks are where the tokens before end, if they end with such a parenthesis. -/
inductive Regapped : Option Nat → Option Nat → List Token → List Token → Prop
  /-- No tokens. -/
  | nil {mark other : Option Nat} : Regapped mark other [] []
  /-- A token, and the tokens behind it. -/
  | cons {mark other : Option Nat} {first second : Token} {later rest : List Token}
      (same : first.lexeme = second.lexeme)
      (glued : ∀ names, first.lexeme = .field names →
        (mark = some first.start ↔ other = some second.start))
      (behind : Regapped (endMark [first]) (endMark [second]) later rest) :
      Regapped mark other (first :: later) (second :: rest)

theorem Regapped.symm {mark other : Option Nat} {tokens again : List Token}
    (regapped : Regapped mark other tokens again) : Regapped other mark again tokens := by
  induction regapped with
  | nil => exact .nil
  | cons same glued _ ih =>
      exact .cons same.symm (fun names field => (glued names (same.trans field)).symm) ih

theorem Regapped.moved (distance : Nat) (mark : Option Nat) (tokens : List Token) :
    Regapped mark (mark.map (· + distance)) tokens (tokens.map (Token.moved distance)) := by
  induction tokens generalizing mark with
  | nil => exact .nil
  | cons token tokens ih =>
      refine .cons rfl (fun _ _ => ?_) ?_
      · cases mark <;> simp [Token.moved]
      · have behind := ih (endMark [token])
        rwa [← endMark_moved] at behind

/-- Pipelines that are alike: only where their parentheses stand may differ. -/
structure Frame.Alike (first second : Frame) : Prop where
  /-- The same expression before the last bar. -/
  piped : first.piped = second.piped
  /-- The same operands. -/
  operands : first.operands = second.operands

/-- States that are alike, frame by frame. -/
structure State.Alike (first second : State) : Prop where
  /-- The innermost pipelines are alike. -/
  frame : first.frame.Alike second.frame
  /-- So are those around them. -/
  outer : List.Forall₂ Frame.Alike first.outer second.outer

/-- After a token, a parenthesis that may be extended is the token itself. -/
theorem State.Takes.glue_eq {state next : State} {token : Token} (takes : Takes state token next) :
    next.frame.glue = endMark [token] := by
  cases takes with
  | atom reads =>
      have unmarked : endMark [token] = none := by
        cases lexeme : token.lexeme with
        | closeParen => rw [lexeme] at reads; cases reads
        | _ => simp [endMark, lexeme]
      rw [unmarked]
      rfl
  | glued field => simp [endMark, field]
  | openParen opens => simp [endMark, opens]
  | pipe bars => simp [endMark, bars]
  | closeParen closes => simp [endMark, closes, Frame.pushGroup]

/-- A token does the same in states that are alike, if it glues in both or in neither. -/
theorem State.Takes.alike {first second next : State} {token other : Token}
    (takes : Takes first token next) (alike : first.Alike second)
    (same : token.lexeme = other.lexeme)
    (glued : ∀ names, token.lexeme = .field names →
      (first.frame.glue = some token.start ↔ second.frame.glue = some other.start)) :
    ∃ after, Takes second other after ∧ next.Alike after := by
  obtain ⟨⟨piped, operands⟩, outer⟩ := alike
  cases takes with
  | atom reads apart =>
      refine ⟨_, .atom (same ▸ reads) ?_, ⟨piped, ?_⟩, outer⟩
      · rintro ⟨adjacent, ⟨names, field⟩, target, rest, follows⟩
        have field_first := same.trans field
        exact apart ⟨(glued names field_first).mpr adjacent, ⟨names, field_first⟩, target, rest,
          operands.trans follows⟩
      · exact congrArg (List.cons _) operands
  | glued field follows adjacent =>
      have adjacent_second := (glued _ field).mp adjacent
      exact ⟨_, .glued (same ▸ field) (operands.symm.trans follows) adjacent_second, ⟨piped, rfl⟩,
        outer⟩
  | openParen opens room =>
      refine ⟨_, .openParen (same ▸ opens) (outer.length_eq ▸ room), ⟨rfl, rfl⟩, ?_⟩
      exact .cons ⟨piped, operands⟩ outer
  | pipe bars applies =>
      rw [piped, operands] at applies
      exact ⟨_, .pipe (same ▸ bars) applies, ⟨rfl, rfl⟩, outer⟩
  | closeParen closes applies =>
      rw [piped, operands] at applies
      obtain ⟨frame, frames⟩ := second
      cases outer with
      | cons enclosing rest =>
        refine ⟨_, .closeParen (same ▸ closes) applies, ⟨enclosing.piped, ?_⟩, rest⟩
        exact congrArg (List.cons _) enclosing.operands

theorem Regapped.run {mark other : Option Nat} {tokens again : List Token}
    (regapped : Regapped mark other tokens again) {first second final : State}
    (first_mark : first.frame.glue = mark) (second_mark : second.frame.glue = other)
    (alike : first.Alike second) (taken : Parser.run first tokens = .ok final) :
    ∃ after, Parser.run second again = .ok after ∧ final.Alike after := by
  induction regapped generalizing first second with
  | nil =>
      obtain rfl := Except.ok.inj taken
      exact ⟨second, rfl, alike⟩
  | @cons _ _ token twin later rest same glued behind ih =>
      subst first_mark second_mark
      obtain ⟨middle, stepped, later_taken⟩ := bind_eq_ok_iff.mp taken
      have takes := State.takes_of_step stepped
      obtain ⟨next, also, still⟩ := takes.alike alike same glued
      rw [run_cons also]
      exact ih takes.glue_eq also.glue_eq still later_taken

/-- Where nothing is glued or parted, the expression is the same. -/
theorem Regapped.parse_eq_ok_iff {tokens again : List Token}
    (regapped : Regapped none none tokens again) (length other : Nat) (node : Node) :
    parse tokens length = .ok node ↔ parse again other = .ok node := by
  have transfer {tokens again : List Token} (regapped : Regapped none none tokens again)
      {length other : Nat} (parsed : parse tokens length = .ok node) :
      parse again other = .ok node := by
    obtain ⟨frame, taken, applies⟩ := parse_eq_ok_iff_exists_run.mp parsed
    obtain ⟨⟨after, outer⟩, also, ⟨piped, operands⟩, closed⟩ :=
      regapped.run rfl rfl ⟨⟨rfl, rfl⟩, .nil⟩ taken
    cases closed
    rw [piped, operands] at applies
    exact parse_eq_ok_iff_exists_run.mpr ⟨after, also, applies⟩
  exact ⟨transfer regapped, transfer regapped.symm⟩

theorem Regapped.append_left {behind again : List Token} {before : List Token}
    (nonempty : before ≠ [])
    (regapped : Regapped (endMark before) (endMark before) behind again) (mark : Option Nat) :
    Regapped mark mark (before ++ behind) (before ++ again) := by
  induction before generalizing mark with
  | nil => exact absurd rfl nonempty
  | cons token before ih =>
      refine .cons rfl (fun _ _ => Iff.rfl) ?_
      cases before with
      | nil => exact regapped
      | cons next before =>
          have last : endMark (token :: next :: before) = endMark (next :: before) := by
            simp [endMark]
          rw [last] at regapped
          exact ih (List.cons_ne_nil _ _) regapped _

theorem endMark_le {before : List Token} {place mark : Nat}
    (before_stop : ∀ token ∈ before, token.stop ≤ place) (marked : endMark before = some mark) :
    mark ≤ place := by
  obtain ⟨token, last, ends⟩ := Option.bind_eq_some_iff.mp marked
  have bound := before_stop token (List.mem_of_getLast? last)
  split at ends
  · obtain rfl := Option.some.inj ends
    exact bound
  · contradiction

/-- Tokens that are moved away glue nowhere. -/
theorem apart_moved {before behind : List Token} {place distance : Nat}
    (before_stop : ∀ token ∈ before, token.stop ≤ place)
    (behind_start : ∀ token ∈ behind, place ≤ token.start) (positive : 0 < distance) :
    Apart (endMark before) (behind.map (Token.moved distance)) := by
  intro moved head names field marked
  rw [List.head?_map] at head
  obtain ⟨token, first, rfl⟩ := Option.map_eq_some_iff.mp head
  have low := endMark_le before_stop marked
  have high := behind_start token (List.mem_of_head? first)
  simp only [Token.moved] at low
  omega

/-- Tokens that are moved glue nowhere new. -/
theorem Regapped.of_moved {before behind : List Token} {place : Nat}
    (before_stop : ∀ token ∈ before, token.stop ≤ place)
    (behind_start : ∀ token ∈ behind, place ≤ token.start)
    (apart : Apart (endMark before) behind) (distance : Nat) :
    Regapped none none (before ++ behind) (before ++ behind.map (Token.moved distance)) := by
  have joint : Regapped (endMark before) (endMark before) behind
      (behind.map (Token.moved distance)) := by
    cases behind with
    | nil => exact .nil
    | cons token behind =>
        refine .cons rfl (fun names field => ?_) ?_
        · have free := apart token rfl names field
          refine iff_of_false free fun marked => ?_
          have low := endMark_le before_stop marked
          have high := behind_start token List.mem_cons_self
          simp only [Token.moved] at low
          obtain rfl : distance = 0 := by omega
          exact free marked
        · have later := Regapped.moved distance (endMark [token]) behind
          rwa [← endMark_moved] at later
  by_cases empty : before = []
  · subst empty
    exact joint
  · exact joint.append_left empty none

end Parser

namespace Lexer

open Promptline.Parser (Apart endMark)

/-- The tokens of a source are the same, by what they mean and their texts, with single spaces
between them.  White space that is put where it cuts no token leaves the tokens before it as they
are and moves those behind it; then no path is glued there, and if none was before, the expression
is the same. -/
theorem tokenize_respaced {source : String} {tokens : List Token}
    (lexed : tokenize source = .ok tokens) :
    (∃ again, tokenize (String.ofList (spaced tokens)) = .ok again ∧
      again.map Token.content = tokens.map Token.content) ∧
    ∀ front white back, source.toList = front ++ back → (∀ c ∈ white, Text.isBlank c = true) →
      (∀ token ∈ tokens, token.stop ≤ front.length ∨ front.length ≤ token.start) →
      ∃ before behind, tokens = before ++ behind ∧
        (∀ token ∈ before, token.stop ≤ front.length) ∧
        (∀ token ∈ behind, front.length ≤ token.start) ∧
        tokenize (String.ofList (front ++ (white ++ back))) =
          .ok (before ++ behind.map (Token.moved white.length)) ∧
        (white ≠ [] → Apart (endMark before) (behind.map (Token.moved white.length))) ∧
        (Apart (endMark before) behind → ∀ node,
          Parser.parse tokens source.length = .ok node ↔
            Parser.parse (before ++ behind.map (Token.moved white.length))
              (source.length + white.length) = .ok node) := by
  constructor
  · obtain ⟨again, read, same⟩ := tokensFrom_spaced lexed 0
    exact ⟨again, by rw [tokenize, String.toList_ofList, read], same⟩
  · intro front white back split blank uncut
    rw [tokenize, split] at lexed
    obtain ⟨before, behind, rfl, front_lexed, back_lexed⟩ :=
      exists_tokensFrom_cut lexed (by simpa using uncut)
    have before_tiles := tiles_of_tokensFrom [] [] front_lexed
    have behind_tiles := tiles_of_tokensFrom front []
      (by rw [← Nat.zero_add front.length, back_lexed])
    have before_stop : ∀ token ∈ before, token.stop ≤ front.length := fun token member => by
      have bounds := before_tiles.bounds.2 token member
      rw [List.length_nil, Nat.zero_add] at bounds
      exact bounds.2
    have behind_start : ∀ token ∈ behind, front.length ≤ token.start := fun token member =>
      (behind_tiles.bounds.2 token member).1
    refine ⟨before, behind, rfl, before_stop, behind_start, ?_, ?_, ?_⟩
    · rw [tokenize, String.toList_ofList]
      exact tokensFrom_spread front_lexed back_lexed lexed blank
    · intro nonempty
      exact Parser.apart_moved before_stop behind_start (List.length_pos_iff.mpr nonempty)
    · intro apart node
      exact (Parser.Regapped.of_moved before_stop behind_start apart _).parse_eq_ok_iff _ _ node

/-- Two numbers that are written together may as well stand apart. -/
theorem tokenize_respaced_numbers :
    let tokens : List Token := [⟨.number (.int 5), ['5'], 0⟩, ⟨.number (.int (-3)), ['-', '3'], 1⟩]
    tokenize "5-3" = .ok tokens ∧
      (∃ again, tokenize (String.ofList ['5', ' ', '-', '3']) = .ok again ∧
        again.map Token.content = tokens.map Token.content) ∧
      ∃ before behind, tokens = before ++ behind ∧
        tokenize (String.ofList (['5'] ++ ([' ', '\t'] ++ ['-', '3']))) =
          .ok (before ++ behind.map (Token.moved 2)) := by
  intro tokens
  have lexed : tokenize "5-3" = .ok tokens := by cbv
  have split : "5-3".toList = ['5'] ++ ['-', '3'] := by decide
  have blank : ∀ c ∈ [' ', '\t'], Text.isBlank c = true := by
    intro c member
    rcases List.mem_pair.mp member with rfl | rfl <;> decide
  have uncut : ∀ token ∈ tokens, token.stop ≤ ['5'].length ∨ ['5'].length ≤ token.start := by
    simp [tokens, Token.stop]
  obtain ⟨single, more⟩ := tokenize_respaced lexed
  obtain ⟨before, behind, whole, -, -, moved, -⟩ := more _ _ _ split blank uncut
  exact ⟨lexed, single, before, behind, whole, moved⟩

end Lexer

end Promptline
