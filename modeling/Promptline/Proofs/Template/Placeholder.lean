import Promptline.Proofs.Expression.Inert
import Promptline.Proofs.Template.Grammar

/-!
# Expressions as placeholders

The scanner of templates and the lexer of expressions find the ends of strings each in its own way.
On every text that the lexer accepts they agree: the scanner comes out of it outside any string,
without having met a closing delimiter.  So an expression between delimiters is one placeholder.
-/

namespace Promptline

/-- An expression is parsed without the white space around it. -/
theorem Expression.parse_trim {source : String} {expression : Expression}
    (parsed : parse source = .ok expression) : parse (Text.trim source) = .ok expression := by
  rw [parse] at parsed ⊢
  rw [Text.trim_trim]
  split at parsed
  · contradiction
  · next given =>
      rw [if_neg given]
      exact parsed

namespace Template

open Lexer (Inert)

/-- A search for the end of an action that starts outside any string comes out of the text outside
any string. -/
def Passes (text : List Char) : Prop :=
  ∀ rest, insideLength? none (text ++ rest) = (insideLength? none rest).map (· + text.length)

theorem passes_nil : Passes [] := by
  intro rest
  simp

theorem Passes.append {front back : List Char} (passes : Passes front) (later : Passes back) :
    Passes (front ++ back) := by
  intro rest
  rw [List.append_assoc, passes, later, Option.map_map]
  congr 1
  funext length
  simp only [Function.comp_apply, List.length_append]
  omega

theorem insideLength?_of_not_mem {c : Char} (outside : c ∉ Lexer.delimiters) (cs : List Char) :
    insideLength? none (c :: cs) = (insideLength? none cs).map (· + 1) := by
  simp only [Lexer.delimiters, List.mem_cons, List.not_mem_nil, not_or, or_false] at outside
  obtain ⟨unclosed, unquoted, unraw⟩ := outside
  rw [insideLength?.eq_3 _ _ fun _ brace _ => unclosed brace]
  simp [isQuote, unquoted, unraw]

theorem passes_of_inert {text : List Char} (inert : Inert text) : Passes text := by
  induction text with
  | nil => exact passes_nil
  | cons c text ih =>
      obtain ⟨outside, others⟩ := List.forall_mem_cons.mp inert
      intro rest
      rw [List.cons_append, insideLength?_of_not_mem outside, ih others rest, Option.map_map]
      congr 1

/-- Inside a quoted string the scanner gets to the end that the lexer sees. -/
theorem insideLength?_of_closingLength {cs : List Char} {length : Nat}
    (closes : Text.JsonString.closingLength cs = some length) (rest : List Char) :
    insideLength? (some '"') (cs.take length ++ rest) =
      (insideLength? none rest).map (· + (cs.take length).length) := by
  fun_induction Text.JsonString.closingLength cs generalizing length with
  | case1 => contradiction
  | case2 cs =>
      obtain rfl := Option.some.inj closes
      rfl
  | case3 => contradiction
  | case4 => contradiction
  | case5 cs => contradiction
  | case6 c cs inside ih =>
      obtain ⟨more, closes_later, rfl⟩ := Option.map_eq_some_iff.mp closes
      rw [List.take_succ_cons, List.take_succ_cons, List.cons_append, List.cons_append,
        insideLength?, ih closes_later, Option.map_map]
      rfl
  | case7 c cs unquoted _ unfinished unescaped ih =>
      obtain ⟨more, closes_later, rfl⟩ := Option.map_eq_some_iff.mp closes
      -- A lone backslash ends no string, so what follows the string is never taken as escaped.
      have plain : ∀ d others, '"' = '"' → c = '\\' → cs.take more ++ rest = d :: others →
          False := by
        rintro d others - rfl -
        cases cs with
        | nil => exact unfinished rfl rfl
        | cons e cs => exact unescaped e cs rfl rfl
      have open_still : (if c = '"' then none else some '"') = some '"' := if_neg unquoted
      rw [List.take_succ_cons, List.cons_append, insideLength?.eq_5 _ _ _ plain, open_still,
        ih closes_later, Option.map_map]
      rfl

theorem passes_string (cs : List Char) : Passes (cs.take (Lexer.stringLength cs)) := by
  unfold Lexer.stringLength
  split
  · next cs =>
      cases closes : Text.JsonString.closingLength cs with
      | none => exact passes_nil
      | some length =>
          intro rest
          rw [Option.map_some, Option.getD_some, List.take_succ_cons, List.cons_append,
            insideLength?.eq_3 _ _ (by simp)]
          simp only [isQuote, beq_self_eq_true, Bool.true_or, if_true]
          rw [insideLength?_of_closingLength closes, Option.map_map]
          rfl
  · exact passes_nil

theorem insideLength?_raw {text : List Char} (inside : Lexer.rawMark ∉ text) (rest : List Char) :
    insideLength? (some Lexer.rawMark) (text ++ Lexer.rawMark :: rest) =
      (insideLength? none rest).map (· + (text.length + 1)) := by
  have plain (c : Char) (cs : List Char) : insideLength? (some Lexer.rawMark) (c :: cs) =
      (insideLength? (if c = Lexer.rawMark then none else some Lexer.rawMark) cs).map (· + 1) :=
    insideLength?.eq_5 _ _ _ fun _ _ quoted => absurd quoted (by decide)
  induction text with
  | nil => rw [List.nil_append, plain, if_pos rfl, List.length_nil, Nat.zero_add]
  | cons c text ih =>
      rw [List.mem_cons, not_or] at inside
      rw [List.cons_append, plain, if_neg (Ne.symm inside.1), ih inside.2, Option.map_map]
      rfl

theorem passes_raw (cs : List Char) : Passes (cs.take (Lexer.rawLength cs)) := by
  unfold Lexer.rawLength
  split
  · next c cs =>
      split
      · next mark =>
          simp only
          split
          · next closed =>
              subst mark
              have outside : Lexer.rawMark ∉ cs.takeWhile (· != Lexer.rawMark) := by
                intro member
                simpa using List.mem_takeWhile_imp member
              obtain ⟨last, stops, cut⟩ := Text.take_extent_succ closed
              obtain rfl : last = Lexer.rawMark := by simpa using stops
              intro rest
              rw [List.take_succ_cons, cut, List.cons_append, List.append_assoc,
                insideLength?.eq_3 _ _ (by simp [Lexer.rawMark])]
              simp only [isQuote, beq_self_eq_true, Bool.or_true, if_true, List.singleton_append]
              rw [insideLength?_raw outside, Option.map_map, List.length_cons, List.length_append]
              rfl
          · exact passes_nil
      · exact passes_nil
  · exact passes_nil

open Lexer (Pattern)

theorem passes_first? {cs : List Char} {pattern : Pattern} {length : Nat}
    (hit : Pattern.first? cs = some (pattern, length)) : Passes (cs.take length) := by
  obtain ⟨rfl, -⟩ := Pattern.measure_of_first? hit
  by_cases string : pattern = .string
  · subst string
    exact passes_string cs
  · by_cases raw : pattern = .raw
    · subst raw
      exact passes_raw cs
    · exact passes_of_inert (Lexer.inert_measure cs ⟨string, raw⟩)

/-- The scanner comes out of every text that the lexer accepts. -/
theorem passes_of_tokensFrom {offset : Nat} {cs : List Char} {tokens : List Token}
    (lexed : Lexer.tokensFrom offset cs = .ok tokens) : Passes cs := by
  induction size : cs.length using Nat.strongRecOn generalizing offset cs tokens with
  | ind size ih =>
      subst size
      by_cases empty : cs = []
      · rw [empty]
        exact passes_nil
      · obtain ⟨pattern, length, _, later, hit, positive, -, behind, -⟩ :=
          Lexer.tokensFrom_eq_ok empty lexed
        have nonempty := List.length_pos_iff.mpr empty
        have shorter : (cs.drop length).length < cs.length := by
          rw [List.length_drop]
          omega
        rw [← List.take_append_drop length cs]
        exact (passes_first? hit).append (ih _ shorter behind rfl)

/-- An expression between delimiters. -/
def placeholder (source : String) : String :=
  "\x7b\x7b " ++ source ++ " \x7d\x7d"

/-- The first token of a text is one of the keywords. -/
def StartsWithKeyword (source : String) : Prop :=
  ∃ first rest, Lexer.tokenize (Text.trim source) = .ok (first :: rest) ∧
    ∃ word ∈ keywords, first.lexeme = .identifier (String.ofList word)

theorem toList_placeholder (source : String) :
    (placeholder source).toList = '{' :: '{' :: ' ' :: (source.toList ++ [' ', '}', '}']) := by
  simp [placeholder]

theorem passes_source {source : String} {tokens : List Token}
    (lexed : Lexer.tokenize (Text.trim source) = .ok tokens) : Passes source.toList := by
  obtain ⟨front, back, split, before, behind⟩ := Text.exists_margins Text.isBlank source.toList
  rw [Lexer.tokenize, Text.trim, String.toList_ofList] at lexed
  have blank {margin : List Char} (all : ∀ c ∈ margin, Text.isBlank c = true) : Passes margin :=
    passes_of_inert (Lexer.inert_of_forall Lexer.blank_apart all)
  rw [split]
  exact ((blank before).append (passes_of_tokensFrom lexed)).append (blank behind)

/-- The action that an expression between delimiters is. -/
def placeholderAction (source : String) : Action where
  source := (placeholder source).toList
  body := Text.trimBlank source.toList
  start := 0
  trimLeft := false
  trimRight := false

/-- An action with nothing behind the closing delimiter is read as a whole. -/
theorem scanAction_of_length {inner : List Char}
    (length : insideLength? none (inner ++ ['}', '}']) = some inner.length)
    (uncommented : commentOpening? (inner ++ ['}', '}']) = none) (start : Nat) :
    scanAction start ('{' :: '{' :: (inner ++ ['}', '}'])) =
      .ok (actionOf start ('{' :: '{' :: (inner ++ ['}', '}'])) inner) := by
  have whole : ('{' :: '{' :: (inner ++ ['}', '}'])).take (inner.length + 4) =
      '{' :: '{' :: (inner ++ ['}', '}']) := by
    apply List.take_of_length_le
    simp
  have inside : (inner ++ ['}', '}']).take inner.length = inner := List.take_left
  simp only [scanAction, List.drop_succ_cons, List.drop_zero]
  rw [uncommented, length]
  simp only
  rw [whole, inside]

/-- An action whose inside has no closing delimiter outside strings ends where it is closed. -/
theorem scanAction_of_passes {inner : List Char} (passes : Passes inner)
    (uncommented : commentOpening? (inner ++ ['}', '}']) = none) (start : Nat) :
    scanAction start ('{' :: '{' :: (inner ++ ['}', '}'])) =
      .ok (actionOf start ('{' :: '{' :: (inner ++ ['}', '}'])) inner) := by
  refine scanAction_of_length ?_ uncommented start
  rw [passes, insideLength?, Option.map_some, Nat.zero_add]

theorem scanAction_placeholder {source : String} {tokens : List Token}
    (lexed : Lexer.tokenize (Text.trim source) = .ok tokens) :
    scanAction 0 (placeholder source).toList = .ok (placeholderAction source) := by
  have blank : Passes [' '] := passes_of_inert (Lexer.inert_nil.cons (by decide))
  have passes : Passes (' ' :: (source.toList ++ [' '])) :=
    blank.append ((passes_source lexed).append blank)
  have space : ∀ c ∈ [' '], Text.isBlank c = true := List.forall_mem_singleton.mpr (by decide)
  have body : Text.trimBlank (' ' :: (source.toList ++ [' '])) = Text.trimBlank source.toList :=
    Text.trimWhile_margins space space source.toList
  have whole : (placeholder source).toList =
      '{' :: '{' :: ((' ' :: (source.toList ++ [' '])) ++ ['}', '}']) := by
    simp [toList_placeholder]
  rw [placeholderAction, whole, scanAction_of_passes passes rfl]
  simp [actionOf, body, opensWithMarker]

theorem scan_placeholder {source : String} {tokens : List Token}
    (lexed : Lexer.tokenize (Text.trim source) = .ok tokens) :
    (scan (placeholder source)).items = [.action (placeholderAction source)] ∧
      (scan (placeholder source)).error = none := by
  have opened := toList_placeholder source
  have read := scanAction_placeholder lexed
  have size : (placeholderAction source).source = (placeholder source).toList := rfl
  rw [opened] at read size
  have rest : (placeholderAction source).source.length - 1 =
      ('{' :: ' ' :: (source.toList ++ [' ', '}', '}'])).length := by
    rw [size, List.length_cons, Nat.add_sub_cancel]
  rw [scan, scanFrom_eq, opened, splitAtOpen, scanOpen, List.length_nil, read]
  simp only
  rw [rest, List.drop_length, scanFrom_eq]
  exact ⟨rfl, rfl⟩

/-- Each keyword is a name, and not one of the constants. -/
theorem exists_name_of_keyword {word : List Char} (listed : word ∈ keywords) :
    ∃ c cs, word = c :: cs ∧ Text.isNameStart c = true ∧ (∀ d ∈ cs, Text.isWord d = true) ∧
      Lexer.nameLexeme word = .identifier (String.ofList word) := by
  simp only [keywords, List.mem_cons, List.not_mem_nil, or_false] at listed
  rcases listed with rfl | rfl | rfl
  · exact ⟨'i', ['f'], rfl, by decide, List.all_eq_true.mp (by decide), rfl⟩
  · exact ⟨'e', ['l', 's', 'e'], rfl, by decide, List.all_eq_true.mp (by decide), rfl⟩
  · exact ⟨'e', ['n', 'd'], rfl, by decide, List.all_eq_true.mp (by decide), rfl⟩

/-- A text that opens with a keyword has it as its first token. -/
theorem Opens.tokensFrom {word text argument : List Char} {offset : Nat} {tokens : List Token}
    (opens : Opens word text argument) (listed : word ∈ keywords)
    (lexed : Lexer.tokensFrom offset text = .ok tokens) :
    ∃ first rest, tokens = first :: rest ∧ first.lexeme = .identifier (String.ofList word) := by
  obtain ⟨rest, rfl, ends, -⟩ := opens
  obtain ⟨c, cs, rfl, starts, inside, named⟩ := exists_name_of_keyword listed
  have stops : rest.takeWhile Text.isWord = [] := by
    cases rest with
    | nil => rfl
    | cons d rest => simp [ends d rfl]
  have extent : Text.extent Text.isWord (cs ++ rest) = cs.length := by
    rw [Text.extent, List.takeWhile_append_of_pos inside, stops, List.append_nil]
  have first := Lexer.Pattern.first?_of_isNameStart starts (cs ++ rest)
  have taken : (c :: cs ++ rest).take (1 + cs.length) = c :: cs := by
    rw [Nat.add_comm, ← List.length_cons, List.take_left]
  rw [extent] at first
  obtain ⟨pattern, length, lexeme, later, hit, -, decoded, -, rfl⟩ :=
    Lexer.tokensFrom_eq_ok (by simp) lexed
  rw [List.cons_append, first] at hit
  obtain ⟨rfl, rfl⟩ := Prod.mk.inj (Option.some.inj hit)
  rw [taken, Lexer.decode, named] at decoded
  obtain rfl := Except.ok.inj decoded
  exact ⟨_, later, rfl, rfl⟩

/-- A text whose first token is no keyword does not open with one. -/
theorem not_opens_of_tokenize {source : String} {tokens : List Token}
    (lexed : Lexer.tokenize (Text.trim source) = .ok tokens)
    (plain : ¬ StartsWithKeyword source) :
    ∀ word ∈ keywords, ∀ argument, ¬ Opens word (Text.trimBlank source.toList) argument := by
  intro word listed argument opens
  have read := lexed
  rw [Lexer.tokenize, Text.trim, String.toList_ofList] at read
  obtain ⟨first, rest, rfl, lexeme⟩ := opens.tokensFrom listed read
  exact plain ⟨first, rest, lexed, word, listed, lexeme⟩

/-- An expression between delimiters is one placeholder, whatever stands in its strings. -/
theorem parse_placeholder {source : String} {tokens : List Token}
    (lexed : Lexer.tokenize (Text.trim source) = .ok tokens)
    (plain : ¬ StartsWithKeyword source) :
    parse (placeholder source) =
      { parts := [.action (placeholder source) (Text.trim source)] } := by
  obtain ⟨items, complete⟩ := scan_placeholder lexed
  have is : (placeholderAction source).Is .expression :=
    ⟨rfl, .expression (not_opens_of_tokenize lexed plain)⟩
  have derives := (@DerivesPart.placeholder maxConditionals _ is).single
  rw [parse_eq_iff_through, through_significant_eq_ok_iff, significant, items]
  have text : (placeholderAction source).text = placeholder source := String.ofList_toList
  rw [text] at derives
  exact ⟨complete, derives⟩

end Template

end Promptline
