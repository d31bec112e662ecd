import Promptline.Proofs.Expression.Grammar
import Promptline.Proofs.Expression.Separated

/-!
# Piping is passing an argument

An expression that is piped into a function call is the last argument of the call, and parentheses
around an expression change nothing.  Both are laws about texts: the tokens of the parts are found
again in the whole, and what they derive can be put together, one parenthesis deeper if need be.
-/

namespace Promptline

namespace Parser

/-! ## Derivations at another place -/

theorem endMark_moved (distance : Nat) (tokens : List Token) :
    endMark (tokens.map (Token.moved distance)) = (endMark tokens).map (· + distance) := by
  rw [endMark, endMark, List.getLast?_map]
  cases tokens.getLast? with
  | none => rfl
  | some token =>
      simp only [Option.map_some, Option.bind_some, Token.moved]
      cases token.lexeme <;> simp [Token.stop, Nat.add_right_comm]

theorem Apart.moved {mark : Option Nat} {tokens : List Token} (apart : Apart mark tokens)
    (distance : Nat) : Apart (mark.map (· + distance)) (tokens.map (Token.moved distance)) := by
  intro token member names field marked
  rw [List.head?_map] at member
  obtain ⟨original, first, rfl⟩ := Option.map_eq_some_iff.mp member
  obtain ⟨stop, same, adjacent⟩ := Option.map_eq_some_iff.mp marked
  exact apart original first names field (by rw [same, Nat.add_right_cancel adjacent])

mutual

/-- Only the distances between tokens matter. -/
theorem DerivesOperand.moved {depth : Nat} {tokens : List Token} {operand : Operand}
    (derives : DerivesOperand depth tokens operand) (distance : Nat) :
    DerivesOperand depth (tokens.map (Token.moved distance)) operand :=
  match derives with
  | .atom reads => .atom reads
  | .group opens inside closes => by
      rw [List.map_cons, List.map_append]
      exact .group opens (inside.moved distance) closes
  | .chain opens inside closes field adjacent => by
      rw [List.map_cons, List.map_append]
      refine .chain opens (inside.moved distance) closes field ?_
      simp only [Token.moved, Token.stop, adjacent, Nat.add_right_comm]

theorem DerivesOperands.moved {depth : Nat} {tokens : List Token} {operands : List Operand}
    (derives : DerivesOperands depth tokens operands) (distance : Nat) :
    DerivesOperands depth (tokens.map (Token.moved distance)) operands :=
  match derives with
  | .nil => .nil
  | .snoc before last apart => by
      rw [List.map_append]
      refine .snoc (before.moved distance) (last.moved distance) ?_
      rw [endMark_moved]
      exact apart.moved distance

theorem DerivesPipeline.moved {depth : Nat} {tokens : List Token} {node : Node}
    (derives : DerivesPipeline depth tokens node) (distance : Nat) :
    DerivesPipeline depth (tokens.map (Token.moved distance)) node :=
  match derives with
  | .command command applies => .command (command.moved distance) applies
  | .pipe before bars command applies => by
      rw [List.map_append, List.map_cons]
      exact .pipe (before.moved distance) bars (command.moved distance) applies

end

/-! ## Nesting -/

/-- What a token does to the number of open parentheses. -/
def turn : Lexeme → Int
  | .openParen => 1
  | .closeParen => -1
  | _ => 0

/-- How many more parentheses tokens open than they close. -/
def level (tokens : List Token) : Int :=
  (tokens.map fun token => turn token.lexeme).sum

@[simp]
theorem level_nil : level [] = 0 := rfl

@[simp]
theorem level_cons (token : Token) (tokens : List Token) :
    level (token :: tokens) = turn token.lexeme + level tokens := by
  simp [level]

@[simp]
theorem level_append (front back : List Token) :
    level (front ++ back) = level front + level back := by
  simp [level]

theorem turn_of_atom {lexeme : Lexeme} {operand : Operand} (reads : Atom lexeme operand) :
    turn lexeme = 0 := by
  cases reads <;> rfl

mutual

/-- Whatever is opened is closed. -/
theorem DerivesOperand.level_eq_zero {depth : Nat} {tokens : List Token} {operand : Operand}
    (derives : DerivesOperand depth tokens operand) : level tokens = 0 :=
  match derives with
  | .atom reads => by simp [turn_of_atom reads]
  | .group opens inside closes => by
      simp [opens, closes, turn, inside.level_eq_zero]
  | .chain opens inside closes field _ => by
      simp [opens, closes, field, turn, inside.level_eq_zero]

theorem DerivesOperands.level_eq_zero {depth : Nat} {tokens : List Token}
    {operands : List Operand} (derives : DerivesOperands depth tokens operands) :
    level tokens = 0 :=
  match derives with
  | .nil => rfl
  | .snoc before last _ => by
      rw [level_append, before.level_eq_zero, last.level_eq_zero, add_zero]

theorem DerivesPipeline.level_eq_zero {depth : Nat} {tokens : List Token} {node : Node}
    (derives : DerivesPipeline depth tokens node) : level tokens = 0 :=
  match derives with
  | .command command _ => command.level_eq_zero
  | .pipe before bars command _ => by
      simp [before.level_eq_zero, command.level_eq_zero, bars, turn]

end

/-- At no point more parentheses are open than the bound. -/
def Within (bound : Nat) (tokens : List Token) : Prop :=
  ∀ front, front <+: tokens → level front ≤ bound

theorem within_iff {bound : Nat} {tokens : List Token} :
    Within bound tokens ↔ ∀ count < tokens.length + 1, level (tokens.take count) ≤ bound := by
  constructor
  · exact fun within count _ => within _ (List.take_prefix count tokens)
  · intro all front before
    rw [List.prefix_iff_eq_take.mp before]
    exact all front.length (Nat.lt_succ_of_le before.length_le)

instance (bound : Nat) (tokens : List Token) : Decidable (Within bound tokens) :=
  decidable_of_iff' _ within_iff

namespace Within

variable {bound : Nat} {front back : List Token}

theorem left (within : Within bound (front ++ back)) : Within bound front :=
  fun part before => within part (before.trans (List.prefix_append _ _))

/-- Behind tokens that close what they open, counting starts again. -/
theorem right (within : Within bound (front ++ back)) (balanced : level front = 0) :
    Within bound back := by
  intro part before
  have whole := within (front ++ part) ((List.prefix_append_right_inj front).mpr before)
  rwa [level_append, balanced, zero_add] at whole

/-- Inside a parenthesis one less may be opened. -/
theorem inside {opener : Token} (opens : opener.lexeme = .openParen)
    (within : Within bound (opener :: (front ++ back))) :
    ∃ less, bound = less + 1 ∧ Within less front := by
  have parenthesis := within [opener] (by simp)
  rw [level_cons, opens] at parenthesis
  obtain ⟨less, rfl⟩ : ∃ less, bound = less + 1 := by
    refine Nat.exists_eq_add_one.mpr ?_
    simp [turn] at parenthesis
    omega
  refine ⟨less, rfl, fun part before => ?_⟩
  have whole := within (opener :: part)
    ((List.prefix_cons_inj opener).mpr (before.trans (List.prefix_append _ _)))
  rw [level_cons, opens] at whole
  simp only [turn] at whole
  omega

end Within

mutual

/-- What is derived with few parentheses is derived with little depth. -/
theorem DerivesOperand.within {depth bound : Nat} {tokens : List Token} {operand : Operand}
    (derives : DerivesOperand depth tokens operand) (within : Within bound tokens) :
    DerivesOperand bound tokens operand :=
  match derives with
  | .atom reads => .atom reads
  | .group opens inside closes => by
      obtain ⟨less, rfl, fewer⟩ := within.inside opens
      exact .group opens (inside.within fewer) closes
  | .chain opens inside closes field adjacent => by
      obtain ⟨less, rfl, fewer⟩ := within.inside opens
      exact .chain opens (inside.within fewer) closes field adjacent

theorem DerivesOperands.within {depth bound : Nat} {tokens : List Token}
    {operands : List Operand} (derives : DerivesOperands depth tokens operands)
    (within : Within bound tokens) : DerivesOperands bound tokens operands :=
  match derives with
  | .nil => .nil
  | .snoc before last apart =>
      .snoc (before.within within.left) (last.within (within.right before.level_eq_zero)) apart

theorem DerivesPipeline.within {depth bound : Nat} {tokens : List Token} {node : Node}
    (derives : DerivesPipeline depth tokens node) (within : Within bound tokens) :
    DerivesPipeline bound tokens node :=
  match derives with
  | .command command applies => .command (command.within within) applies
  | .pipe before bars command applies => by
      refine .pipe (before.within within.left) bars (command.within ?_) applies
      rw [← List.singleton_append, ← List.append_assoc] at within
      refine within.right ?_
      rw [level_append, before.level_eq_zero, level_cons, bars]
      rfl

end

/-! ## Calls without a bar -/

/-- Every bar is inside parentheses. -/
def Barless (tokens : List Token) : Prop :=
  ∀ front bar back, tokens = front ++ bar :: back → bar.lexeme = .pipe → 0 < level front

/-- Whether a token is a bar. -/
def isBar : Lexeme → Bool
  | .pipe => true
  | _ => false

theorem isBar_iff {lexeme : Lexeme} : isBar lexeme = true ↔ lexeme = .pipe := by
  cases lexeme <;> simp [isBar]

theorem barless_iff {tokens : List Token} :
    Barless tokens ↔ ∀ count, (bound : count < tokens.length) →
      isBar tokens[count].lexeme = true → 0 < level (tokens.take count) := by
  constructor
  · intro barless count bound bars
    refine barless _ tokens[count] (tokens.drop (count + 1)) ?_ (isBar_iff.mp bars)
    rw [← List.drop_eq_getElem_cons, List.take_append_drop]
  · rintro all front bar back rfl bars
    have inside := all front.length (by simp) (by simp [isBar_iff.mpr bars])
    rwa [List.take_left] at inside

instance (tokens : List Token) : Decidable (Barless tokens) :=
  decidable_of_iff' _ barless_iff

theorem DerivesOperands.eq_nil {depth : Nat} {operands : List Operand}
    (derives : DerivesOperands depth [] operands) : operands = [] := by
  generalize same : ([] : List Token) = tokens at derives
  cases derives with
  | nil => rfl
  | snoc before last apart => exact absurd (List.append_eq_nil_iff.mp same.symm).2 last.ne_nil

/-- A command that starts with a name calls it. -/
theorem DerivesOperands.head?_eq {depth : Nat} {first : Token} {tokens rest : List Token}
    {name : String} {operands : List Operand} (derives : DerivesOperands depth tokens operands)
    (starts : tokens = first :: rest) (named : first.lexeme = .identifier name) :
    operands.head? = some (.name name) :=
  match derives with
  | .nil => by contradiction
  | @DerivesOperands.snoc _ [] back operands operand before last _ => by
      obtain rfl := before.eq_nil
      obtain rfl : back = first :: rest := starts
      cases last with
      | atom reads =>
          rw [named] at reads
          cases reads
          rfl
      | group opens => rw [named] at opens; contradiction
      | chain opens => rw [named] at opens; contradiction
  | @DerivesOperands.snoc _ (token :: front) back operands operand before _ _ => by
      obtain rfl : token = first := (List.cons.inj starts).1
      rw [List.head?_append, before.head?_eq rfl named]
      rfl

/-- Without a bar a pipeline that starts with a name is a call. -/
theorem DerivesPipeline.exists_call {depth : Nat} {first : Token} {rest : List Token}
    {name : String} {node : Node} (derives : DerivesPipeline depth (first :: rest) node)
    (named : first.lexeme = .identifier name) (barless : Barless (first :: rest)) :
    ∃ operands, DerivesOperands depth (first :: rest) (.name name :: operands) ∧
      node = .call name (operands.map Operand.toNode) := by
  generalize whole : first :: rest = tokens at derives
  cases derives with
  | @pipe _ front back bar _ _ _ before bars command applies =>
      have open_at_bar := barless front bar back whole bars
      rw [before.level_eq_zero] at open_at_bar
      contradiction
  | command command applies =>
      have head := command.head?_eq whole.symm named
      cases applies with
      | value node => cases head
      | call _ called operands =>
          obtain rfl : called = name := by simpa using head
          exact ⟨operands, command, by simp⟩

/-- A pipeline in parentheses is an operand. -/
theorem DerivesOperands.snoc_group {depth : Nat} {front tokens : List Token} {opener closer : Token}
    {operands : List Operand} {node : Node} (before : DerivesOperands (depth + 1) front operands)
    (opens : opener.lexeme = .openParen) (inside : DerivesPipeline depth tokens node)
    (closes : closer.lexeme = .closeParen) :
    DerivesOperands (depth + 1) (front ++ opener :: (tokens ++ [closer]))
      (operands ++ [.node node]) :=
  .snoc before (.group opens inside closes) (apart_of_openParen opens _ _)

end Parser

/-! ## Texts -/

namespace Text

/-- A text that neither starts nor ends with white space. -/
structure Solid (text : List Char) : Prop where
  /-- It starts with something else. -/
  first : ∃ c, text.head? = some c ∧ isBlank c = false
  /-- It ends with something else. -/
  last : ∃ c, text.getLast? = some c ∧ isBlank c = false

theorem dropWhile_of_head? {p : Char → Bool} {cs : List Char} {c : Char}
    (head : cs.head? = some c) (outside : p c = false) : cs.dropWhile p = cs := by
  obtain ⟨rest, rfl⟩ := List.head?_eq_some_iff.mp head
  simp [outside]

theorem length_trimBlank_le (cs : List Char) : (trimBlank cs).length ≤ cs.length := by
  obtain ⟨front, back, split, -⟩ := exists_margins isBlank cs
  have size := congrArg List.length split
  simp only [List.length_append] at size
  rw [trimBlank]
  omega

theorem solid_of_trimmed {cs : List Char} (trimmed : trimBlank cs = cs) (nonempty : cs ≠ []) :
    Solid cs := by
  constructor
  · obtain ⟨c, rest, rfl⟩ := List.exists_cons_of_ne_nil nonempty
    refine ⟨c, rfl, Bool.eq_false_iff.mpr fun blank => ?_⟩
    have same : trimBlank ([c] ++ rest ++ []) = trimBlank rest :=
      trimWhile_margins (by simpa using blank) (by simp) rest
    rw [List.append_nil, List.singleton_append, trimmed] at same
    have shorter := length_trimBlank_le rest
    rw [← same, List.length_cons] at shorter
    omega
  · obtain ⟨front, c, rfl⟩ := (List.eq_nil_or_concat' cs).resolve_left nonempty
    refine ⟨c, List.getLast?_concat, Bool.eq_false_iff.mpr fun blank => ?_⟩
    have same : trimBlank ([] ++ front ++ [c]) = trimBlank front :=
      trimWhile_margins (by simp) (by simpa using blank) front
    rw [List.nil_append, trimmed] at same
    have shorter := length_trimBlank_le front
    rw [← same, List.length_append, List.length_singleton] at shorter
    omega

namespace Solid

theorem singleton {c : Char} (visible : isBlank c = false) : Solid [c] :=
  ⟨⟨c, rfl, visible⟩, ⟨c, rfl, visible⟩⟩

variable {front text back : List Char}

theorem between (starts : Solid front) (ends : Solid back) (middle : List Char) :
    Solid (front ++ (middle ++ back)) := by
  obtain ⟨first, head, visible⟩ := starts.first
  obtain ⟨last, tail, alsoVisible⟩ := ends.last
  refine ⟨⟨first, ?_, visible⟩, ⟨last, ?_, alsoVisible⟩⟩
  · rw [List.head?_append, head, Option.some_or]
  · rw [List.getLast?_append, List.getLast?_append, tail, Option.some_or, Option.some_or]

/-- White space around such a text is what trimming removes. -/
theorem trimBlank_eq (solid : Solid text) (before : ∀ c ∈ front, isBlank c = true)
    (behind : ∀ c ∈ back, isBlank c = true) : trimBlank (front ++ (text ++ back)) = text := by
  obtain ⟨first, head, visible⟩ := solid.first
  obtain ⟨last, tail, alsoVisible⟩ := solid.last
  rw [← List.append_assoc, trimBlank, trimWhile_margins before behind, trimWhile,
    dropWhile_of_head? head visible, dropEndWhile,
    dropWhile_of_head? (List.head?_reverse.trans tail) alsoVisible, List.reverse_reverse]

end Solid

end Text

namespace Expression

open Lexer
open Promptline.Parser (DerivesPipeline DerivesOperands Operand Applies)

/-- The tokens of the text of an expression, if it has tokens at all. -/
def tokensOf (source : String) : List Token :=
  match tokenize (Text.trim source) with
  | .ok tokens => tokens
  | .error _ => []

/-- A text between white space that has tokens. -/
structure Reads (source : String) (text : List Char) (tokens : List Token) : Prop where
  /-- The source is the text, with white space around it. -/
  split : ∃ front back, source.toList = front ++ (text ++ back) ∧
    (∀ c ∈ front, Text.isBlank c = true) ∧ ∀ c ∈ back, Text.isBlank c = true
  /-- There is no white space at the ends of the text. -/
  solid : Text.Solid text
  /-- The text has the tokens. -/
  lexed : tokensFrom 0 text = .ok tokens

theorem reads_of_parse {source : String} {expression : Expression}
    (parsed : parse source = .ok expression) :
    ∃ text, Reads source text (tokensOf source) ∧
      DerivesPipeline maxParentheses (tokensOf source) expression.node := by
  rw [parse] at parsed
  split at parsed
  · contradiction
  · next visible =>
      rw [parseTrimmed] at parsed
      split at parsed
      · contradiction
      · contradiction
      · next tokens lexed =>
          split at parsed
          · contradiction
          · next node derived =>
              obtain rfl := Except.ok.inj parsed
              obtain ⟨front, back, whole, before, behind⟩ :=
                Text.exists_margins Text.isBlank source.toList
              have known : tokensOf source = tokens := by rw [tokensOf, lexed]
              rw [known]
              refine ⟨Text.trimBlank source.toList, ⟨⟨front, back, ?_, before, behind⟩, ?_, ?_⟩,
                Parser.parse_eq_ok_iff.mp derived⟩
              · rw [← List.append_assoc]
                exact whole
              · refine Text.solid_of_trimmed (Text.trimWhile_trimWhile _) fun empty => visible ?_
                rw [Text.trim, empty]
              · rwa [tokenize, Text.trim, String.toList_ofList] at lexed

theorem Reads.trim_eq {source : String} {text : List Char} {tokens : List Token}
    (reads : Reads source text tokens) : Text.trim source = String.ofList text := by
  obtain ⟨front, back, whole, before, behind⟩ := reads.split
  rw [Text.trim, whole, reads.solid.trimBlank_eq before behind]

/-- A text whose tokens derive a tree is parsed to it. -/
theorem Reads.parse_eq {source : String} {text : List Char} {tokens : List Token} {node : Node}
    (reads : Reads source text tokens) (derives : DerivesPipeline maxParentheses tokens node) :
    parse source = .ok ⟨Text.trim source, node⟩ := by
  have visible : String.ofList text ≠ "" := by
    obtain ⟨c, head, -⟩ := reads.solid.first
    intro empty
    rw [String.ofList_eq_empty_iff] at empty
    rw [empty] at head
    contradiction
  have lexed : tokenize (String.ofList text) = .ok tokens := by
    rw [tokenize, String.toList_ofList, reads.lexed]
  rw [reads.trim_eq, parse, reads.trim_eq]
  simp only [visible, if_false, parseTrimmed, lexed, Parser.parse_eq_ok_iff.mpr derives]

/-! ## Joints -/

/-- Behind white space a text has the same tokens, further on. -/
theorem tokensFrom_behind_blanks {text blanks : List Char} {tokens : List Token}
    (lexed : tokensFrom 0 text = .ok tokens) (blank : ∀ c ∈ blanks, Text.isBlank c = true)
    (offset : Nat) :
    tokensFrom offset (blanks ++ text) =
      .ok (tokens.map (Token.moved (offset + blanks.length))) := by
  have moved := tokensFrom_moved lexed (offset + blanks.length)
  rwa [Nat.zero_add, ← tokensFrom_blanks offset blank] at moved

/-- A text, white space and a mark have the tokens of the text and the mark. -/
theorem tokensFrom_before_mark (offset : Nat) {text blanks rest : List Char} {c : Char}
    {lexeme : Lexeme} {tokens later : List Token} (lexed : tokensFrom 0 text = .ok tokens)
    (blank : ∀ c ∈ blanks, Text.isBlank c = true) (mark : Mark c lexeme)
    (behind : tokensFrom (offset + text.length + blanks.length + 1) rest = .ok later) :
    tokensFrom offset (text ++ (blanks ++ c :: rest)) =
      .ok (tokens.map (Token.moved offset) ++
        ⟨lexeme, [c], offset + text.length + blanks.length⟩ :: later) := by
  have separated : Separated (blanks ++ c :: rest) := by
    intro head first
    cases blanks with
    | nil =>
        obtain rfl : c = head := by simpa using first
        cases mark <;> decide
    | cons d blanks =>
        obtain rfl : d = head := by simpa using first
        simp [isSeparator, blank d List.mem_cons_self]
  have moved := tokensFrom_moved lexed offset
  rw [Nat.zero_add] at moved
  refine tokensFrom_separated separated moved ?_
  rw [tokensFrom_blanks _ blank]
  exact mark.tokensFrom_cons behind

section Joints

variable {a f : String} {text other : List Char} {tokens others : List Token}

/-- A text and a parenthesis that closes it have the tokens of the text and one more. -/
theorem Reads.tokensFrom_closed (argument : Reads a text tokens) (offset : Nat) :
    ∃ distance stop, tokensFrom offset (a.toList ++ [')']) =
      .ok (tokens.map (Token.moved distance) ++ [⟨.closeParen, [')'], stop⟩]) := by
  obtain ⟨front, back, split, before, behind⟩ := argument.split
  have nothing (stop : Nat) : tokensFrom stop [] = .ok [] := by rw [tokensFrom]
  have lexed := tokensFrom_before_mark (offset + front.length) argument.lexed behind
    .closeParen (nothing _)
  have whole : front ++ (text ++ (back ++ [')'])) = a.toList ++ [')'] := by simp [split]
  rw [← tokensFrom_blanks _ before, whole] at lexed
  exact ⟨_, _, lexed⟩

/-- The tokens of an expression in parentheses. -/
theorem Reads.group (argument : Reads a text tokens) :
    ∃ whole start distance stop, Reads ("(" ++ a ++ ")") whole
      (⟨.openParen, ['('], start⟩ ::
        (tokens.map (Token.moved distance) ++ [⟨.closeParen, [')'], stop⟩])) := by
  obtain ⟨distance, stop, closed⟩ := argument.tokensFrom_closed 1
  refine ⟨_, 0, distance, stop, ⟨[], [], ?_, by simp, by simp⟩, ?_,
    Mark.openParen.tokensFrom_cons closed⟩
  · simp
  · have opens : Text.Solid ['('] := .singleton (by decide)
    have closes : Text.Solid [')'] := .singleton (by decide)
    exact opens.between closes a.toList

/-- The tokens of an expression that is piped into another one. -/
theorem Reads.pipe (argument : Reads a text tokens) (function : Reads f other others) :
    ∃ whole near start far, Reads (a ++ " | " ++ f) whole
      (tokens.map (Token.moved near) ++ ⟨.pipe, ['|'], start⟩ ::
        others.map (Token.moved far)) := by
  obtain ⟨front, back, split, before, behind⟩ := argument.split
  obtain ⟨lead, trail, alsoSplit, ahead, after⟩ := function.split
  have blank : ∀ c ∈ [' '], Text.isBlank c = true := List.forall_mem_singleton.mpr (by decide)
  have lexed := tokensFrom_before_mark 0 argument.lexed
    (List.forall_mem_append.mpr ⟨behind, blank⟩) .pipe
    (tokensFrom_behind_blanks function.lexed (List.forall_mem_append.mpr ⟨blank, ahead⟩) _)
  have solid := argument.solid.between function.solid (back ++ " | ".toList ++ lead)
  refine ⟨_, 0, _, _, ⟨front, trail, ?_, before, after⟩, ?_, lexed⟩
  · simp [split, alsoSplit]
  · simpa using solid

/-- The tokens of an expression with another one in parentheses behind it. -/
theorem Reads.apply (argument : Reads a text tokens) (function : Reads f other others) :
    ∃ whole near start far stop, Reads (f ++ " (" ++ a ++ ")") whole
      (others.map (Token.moved near) ++ ⟨.openParen, ['('], start⟩ ::
        (tokens.map (Token.moved far) ++ [⟨.closeParen, [')'], stop⟩])) := by
  obtain ⟨lead, trail, split, ahead, after⟩ := function.split
  have blank : ∀ c ∈ [' '], Text.isBlank c = true := List.forall_mem_singleton.mpr (by decide)
  obtain ⟨far, stop, closed⟩ :=
    argument.tokensFrom_closed (0 + other.length + (trail ++ [' ']).length + 1)
  have lexed := tokensFrom_before_mark 0 function.lexed
    (List.forall_mem_append.mpr ⟨after, blank⟩) .openParen closed
  have closes : Text.Solid [')'] := .singleton (by decide)
  have solid := function.solid.between closes (trail ++ " (".toList ++ a.toList)
  refine ⟨_, 0, _, far, stop, ⟨lead, [], ?_, ahead, by simp⟩, ?_, lexed⟩
  · simp [split]
  · simpa using solid

end Joints

/-- An expression that is piped into the call of a function is its last argument. -/
theorem parse_pipe {a f : String} {argument function : Expression} {name : String} {first : Token}
    {rest : List Token} (parsed : parse a = .ok argument) (alsoParsed : parse f = .ok function)
    (starts : tokensOf f = first :: rest) (named : first.lexeme = .identifier name)
    (barless : Parser.Barless (tokensOf f)) :
    ∃ args, function.node = .call name args ∧
      parse (a ++ " | " ++ f) =
        .ok ⟨Text.trim (a ++ " | " ++ f), .call name (args ++ [argument.node])⟩ := by
  obtain ⟨text, reads, derives⟩ := reads_of_parse parsed
  obtain ⟨other, alsoReads, alsoDerives⟩ := reads_of_parse alsoParsed
  obtain ⟨whole, near, start, far, piped⟩ := reads.pipe alsoReads
  rw [starts] at alsoDerives barless piped
  obtain ⟨operands, command, called⟩ := alsoDerives.exists_call named barless
  refine ⟨operands.map Operand.toNode, called, piped.parse_eq ?_⟩
  exact .pipe (derives.moved near) rfl (command.moved far)
    (.call (some argument.node) name operands)

/-- Piping is argument passing.  An expression in parentheses is the expression; and if another one
starts with a name and has bars in parentheses only, then piping the first one into it calls the
function of that name with one more argument, as does writing the first one in parentheses behind
it.  The first one must leave room for one more pair of parentheses around it. -/
theorem piping_is_argument_passing {a : String} {argument : Expression}
    (parsed : parse a = .ok argument)
    (shallow : Parser.Within (maxParentheses - 1) (tokensOf a)) :
    parse ("(" ++ a ++ ")") = .ok ⟨Text.trim ("(" ++ a ++ ")"), argument.node⟩ ∧
      ∀ {f : String} {function : Expression} {name : String} {first : Token} {rest : List Token},
        parse f = .ok function → tokensOf f = first :: rest → first.lexeme = .identifier name →
        Parser.Barless (tokensOf f) →
        ∃ args, function.node = .call name args ∧
          parse (a ++ " | " ++ f) =
            .ok ⟨Text.trim (a ++ " | " ++ f), .call name (args ++ [argument.node])⟩ ∧
          parse (f ++ " (" ++ a ++ ")") =
            .ok ⟨Text.trim (f ++ " (" ++ a ++ ")"), .call name (args ++ [argument.node])⟩ := by
  obtain ⟨text, reads, derives⟩ := reads_of_parse parsed
  have inside (distance : Nat) : DerivesPipeline (maxParentheses - 1)
      ((tokensOf a).map (Token.moved distance)) argument.node :=
    (derives.within shallow).moved distance
  refine ⟨?_, ?_⟩
  · obtain ⟨whole, start, distance, stop, group⟩ := reads.group
    have opens : (⟨.openParen, ['('], start⟩ : Token).lexeme = .openParen := rfl
    have closes : (⟨.closeParen, [')'], stop⟩ : Token).lexeme = .closeParen := rfl
    have operand := DerivesOperands.nil.snoc_group opens (inside distance) closes
    exact group.parse_eq (.command operand (.value argument.node))
  · intro f function name first rest alsoParsed starts named barless
    obtain ⟨other, alsoReads, alsoDerives⟩ := reads_of_parse alsoParsed
    rw [starts] at alsoDerives barless
    obtain ⟨operands, command, called⟩ := alsoDerives.exists_call named barless
    refine ⟨operands.map Operand.toNode, called, ?_, ?_⟩
    · obtain ⟨whole, near, start, far, piped⟩ := reads.pipe alsoReads
      rw [starts] at piped
      exact piped.parse_eq (.pipe (derives.moved near) rfl (command.moved far)
        (.call (some argument.node) name operands))
    · obtain ⟨whole, near, start, far, stop, applied⟩ := reads.apply alsoReads
      rw [starts] at applied
      have opens : (⟨.openParen, ['('], start⟩ : Token).lexeme = .openParen := rfl
      have closes : (⟨.closeParen, [')'], stop⟩ : Token).lexeme = .closeParen := rfl
      have more := (command.moved near).snoc_group opens (inside far) closes
      have applies := Applies.call none name (operands ++ [.node argument.node])
      rw [List.map_append, Option.toList_none, List.append_nil] at applies
      exact applied.parse_eq (.command more applies)

theorem filter_is_piped_or_applied :
    let a := " .A | upper"
    let f := " replace \"|\" (.B | lower) "
    let argument : Node := .call "upper" [.path ["A"]]
    let args : List Node := [.literal (.string "|"), .call "lower" [.path ["B"]], argument]
    parse ("(" ++ a ++ ")") = .ok ⟨"( .A | upper)", argument⟩ ∧
      parse (a ++ " | " ++ f) =
        .ok ⟨".A | upper |  replace \"|\" (.B | lower)", .call "replace" args⟩ ∧
      parse (f ++ " (" ++ a ++ ")") =
        .ok ⟨"replace \"|\" (.B | lower)  ( .A | upper)", .call "replace" args⟩ := by
  have parsed : parse " .A | upper" = .ok ⟨".A | upper", .call "upper" [.path ["A"]]⟩ := by cbv
  have alsoParsed : parse " replace \"|\" (.B | lower) " =
      .ok ⟨"replace \"|\" (.B | lower)",
        .call "replace" [.literal (.string "|"), .call "lower" [.path ["B"]]]⟩ := by cbv
  have tokens : tokensOf " .A | upper" =
      [⟨.field ["A"], ['.', 'A'], 0⟩, ⟨.pipe, ['|'], 3⟩,
        ⟨.identifier "upper", "upper".toList, 5⟩] := by cbv
  have others : tokensOf " replace \"|\" (.B | lower) " =
      [⟨.identifier "replace", "replace".toList, 0⟩, ⟨.string "|", "\"|\"".toList, 8⟩,
        ⟨.openParen, ['('], 12⟩, ⟨.field ["B"], ['.', 'B'], 13⟩, ⟨.pipe, ['|'], 16⟩,
        ⟨.identifier "lower", "lower".toList, 18⟩, ⟨.closeParen, [')'], 23⟩] := by cbv
  have shallow : Parser.Within (maxParentheses - 1) (tokensOf " .A | upper") := by
    rw [tokens]
    decide
  have barless : Parser.Barless (tokensOf " replace \"|\" (.B | lower) ") := by
    rw [others]
    decide
  obtain ⟨grouped, applies⟩ := piping_is_argument_passing parsed shallow
  obtain ⟨args, called, piped, applied⟩ := applies alsoParsed others rfl barless
  obtain ⟨-, rfl⟩ := Node.call.inj called
  have first : Text.trim "( .A | upper)" = "( .A | upper)" := by decide +kernel
  have second : Text.trim " .A | upper |  replace \"|\" (.B | lower) " =
      ".A | upper |  replace \"|\" (.B | lower)" := by decide +kernel
  have third : Text.trim " replace \"|\" (.B | lower)  ( .A | upper)" =
      "replace \"|\" (.B | lower)  ( .A | upper)" := by decide +kernel
  exact ⟨first ▸ grouped, second ▸ piped, third ▸ applied⟩

end Expression

end Promptline
