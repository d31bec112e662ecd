import Mathlib
import Promptline.Expression.Parser
import Promptline.Proofs.Answer

/-!
# The grammar of expressions

A pipeline is a sequence of commands between bars, and a command is a sequence of operands. Parsing
accepts exactly the tokens of a pipeline, and gives the one tree that its derivation determines. The
parser keeps what it has read of every open parenthesis; the invariant is that each of these
readings is derived.
-/

namespace Promptline.Parser

/-- A token that is an operand by itself. -/
inductive Atom : Lexeme → Operand → Prop
  /-- A path from the scope. -/
  | field (names : List String) : Atom (.field names) (.node (.path names))
  /-- The scope. -/
  | dot : Atom .dot (.node (.path []))
  /-- A path from the root. -/
  | root (names : List String) : Atom (.rootPath names) (.node (.root names))
  /-- The name of a function. -/
  | name (name : String) : Atom (.identifier name) (.name name)
  /-- A number. -/
  | number (value : Literal) : Atom (.number value) (.node (.literal value))
  /-- A text. -/
  | string (s : String) : Atom (.string s) (.node (.literal (.string s)))
  /-- A truth value. -/
  | bool (b : Bool) : Atom (.bool b) (.node (.literal (.bool b)))
  /-- No value. -/
  | nil : Atom .nil (.node (.literal .nil))

/-- What the operands of a command mean after a bar or without one: a name is called with the other
operands and then the piped value, and anything else stands alone. -/
inductive Applies : Option Node → List Operand → Node → Prop
  /-- A call. -/
  | call (piped : Option Node) (name : String) (operands : List Operand) :
      Applies piped (.name name :: operands)
        (.call name (operands.map Operand.toNode ++ piped.toList))
  /-- A single operand. -/
  | value (node : Node) : Applies none [.node node] node

/-- Where tokens end, if their last one is a closing parenthesis. -/
def endMark (tokens : List Token) : Option Nat :=
  tokens.getLast?.bind fun token =>
    match token.lexeme with
    | .closeParen => some token.stop
    | _ => none

/-- No path starts directly behind a closing parenthesis. -/
def Apart (mark : Option Nat) (tokens : List Token) : Prop :=
  ∀ token ∈ tokens.head?, ∀ names, token.lexeme = .field names → mark ≠ some token.start

mutual

/-- An operand; at most so many parentheses are nested in it. -/
inductive DerivesOperand : Nat → List Token → Operand → Prop
  /-- A token by itself. -/
  | atom {depth : Nat} {token : Token} {operand : Operand} (reads : Atom token.lexeme operand) :
      DerivesOperand depth [token] operand
  /-- A pipeline in parentheses. -/
  | group {depth : Nat} {opener closer : Token} {tokens : List Token} {node : Node}
      (opens : opener.lexeme = .openParen) (inside : DerivesPipeline depth tokens node)
      (closes : closer.lexeme = .closeParen) :
      DerivesOperand (depth + 1) (opener :: (tokens ++ [closer])) (.node node)
  /-- A pipeline in parentheses, with a path that starts where the parenthesis ends. -/
  | chain {depth : Nat} {opener closer path : Token} {tokens : List Token} {node : Node}
      {names : List String} (opens : opener.lexeme = .openParen)
      (inside : DerivesPipeline depth tokens node) (closes : closer.lexeme = .closeParen)
      (field : path.lexeme = .field names) (adjacent : path.start = closer.stop) :
      DerivesOperand (depth + 1) (opener :: (tokens ++ [closer, path]))
        (.node (.chain node names))

/-- Operands in order. A path that starts where a parenthesis ends belongs to it, so it is no
operand of its own. -/
inductive DerivesOperands : Nat → List Token → List Operand → Prop
  /-- No operand. -/
  | nil {depth : Nat} : DerivesOperands depth [] []
  /-- Operands, and one more. -/
  | snoc {depth : Nat} {front back : List Token} {operands : List Operand} {operand : Operand}
      (before : DerivesOperands depth front operands) (last : DerivesOperand depth back operand)
      (apart : Apart (endMark front) back) :
      DerivesOperands depth (front ++ back) (operands ++ [operand])

/-- Commands with bars between them. -/
inductive DerivesPipeline : Nat → List Token → Node → Prop
  /-- A command. -/
  | command {depth : Nat} {tokens : List Token} {operands : List Operand} {node : Node}
      (command : DerivesOperands depth tokens operands) (applies : Applies none operands node) :
      DerivesPipeline depth tokens node
  /-- A pipeline, and one more command. -/
  | pipe {depth : Nat} {front back : List Token} {bar : Token} {operands : List Operand}
      {piped node : Node} (before : DerivesPipeline depth front piped)
      (bars : bar.lexeme = .pipe) (command : DerivesOperands depth back operands)
      (applies : Applies (some piped) operands node) :
      DerivesPipeline depth (front ++ bar :: back) node

end

/-! ## What a step can do -/

/-- A token is a path that directly follows the parenthesis of the last operand. -/
def Frame.Glues (frame : Frame) (token : Token) : Prop :=
  frame.glue = some token.start ∧ (∃ names, token.lexeme = .field names) ∧
    ∃ target operands, frame.operands = .node target :: operands

theorem Frame.finish_eq_ok_iff {frame : Frame} {offset : Nat} {node : Node} :
    frame.finish offset = .ok node ↔ Applies frame.piped frame.operands.reverse node := by
  rw [Frame.finish]
  generalize frame.operands.reverse = operands
  generalize frame.piped = piped
  constructor
  · intro finished
    split at finished
    · contradiction
    · contradiction
    · obtain rfl := Except.ok.inj finished
      exact .call _ _ _
    · contradiction
    · contradiction
    · obtain rfl := Except.ok.inj finished
      exact .value _
  · intro applies
    cases applies <;> rfl

namespace State

/-- What taking a token can do. -/
inductive Takes : State → Token → State → Prop
  /-- A token is an operand by itself. -/
  | atom {state : State} {token : Token} {operand : Operand} (reads : Atom token.lexeme operand)
      (apart : ¬ state.frame.Glues token) : Takes state token (state.push operand)
  /-- A path extends the parenthesis before it. -/
  | glued {frame : Frame} {outer : List Frame} {token : Token} {target : Node}
      {operands : List Operand} {names : List String} (field : token.lexeme = .field names)
      (follows : frame.operands = .node target :: operands)
      (adjacent : frame.glue = some token.start) :
      Takes ⟨frame, outer⟩ token
        ⟨{ frame with operands := .node (.chain target names) :: operands, glue := none }, outer⟩
  /-- A parenthesis opens a pipeline, if there are not too many around it. -/
  | openParen {state : State} {token : Token} (opens : token.lexeme = .openParen)
      (room : state.outer.length < maxParentheses) :
      Takes state token ⟨{ opener := token.start }, state.frame :: state.outer⟩
  /-- A bar ends a command. -/
  | pipe {frame : Frame} {outer : List Frame} {token : Token} {node : Node}
      (bars : token.lexeme = .pipe)
      (applies : Applies frame.piped frame.operands.reverse node) :
      Takes ⟨frame, outer⟩ token ⟨{ opener := frame.opener, piped := some node }, outer⟩
  /-- A parenthesis closes the innermost pipeline. -/
  | closeParen {frame enclosing : Frame} {outer : List Frame} {token : Token} {node : Node}
      (closes : token.lexeme = .closeParen)
      (applies : Applies frame.piped frame.operands.reverse node) :
      Takes ⟨frame, enclosing :: outer⟩ token ⟨enclosing.pushGroup node token.stop, outer⟩

end State

theorem Frame.pushPath_of_not_glues {frame : Frame} {token : Token} {names : List String}
    (field : token.lexeme = .field names) (apart : ¬ frame.Glues token) :
    frame.pushPath names token.start = frame.push (.node (.path names)) := by
  rw [Frame.pushPath]
  split
  · next target operands follows =>
      rw [if_neg fun adjacent => apart ⟨adjacent, ⟨names, field⟩, target, operands, follows⟩]
  · rfl

namespace State

theorem takes_of_step {state next : State} {token : Token} (taken : state.step token = .ok next) :
    Takes state token next := by
  obtain ⟨frame, outer⟩ := state
  have single {operand : Operand} (reads : Atom token.lexeme operand)
      (other : ∀ names, token.lexeme ≠ .field names) :
      Takes ⟨frame, outer⟩ token (State.push ⟨frame, outer⟩ operand) :=
    .atom reads fun ⟨_, ⟨names, field⟩, _⟩ => other names field
  rw [step] at taken
  cases lexeme : token.lexeme with
  | field names =>
      simp only [lexeme, Except.ok.injEq] at taken
      subst taken
      by_cases glues : frame.Glues token
      · obtain ⟨adjacent, -, target, operands, follows⟩ := glues
        simp only [Frame.pushPath, follows, adjacent, if_true]
        exact .glued lexeme follows adjacent
      · rw [Frame.pushPath_of_not_glues lexeme glues]
        exact .atom (by rw [lexeme]; exact .field names) glues
  | openParen =>
      simp only [lexeme] at taken
      split at taken
      · next room =>
          obtain rfl := Except.ok.inj taken
          exact .openParen lexeme room
      · contradiction
  | pipe =>
      simp only [lexeme] at taken
      obtain ⟨node, finished, same⟩ := bind_eq_ok_iff.mp taken
      obtain rfl := Except.ok.inj same
      exact .pipe lexeme (Frame.finish_eq_ok_iff.mp finished)
  | closeParen =>
      simp only [lexeme] at taken
      obtain ⟨node, finished, closes⟩ := bind_eq_ok_iff.mp taken
      cases outer with
      | nil => contradiction
      | cons enclosing outer =>
          obtain rfl := Except.ok.inj closes
          exact .closeParen lexeme (Frame.finish_eq_ok_iff.mp finished)
  | _ =>
      simp only [lexeme, Except.ok.injEq] at taken
      subst taken
      exact single (by rw [lexeme]; constructor) (by simp [lexeme])

theorem step_of_takes {state next : State} {token : Token} (takes : Takes state token next) :
    state.step token = .ok next := by
  rw [step]
  cases takes with
  | atom reads apart =>
      cases lexeme : token.lexeme with
      | field names =>
          rw [lexeme] at reads
          cases reads
          simp only [Frame.pushPath_of_not_glues lexeme apart]
          rfl
      | _ =>
          rw [lexeme] at reads
          cases reads <;> rfl
  | glued field follows adjacent =>
      simp only [field, Frame.pushPath, follows, adjacent, if_true]
  | openParen opens room => simp only [opens, room, if_true]
  | pipe bars applies =>
      simp only [bars, Frame.finish_eq_ok_iff.mpr applies]
      rfl
  | closeParen closes applies =>
      simp only [closes, Frame.finish_eq_ok_iff.mpr applies]
      rfl

end State

theorem run_append {state middle : State} {front : List Token}
    (taken : run state front = .ok middle) (back : List Token) :
    run state (front ++ back) = run middle back := by
  rw [run, List.foldlM_append, ← run, taken]
  rfl

theorem run_cons {state middle : State} {token : Token} (takes : State.Takes state token middle)
    (rest : List Token) : run state (token :: rest) = run middle rest := by
  rw [run, List.foldlM_cons, State.step_of_takes takes]
  rfl

/-! ## What the grammar derives is accepted -/

@[simp]
theorem endMark_concat (tokens : List Token) (token : Token) :
    endMark (tokens ++ [token]) = endMark [token] := by
  simp [endMark]

theorem endMark_append {front back : List Token} (nonempty : back ≠ []) :
    endMark (front ++ back) = endMark back := by
  simp [endMark, List.getLast?_eq_some_getLast nonempty]

theorem endMark_of_ne_closeParen {token : Token} (other : token.lexeme ≠ .closeParen) :
    endMark [token] = none := by
  simp only [endMark, List.getLast?_singleton, Option.bind_some]

theorem endMark_of_closeParen {token : Token} (closes : token.lexeme = .closeParen) :
    endMark [token] = some token.stop := by
  simp [endMark, closes]

theorem DerivesOperand.ne_nil {depth : Nat} {tokens : List Token} {operand : Operand}
    (derives : DerivesOperand depth tokens operand) : tokens ≠ [] := by
  cases derives <;> exact List.cons_ne_nil _ _

theorem Apart.not_glues {frame : Frame} {token : Token} {tokens : List Token}
    (apart : Apart frame.glue (token :: tokens)) : ¬ frame.Glues token := by
  rintro ⟨adjacent, ⟨names, field⟩, -⟩
  exact apart token (by simp) names field adjacent

theorem endMark_pair (closer path : Token) : endMark [closer, path] = endMark [path] :=
  endMark_concat [closer] path

mutual

/-- An operand is added to the command that is being read. -/
theorem DerivesOperand.run {depth : Nat} {tokens : List Token} {operand : Operand}
    (derives : DerivesOperand depth tokens operand) {frame : Frame} {outer : List Frame}
    (room : outer.length + depth = maxParentheses) (apart : Apart frame.glue tokens) :
    Parser.run ⟨frame, outer⟩ tokens =
      .ok ⟨{ frame with operands := operand :: frame.operands, glue := endMark tokens },
        outer⟩ :=
  match derives with
  | .atom reads => by
      rw [run_cons (.atom reads apart.not_glues)]
      have other : endMark [_] = none := endMark_of_ne_closeParen fun closes => by
        rw [closes] at reads
        cases reads
      rw [other]
      rfl
  | @DerivesOperand.group depth _ _ _ _ opens inside closes => by
      have deeper : (frame :: outer).length + depth = maxParentheses := by
        rw [List.length_cons, Nat.add_right_comm]
        exact room
      obtain ⟨final, taken, applies⟩ := inside.run _ deeper
      rw [run_cons (.openParen opens (by simp only; omega)), run_append taken,
        run_cons (.closeParen closes applies), ← List.cons_append, endMark_concat,
        endMark_of_closeParen closes]
      rfl
  | @DerivesOperand.chain depth _ _ _ _ _ _ opens inside closes field adjacent => by
      have deeper : (frame :: outer).length + depth = maxParentheses := by
        rw [List.length_cons, Nat.add_right_comm]
        exact room
      obtain ⟨final, taken, applies⟩ := inside.run _ deeper
      rw [run_cons (.openParen opens (by simp only; omega)), run_append taken,
        run_cons (.closeParen closes applies), run_cons (.glued field rfl (by rw [adjacent]; rfl)),
        ← List.cons_append, endMark_append (List.cons_ne_nil _ _), endMark_pair,
        endMark_of_ne_closeParen (by simp [field])]
      rfl

/-- Operands are added in order to a command of which nothing has been read. -/
theorem DerivesOperands.run {depth : Nat} {tokens : List Token} {operands : List Operand}
    (derives : DerivesOperands depth tokens operands) (opener : Nat) (piped : Option Node)
    {outer : List Frame} (room : outer.length + depth = maxParentheses) :
    Parser.run ⟨{ opener := opener, piped := piped }, outer⟩ tokens =
      .ok ⟨⟨opener, piped, operands.reverse, endMark tokens⟩, outer⟩ :=
  match derives with
  | .nil => rfl
  | .snoc before last apart => by
      rw [run_append (before.run opener piped room), last.run room apart,
        endMark_append last.ne_nil, List.reverse_append]
      rfl

/-- A pipeline is read, and then its last command means what it means. -/
theorem DerivesPipeline.run {depth : Nat} {tokens : List Token} {node : Node}
    (derives : DerivesPipeline depth tokens node) (opener : Nat) {outer : List Frame}
    (room : outer.length + depth = maxParentheses) :
    ∃ final : Frame, Parser.run ⟨{ opener := opener }, outer⟩ tokens = .ok ⟨final, outer⟩ ∧
      Applies final.piped final.operands.reverse node :=
  match derives with
  | .command command applies => ⟨_, command.run opener none room, by simpa using applies⟩
  | @DerivesPipeline.pipe _ _ _ _ _ piped _ before bars command applies => by
      obtain ⟨middle, taken, ends⟩ := before.run opener room
      have resumed := command.run middle.opener (some piped) room
      rw [← run_cons (.pipe bars ends)] at resumed
      exact ⟨_, (run_append taken _).trans resumed, by simpa using applies⟩

end

/-! ## What is accepted is derived -/

/-- What comes before the command that is being read: nothing, or a pipeline and a bar. -/
inductive Stage (depth : Nat) : List Token → Option Node → Prop
  /-- The first command is being read. -/
  | first : Stage depth [] none
  /-- A command after a bar is being read. -/
  | later {tokens : List Token} {bar : Token} {node : Node}
      (before : DerivesPipeline depth tokens node) (bars : bar.lexeme = .pipe) :
      Stage depth (tokens ++ [bar]) (some node)

theorem Stage.derives {depth : Nat} {front back : List Token} {piped : Option Node}
    {operands : List Operand} {node : Node} (stage : Stage depth front piped)
    (command : DerivesOperands depth back operands) (applies : Applies piped operands node) :
    DerivesPipeline depth (front ++ back) node := by
  cases stage with
  | first => exact .command command applies
  | later before bars =>
      rw [List.append_assoc]
      exact .pipe before bars command applies

theorem apart_of_openParen {token : Token} (opens : token.lexeme = .openParen)
    (mark : Option Nat) (tokens : List Token) : Apart mark (token :: tokens) := by
  intro head member names field
  obtain rfl : token = head := by simpa using member
  rw [opens] at field
  contradiction

/-- Only a group leaves a mark. -/
theorem DerivesOperands.exists_group {depth mark : Nat} {tokens : List Token}
    {operands : List Operand} (command : DerivesOperands depth tokens operands)
    (marked : endMark tokens = some mark) :
    ∃ front inside opener closer shallower before node,
      tokens = front ++ opener :: (inside ++ [closer]) ∧ depth = shallower + 1 ∧
        operands = before ++ [.node node] ∧ DerivesOperands depth front before ∧
        opener.lexeme = .openParen ∧ DerivesPipeline shallower inside node ∧
        closer.lexeme = .closeParen ∧ closer.stop = mark := by
  cases command with
  | nil => contradiction
  | snoc before last apart =>
      rw [endMark_append last.ne_nil] at marked
      cases last with
      | atom reads =>
          have unmarked := endMark_of_ne_closeParen fun closes => by
            rw [closes] at reads
            cases reads
          rw [unmarked] at marked
          contradiction
      | group opens inside closes =>
          rw [← List.cons_append, endMark_concat, endMark_of_closeParen closes,
            Option.some.injEq] at marked
          exact ⟨_, _, _, _, _, _, _, rfl, rfl, rfl, before, opens, inside, closes, marked⟩
      | chain opens inside closes field adjacent =>
          rw [← List.cons_append, endMark_append (List.cons_ne_nil _ _), endMark_pair,
            endMark_of_ne_closeParen (by simp [field])] at marked
          contradiction

/-- The tokens of an unfinished pipeline, as a frame keeps them. -/
inductive Reads (depth : Nat) : List Token → Frame → Prop
  /-- Put the reading of the current command behind what comes before it. -/
  | mk {front back : List Token} {frame : Frame} (stage : Stage depth front frame.piped)
      (command : DerivesOperands depth back frame.operands.reverse)
      (glue : frame.glue = endMark back) : Reads depth (front ++ back) frame

namespace Reads

variable {depth : Nat} {tokens : List Token} {frame : Frame}

theorem start (depth opener : Nat) : Reads depth [] { opener := opener } := by
  have read : Reads depth ([] ++ []) { opener := opener } := .mk .first .nil rfl
  exact read

theorem derives {node : Node} (reads : Reads depth tokens frame)
    (applies : Applies frame.piped frame.operands.reverse node) :
    DerivesPipeline depth tokens node := by
  obtain ⟨stage, command, -⟩ := reads
  exact stage.derives command applies

theorem bar {node : Node} {token : Token} (reads : Reads depth tokens frame)
    (applies : Applies frame.piped frame.operands.reverse node) (bars : token.lexeme = .pipe) :
    Reads depth (tokens ++ [token]) { opener := frame.opener, piped := some node } := by
  have read : Reads depth (tokens ++ [token] ++ []) ⟨frame.opener, some node, [], none⟩ :=
    .mk (.later (reads.derives applies) bars) .nil rfl
  simpa using read

theorem push {added : List Token} {operand : Operand} (reads : Reads depth tokens frame)
    (derives : DerivesOperand depth added operand) (apart : Apart frame.glue added) :
    Reads depth (tokens ++ added)
      { frame with operands := operand :: frame.operands, glue := endMark added } := by
  obtain ⟨stage, command, glue⟩ := reads
  rw [List.append_assoc]
  refine .mk stage ?_ (endMark_append derives.ne_nil).symm
  rw [List.reverse_cons]
  exact .snoc command derives (glue ▸ apart)

/-- Behind a mark the last operand is no bare name. -/
theorem exists_target {mark : Nat} (reads : Reads depth tokens frame)
    (marked : frame.glue = some mark) :
    ∃ target operands, frame.operands = .node target :: operands := by
  obtain ⟨stage, command, glue⟩ := reads
  rw [glue] at marked
  obtain ⟨_, _, _, _, _, before, node, _, _, same, _⟩ := command.exists_group marked
  exact ⟨node, before.reverse, by simpa using congrArg List.reverse same⟩

/-- A path behind a mark makes a chain of the last operand. -/
theorem chain {token : Token} {target : Node} {operands : List Operand} {names : List String}
    (reads : Reads depth tokens frame) (field : token.lexeme = .field names)
    (follows : frame.operands = .node target :: operands)
    (adjacent : frame.glue = some token.start) :
    Reads depth (tokens ++ [token])
      { frame with operands := .node (.chain target names) :: operands, glue := none } := by
  obtain ⟨stage, command, glue⟩ := reads
  rw [glue] at adjacent
  obtain ⟨front, inside, opener, closer, shallower, before, node, rfl, rfl, same, earlier, opens,
    pipeline, closes, stop⟩ := command.exists_group adjacent
  rw [follows, List.reverse_cons] at same
  obtain ⟨rfl, last⟩ := List.append_inj' same rfl
  obtain rfl : target = node := by simpa using last
  have chained := DerivesOperand.chain opens pipeline closes field stop.symm
  have command := DerivesOperands.snoc earlier chained (apart_of_openParen opens _ _)
  rw [← List.reverse_cons] at command
  have unmarked :
      endMark (front ++ opener :: (inside ++ [closer, token])) = none := by
    rw [endMark_append (List.cons_ne_nil _ _), ← List.cons_append,
      endMark_append (List.cons_ne_nil _ _), endMark_pair,
      endMark_of_ne_closeParen (by simp [field])]
  simp only [List.append_assoc, List.cons_append]
  exact .mk stage command unmarked.symm

end Reads

/-- The tokens that have been read: those of every open pipeline, from the outside in, with the
parentheses that opened them. -/
inductive Holds : State → List Token → Prop
  /-- No parenthesis is open. -/
  | outermost {frame : Frame} {tokens : List Token}
      (reads : Reads maxParentheses tokens frame) : Holds ⟨frame, []⟩ tokens
  /-- A pipeline in parentheses is being read. -/
  | nested {frame enclosing : Frame} {outer : List Frame} {opener : Token}
      {before inside : List Token} {depth : Nat} (around : Holds ⟨enclosing, outer⟩ before)
      (opens : opener.lexeme = .openParen)
      (room : (enclosing :: outer).length + depth = maxParentheses)
      (reads : Reads depth inside frame) :
      Holds ⟨frame, enclosing :: outer⟩ (before ++ opener :: inside)

namespace Holds

/-- What has been read of the innermost pipeline can be replaced by another reading. -/
theorem exists_reads {frame : Frame} {outer : List Frame} {tokens : List Token}
    (holds : Holds ⟨frame, outer⟩ tokens) :
    ∃ before inside depth, tokens = before ++ inside ∧
      outer.length + depth = maxParentheses ∧ Reads depth inside frame ∧
        ∀ {other : Frame} {others : List Token}, Reads depth others other →
          Holds ⟨other, outer⟩ (before ++ others) := by
  cases holds with
  | outermost reads =>
      exact ⟨[], tokens, _, rfl, Nat.zero_add _, reads, fun other => .outermost other⟩
  | @nested _ _ _ opener before inside depth around opens room reads =>
      refine ⟨before ++ [opener], inside, depth, by simp, room, reads, fun other => ?_⟩
      rw [List.append_assoc]
      exact .nested around opens room other

/-- A step keeps the invariant. -/
theorem step {state next : State} {read : List Token} {token : Token}
    (holds : Holds state read) (takes : State.Takes state token next) :
    Holds next (read ++ [token]) := by
  cases takes with
  | atom reads apart =>
      obtain ⟨before, inside, depth, rfl, -, read, replace⟩ := holds.exists_reads
      have free : Apart state.frame.glue [token] := by
        intro head member names field marked
        obtain rfl : token = head := by simpa using member
        exact apart ⟨marked, ⟨names, field⟩, read.exists_target marked⟩
      have unmarked : endMark [token] = none := endMark_of_ne_closeParen fun closes => by
        rw [closes] at reads
        cases reads
      have pushed := read.push (.atom reads) free
      rw [unmarked] at pushed
      rw [List.append_assoc]
      exact replace pushed
  | glued field follows adjacent =>
      obtain ⟨before, inside, depth, rfl, -, reads, replace⟩ := holds.exists_reads
      rw [List.append_assoc]
      exact replace (reads.chain field follows adjacent)
  | openParen opens enough =>
      obtain ⟨frame, outer⟩ := state
      obtain ⟨depth, room⟩ := Nat.exists_eq_add_of_le (Nat.succ_le_of_lt enough)
      exact .nested holds opens room.symm (.start depth _)
  | pipe bars applies =>
      obtain ⟨before, inside, depth, rfl, -, reads, replace⟩ := holds.exists_reads
      rw [List.append_assoc]
      exact replace (reads.bar applies bars)
  | closeParen closes applies =>
      cases holds with
      | @nested _ _ _ opener _ inside depth around opens room reads =>
          obtain ⟨before, outside, deeper, rfl, room', read, replace⟩ := around.exists_reads
          rw [List.length_cons] at room
          obtain rfl : deeper = depth + 1 := by omega
          have group := DerivesOperand.group opens (reads.derives applies) closes
          have pushed := read.push group (apart_of_openParen opens _ _)
          rw [← List.cons_append, endMark_concat, endMark_of_closeParen closes] at pushed
          simp only [List.append_assoc, List.cons_append] at pushed ⊢
          exact replace pushed

/-- A run keeps the invariant. -/
theorem run {state final : State} {read tokens : List Token} (holds : Holds state read)
    (taken : Parser.run state tokens = .ok final) : Holds final (read ++ tokens) := by
  induction tokens generalizing state read with
  | nil =>
      obtain rfl := Except.ok.inj taken
      rwa [List.append_nil]
  | cons token tokens ih =>
      rw [Parser.run, List.foldlM_cons] at taken
      obtain ⟨middle, stepped, rest_taken⟩ := bind_eq_ok_iff.mp taken
      have later := ih (holds.step (State.takes_of_step stepped)) rest_taken
      rwa [List.append_assoc, List.singleton_append] at later

theorem start : Holds {} [] :=
  .outermost (.start _ _)

end Holds

theorem State.finish_eq_ok_iff {state : State} {offset : Nat} {node : Node} :
    state.finish offset = .ok node ↔
      state.outer = [] ∧ Applies state.frame.piped state.frame.operands.reverse node := by
  rw [State.finish, ← Frame.finish_eq_ok_iff]
  cases finished : state.frame.finish offset with
  | error fault => simp [bind, Except.bind]
  | ok result =>
      cases outer : state.outer with
      | nil => simp [bind, Except.bind]
      | cons enclosing rest => simp [bind, Except.bind]

theorem parse_eq_ok_iff_exists_run {tokens : List Token} {length : Nat} {node : Node} :
    parse tokens length = .ok node ↔
      ∃ frame : Frame, run {} tokens = .ok ⟨frame, []⟩ ∧
        Applies frame.piped frame.operands.reverse node := by
  rw [parse]
  cases taken : run {} tokens with
  | error fault => simp [bind, Except.bind]
  | ok state =>
      constructor
      · intro finished
        obtain ⟨closed, applies⟩ := State.finish_eq_ok_iff.mp finished
        obtain ⟨frame, outer⟩ := state
        cases closed
        exact ⟨frame, rfl, applies⟩
      · rintro ⟨frame, same, applies⟩
        cases same
        exact State.finish_eq_ok_iff.mpr ⟨rfl, applies⟩

/-- The parser accepts exactly the tokens of a pipeline. -/
theorem parse_eq_ok_iff {tokens : List Token} {length : Nat} {node : Node} :
    parse tokens length = .ok node ↔ DerivesPipeline maxParentheses tokens node := by
  rw [parse_eq_ok_iff_exists_run]
  constructor
  · rintro ⟨frame, taken, applies⟩
    cases Holds.start.run taken with
    | outermost reads => exact reads.derives applies
  · intro derives
    exact derives.run 0 (Nat.zero_add _)

/-- A defect shows at an index: the tokens before it are taken, and the token there is refused, or
there is none and the expression is not complete. -/
def RefusedAt (tokens : List Token) (length index : Nat) (fault : ParseFault) : Prop :=
  ∃ state, run {} (tokens.take index) = .ok state ∧
    match tokens[index]? with
    | some token => state.step token = .error fault
    | none => state.finish length = .error fault

/-- A run that fails does so at one of its tokens. -/
theorem exists_refused_of_run_eq_error {state : State} {tokens : List Token} {fault : ParseFault}
    (failed : run state tokens = .error fault) :
    ∃ index < tokens.length, ∃ middle, run state (tokens.take index) = .ok middle ∧
      ∃ token, tokens[index]? = some token ∧ middle.step token = .error fault := by
  induction tokens generalizing state with
  | nil => contradiction
  | cons token tokens ih =>
      cases stepped : state.step token with
      | error other =>
          rw [run, List.foldlM_cons, stepped] at failed
          obtain rfl := Except.error.inj failed
          exact ⟨0, Nat.succ_pos _, state, rfl, token, rfl, stepped⟩
      | ok middle =>
          have takes := State.takes_of_step stepped
          rw [run_cons takes] at failed
          obtain ⟨index, bound, final, taken, last, found, refused⟩ := ih failed
          refine ⟨index + 1, Nat.succ_lt_succ bound, final, ?_, last, found, refused⟩
          rw [List.take_succ_cons, run_cons takes, taken]

/-- A defect shows at one of the tokens or at their end, never behind it. -/
theorem exists_refusedAt {tokens : List Token} {length : Nat} {fault : ParseFault}
    (failed : parse tokens length = .error fault) :
    ∃ index ≤ tokens.length, RefusedAt tokens length index fault := by
  rw [parse] at failed
  cases taken : run {} tokens with
  | error other =>
      rw [taken] at failed
      obtain rfl := Except.error.inj failed
      obtain ⟨index, bound, state, read, token, found, refused⟩ :=
        exists_refused_of_run_eq_error taken
      exact ⟨index, Nat.le_of_lt bound, state, read, by rw [found]; exact refused⟩
  | ok state =>
      rw [taken] at failed
      refine ⟨tokens.length, Nat.le_refl _, state, by rw [List.take_length, taken], ?_⟩
      rw [List.getElem?_eq_none (Nat.le_refl _)]
      exact failed

end Promptline.Parser

namespace Promptline.Expression

open Promptline.Parser

/-- Parsing a text that is not blank and has tokens accepts exactly the grammar: the expression is
the trimmed text with the one tree that its tokens derive, and if they derive none, the parse error
shows the trimmed text and lies at one of the tokens or at their end. -/
theorem parse_ok_iff_derives {source : String} {tokens : List Token}
    (visible : Text.trim source ≠ "")
    (lexed : Lexer.tokenize (Text.trim source) = .ok tokens) :
    (∀ expression, parse source = .ok expression ↔
      expression.source = Text.trim source ∧
        DerivesPipeline maxParentheses tokens expression.node) ∧
      ((¬ ∃ node, DerivesPipeline maxParentheses tokens node) →
        ∃ fault, parse source = .error (.parse ⟨fault, Text.trim source⟩) ∧
          ∃ index ≤ tokens.length,
            RefusedAt tokens (Text.trim source).length index fault) := by
  rw [parse]
  simp only [visible, if_false, parseTrimmed, lexed]
  cases parsed : Parser.parse tokens (Text.trim source).length with
  | error fault =>
      have none (node : Node) : ¬ DerivesPipeline maxParentheses tokens node := by
        rw [← parse_eq_ok_iff, parsed]
        simp
      refine ⟨fun expression => by simp [none], fun _ => ?_⟩
      exact ⟨fault, rfl, exists_refusedAt parsed⟩
  | ok node =>
      have derives := parse_eq_ok_iff.mp parsed
      have same (other : Node) (also : DerivesPipeline maxParentheses tokens other) :
          node = other := by
        rw [← parse_eq_ok_iff, parsed] at also
        exact Except.ok.inj also
      refine ⟨fun expression => ⟨?_, ?_⟩, fun none => absurd ⟨node, derives⟩ none⟩
      · intro read
        obtain rfl := Except.ok.inj read
        exact ⟨rfl, derives⟩
      · rintro ⟨written, also⟩
        rw [same _ also, ← written]

theorem glued_path_is_derived :
    let source := " add (.A).B .C | round 2 "
    let tokens : List Token := [
      ⟨.identifier "add", ['a', 'd', 'd'], 0⟩, ⟨.openParen, ['('], 4⟩,
      ⟨.field ["A"], ['.', 'A'], 5⟩, ⟨.closeParen, [')'], 7⟩, ⟨.field ["B"], ['.', 'B'], 8⟩,
      ⟨.field ["C"], ['.', 'C'], 11⟩, ⟨.pipe, ['|'], 14⟩,
      ⟨.identifier "round", ['r', 'o', 'u', 'n', 'd'], 16⟩, ⟨.number (.int 2), ['2'], 22⟩]
    let node : Node := .call "round" [.literal (.int 2),
      .call "add" [.chain (.path ["A"]) ["B"], .path ["C"]]]
    Text.trim source ≠ "" ∧ Lexer.tokenize (Text.trim source) = .ok tokens ∧
      (parse source = .ok ⟨"add (.A).B .C | round 2", node⟩ ∧
        DerivesPipeline maxParentheses tokens node) ∧
      ((¬ ∃ node, DerivesPipeline maxParentheses tokens node) →
        ∃ fault, parse source = .error (.parse ⟨fault, Text.trim source⟩) ∧
          ∃ index ≤ tokens.length,
            RefusedAt tokens (Text.trim source).length index fault) := by
  intro source tokens node
  have visible : Text.trim source ≠ "" := by decide +kernel
  have lexed : Lexer.tokenize (Text.trim source) = .ok tokens := by cbv
  have trimmed : Text.trim source = "add (.A).B .C | round 2" := by decide +kernel
  have read : Parser.parse tokens 23 = .ok node := rfl
  have parsed : parse source = .ok ⟨"add (.A).B .C | round 2", node⟩ := by
    rw [trimmed] at visible lexed
    simp only [parse, trimmed, visible, if_false, parseTrimmed, lexed]
    rw [show "add (.A).B .C | round 2".length = 23 from rfl, read]
  obtain ⟨accepts, refuses⟩ := parse_ok_iff_derives visible lexed
  exact ⟨visible, lexed, ⟨parsed, ((accepts _).mp parsed).2⟩, refuses⟩

end Promptline.Expression
