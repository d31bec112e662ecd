import Promptline.Expression.Lexer
import Promptline.Expression.Node

/-!
# Parsing expressions

An expression is a pipeline of commands separated by bars. A command whose first operand is a
name is a function call, and the value of the stage before it becomes its last operand; any
other command is a single operand. Tokens are taken from left to right; the open parentheses
are kept on a stack of frames.
-/

namespace Promptline.Parser

/-- An operand of a command. -/
inductive Operand
  /-- A complete expression. -/
  | node (node : Node)
  /-- The name of a function. -/
  | name (name : String)

namespace Operand

/-- An operand that is not the first of its command: a bare name is a call without operands. -/
def toNode : Operand → Node
  | node n => n
  | name f => .call f []

end Operand

/-- A pipeline that is being read. -/
structure Frame where
  /-- Offset of the parenthesis that opened it. -/
  opener : Nat := 0
  /-- The expression before the last bar. -/
  piped : Option Node := none
  /-- Operands of the current command, the last one first. -/
  operands : List Operand := []
  /-- Offset just after a closing parenthesis, if the last operand ends with one. -/
  glue : Option Nat := none

/-- The pipelines that are being read: the innermost one, and those around it. -/
structure State where
  /-- The innermost pipeline. -/
  frame : Frame := {}
  /-- The pipelines around it, from the inside out. -/
  outer : List Frame := []

namespace Frame

/-- Add an operand to the current command. -/
def push (frame : Frame) (operand : Operand) : Frame :=
  { frame with operands := operand :: frame.operands, glue := none }

/-- Add the expression of a parenthesis that was closed just before an offset. -/
def pushGroup (frame : Frame) (node : Node) (stop : Nat) : Frame :=
  { frame with operands := .node node :: frame.operands, glue := some stop }

/-- Add a path, or extend the parenthesis that it directly follows. -/
def pushPath (frame : Frame) (names : List String) (start : Nat) : Frame :=
  match frame.operands with
  | .node target :: operands =>
      if frame.glue = some start then
        { frame with operands := .node (.chain target names) :: operands, glue := none }
      else frame.push (.node (.path names))
  | _ => frame.push (.node (.path names))

/-- The expression of the pipeline when its current command ends at an offset. -/
def finish (frame : Frame) (offset : Nat) : Except ParseFault Node :=
  match frame.operands.reverse, frame.piped with
  | [], some _ => .error (.missingCommand offset)
  | [], none => .error (.missingValue offset)
  | .name f :: rest, piped => .ok (.call f (rest.map Operand.toNode ++ piped.toList))
  | .node _ :: _ :: _, _ => .error .argumentToNonFunction
  | [.node _], some _ => .error .pipeToNonFunction
  | [.node n], none => .ok n

end Frame

namespace State

/-- Add an operand to the innermost command. -/
def push (state : State) (operand : Operand) : State :=
  { state with frame := state.frame.push operand }

/-- Take a token. -/
def step (state : State) (token : Token) : Except ParseFault State :=
  match token.lexeme with
  | .field names => .ok { state with frame := state.frame.pushPath names token.start }
  | .dot => .ok (state.push (.node (.path [])))
  | .rootPath names => .ok (state.push (.node (.root names)))
  | .identifier name => .ok (state.push (.name name))
  | .number value => .ok (state.push (.node (.literal value)))
  | .string s => .ok (state.push (.node (.literal (.string s))))
  | .bool b => .ok (state.push (.node (.literal (.bool b))))
  | .nil => .ok (state.push (.node (.literal .nil)))
  | .openParen =>
      if state.outer.length < maxParentheses then
        .ok { frame := { opener := token.start }, outer := state.frame :: state.outer }
      else .error (.parenthesesTooDeep token.start)
  | .pipe => do
      let node ← state.frame.finish token.start
      .ok { state with frame := { opener := state.frame.opener, piped := some node } }
  | .closeParen => do
      let node ← state.frame.finish token.start
      match state.outer with
      | [] => .error (.unexpectedClose token.start)
      | frame :: outer => .ok { frame := frame.pushGroup node token.stop, outer := outer }

/-- The expression read when the source ends at an offset. -/
def finish (state : State) (offset : Nat) : Except ParseFault Node := do
  let node ← state.frame.finish offset
  if state.outer.isEmpty then .ok node
  else .error (.unclosedParenthesis state.frame.opener)

end State

/-- Take tokens from left to right. -/
def run (state : State) (tokens : List Token) : Except ParseFault State :=
  tokens.foldlM State.step state

/-- The expression of the tokens of a source of the given length. -/
def parse (tokens : List Token) (length : Nat) : Except ParseFault Node := do
  (← run {} tokens).finish length

end Promptline.Parser

namespace Promptline

/-- Why a text is no expression. -/
inductive ExpressionFault
  /-- The text is malformed. -/
  | parse (error : ParseError)
  /-- An integer has too many digits. -/
  | tooLong (limit : DigitLimit)
  deriving DecidableEq, Repr

/-- A parsed expression. -/
structure Expression where
  /-- The text without surrounding white space. -/
  source : String
  /-- What it means. -/
  node : Node

namespace Expression

/-- Parse a text that has no surrounding white space. -/
def parseTrimmed (source : String) : Except ExpressionFault Expression :=
  match Lexer.tokenize source with
  | .error (.malformed fault) => .error (.parse ⟨fault, source⟩)
  | .error (.tooLong limit) => .error (.tooLong limit)
  | .ok tokens =>
      match Parser.parse tokens source.length with
      | .error fault => .error (.parse ⟨fault, source⟩)
      | .ok node => .ok ⟨source, node⟩

/-- Parse a text. An error shows the text without surrounding white space, unless nothing else
is there. -/
def parse (source : String) : Except ExpressionFault Expression :=
  let trimmed := Text.trim source
  if trimmed = "" then .error (.parse ⟨.emptyExpression, source⟩) else parseTrimmed trimmed

end Expression

end Promptline
