import Promptline.Text.Quoted

/-!
# Parse errors

What can be wrong with an expression or with the structure of a template.
-/

namespace Promptline

/-- A defect of an expression or of a template. -/
inductive ParseFault
  /-- A character that starts no token. -/
  | unexpectedChar (c : Char) (offset : Nat)
  /-- A quoted or raw string without an end. -/
  | unterminatedString (offset : Nat)
  /-- A quoted string with a bad escape or a raw control character. -/
  | invalidString (text : String)
  /-- Nothing but white space. -/
  | emptyExpression
  /-- A closing parenthesis without an opening one. -/
  | unexpectedClose (offset : Nat)
  /-- A bar with nothing after it. -/
  | missingCommand (offset : Nat)
  /-- Nothing where a value has to be. -/
  | missingValue (offset : Nat)
  /-- Operands after something that is no function. -/
  | argumentToNonFunction
  /-- A bar before something that is no function. -/
  | pipeToNonFunction
  /-- Parentheses nested too deeply. -/
  | parenthesesTooDeep (offset : Nat)
  /-- An opening parenthesis without a closing one. -/
  | unclosedParenthesis (offset : Nat)
  /-- A comment without an end. -/
  | unclosedComment (offset : Nat)
  /-- An action without an end. -/
  | unclosedAction (offset : Nat)
  /-- A guard without a condition. -/
  | missingCondition
  /-- A later guard without a condition. -/
  | missingElseCondition
  /-- Something after the keyword that ends a conditional. -/
  | unexpectedAfterEnd (text : String)
  /-- Something other than a guard after the keyword of the last part. -/
  | unexpectedAfterElse (text : String)
  /-- A keyword outside any conditional. -/
  | strayKeyword (keyword : String)
  /-- Conditionals nested too deeply. -/
  | conditionalsTooDeep
  /-- A keyword in the last part of a conditional that does not end it. -/
  | expectedEnd (got : String)
  /-- A conditional without an end. -/
  | missingEnd (opener : String)
  deriving DecidableEq, Repr

/-- Deepest nesting of parentheses in an expression. -/
def maxParentheses : Nat := 100

/-- Deepest nesting of conditionals in a template. -/
def maxConditionals : Nat := 100

namespace ParseFault

/-- A keyword between action delimiters. -/
def actionText (keyword : String) : String :=
  "\x7b\x7b " ++ keyword ++ " \x7d\x7d"

/-- Text of a defect at an offset. -/
def atOffset (what : String) (offset : Nat) : String :=
  what ++ " at offset " ++ toString offset

/-- Text of a defect. -/
def message : ParseFault → String
  | unexpectedChar c offset =>
      atOffset ("unexpected character " ++ Text.quoted (String.singleton c)) offset
  | unterminatedString offset => atOffset "unterminated string literal" offset
  | invalidString text => "invalid string literal " ++ text
  | emptyExpression => "empty expression"
  | unexpectedClose offset => atOffset "unexpected ')'" offset
  | missingCommand offset => atOffset "missing command after '|'" offset
  | missingValue offset => atOffset "missing value" offset
  | argumentToNonFunction => "can't give argument to non-function"
  | pipeToNonFunction => "can't pipe a value into a non-function"
  | parenthesesTooDeep offset =>
      atOffset ("parentheses nested deeper than " ++ toString maxParentheses) offset
  | unclosedParenthesis offset => atOffset "unclosed '('" offset
  | unclosedComment offset => atOffset "unclosed comment" offset
  | unclosedAction offset => atOffset "unclosed action" offset
  | missingCondition => "missing condition in if"
  | missingElseCondition => "missing condition in else if"
  | unexpectedAfterEnd text => "unexpected " ++ Text.quoted text ++ " after end"
  | unexpectedAfterElse text => "unexpected " ++ Text.quoted text ++ " after else"
  | strayKeyword keyword => "unexpected " ++ actionText keyword
  | conditionalsTooDeep =>
      actionText "if" ++ " nested deeper than " ++ toString maxConditionals
  | expectedEnd got => "expected " ++ actionText "end" ++ " after else, got " ++ got
  | missingEnd opener => "missing " ++ actionText "end" ++ " for " ++ opener

end ParseFault

/-- A defect together with the source text that has it. -/
structure ParseError where
  /-- The defect. -/
  fault : ParseFault
  /-- Source text of the expression, action or template. -/
  expression : String
  deriving DecidableEq, Repr

namespace ParseError

/-- Text of the defect. -/
def message (error : ParseError) : String :=
  error.fault.message

end ParseError

end Promptline
