import Promptline.ParseError
import Promptline.Value

/-!
# Tokens

The tokens of an expression, each with the text it was read from and its place.
-/

namespace Promptline

/-- A constant of the template language. -/
inductive Literal
  /-- No value. -/
  | nil
  /-- A truth value. -/
  | bool (b : Bool)
  /-- An integer. -/
  | int (n : Int)
  /-- A double. -/
  | float (x : Float)
  /-- A text. -/
  | string (s : String)

namespace Literal

/-- The value of a constant. -/
def toValue : Literal → Value
  | nil => .nil
  | bool b => .bool b
  | int n => .int n
  | float x => .float x
  | string s => .string s

end Literal

/-- What a token means. -/
inductive Lexeme
  /-- A dotted path of at least one name. -/
  | field (names : List String)
  /-- A lone dot. -/
  | dot
  /-- The root, with the names of a path from it. -/
  | rootPath (names : List String)
  /-- The name of a function. -/
  | identifier (name : String)
  /-- A number. -/
  | number (value : Literal)
  /-- A quoted or raw string. -/
  | string (s : String)
  /-- A truth value. -/
  | bool (b : Bool)
  /-- The word for no value. -/
  | nil
  /-- An opening parenthesis. -/
  | openParen
  /-- A closing parenthesis. -/
  | closeParen
  /-- A bar. -/
  | pipe

/-- A token. -/
structure Token where
  /-- What it means. -/
  lexeme : Lexeme
  /-- The text it was read from. -/
  text : List Char
  /-- Offset of its first character. -/
  start : Nat

namespace Token

/-- Offset one past the last character. -/
def stop (token : Token) : Nat :=
  token.start + token.text.length

end Token

/-- Why a text has no tokens: it is malformed, or it holds an integer that is too long. -/
inductive LexFault
  /-- The text is malformed. -/
  | malformed (fault : ParseFault)
  /-- An integer has too many digits. -/
  | tooLong (limit : DigitLimit)
  deriving DecidableEq, Repr

end Promptline
