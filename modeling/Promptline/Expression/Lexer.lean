import Promptline.Expression.Token
import Promptline.Number.Read
import Promptline.Text.JsonString
import Promptline.Text.Pieces
import Promptline.Text.Word

/-!
# Reading tokens

Each pattern measures how many characters at the front of a text belong to it; the first
pattern that measures anything wins. The measured text is then decoded on its own, so the tokens
and the white space between them always make up the source.
-/

namespace Promptline.Lexer

open Text (extent extent_le_length signLength)
open Text.JsonString (closingLength)

/-- Length of an exponent, or zero. -/
def exponentLength : List Char → Nat
  | c :: cs =>
      if c = 'e' ∨ c = 'E' then
        let sign := signLength cs
        let digits := extent Text.isDigit (cs.drop sign)
        if digits = 0 then 0 else 1 + sign + digits
      else 0
  | [] => 0

/-- Length of a hexadecimal number with its `0x`, or zero. -/
def hexLength : List Char → Nat
  | '0' :: x :: cs =>
      if x = 'x' ∨ x = 'X' then
        let digits := extent Text.isHexDigit cs
        if digits = 0 then 0 else 2 + digits
      else 0
  | _ => 0

/-- Length of a fraction that follows the digits of a number, or zero. -/
def fractionLength : List Char → Nat
  | '.' :: cs => 1 + extent Text.isDigit cs
  | _ => 0

/-- Length of an unsigned decimal number, or zero. At least one digit is needed before or after
the point. -/
def decimalLength (cs : List Char) : Nat :=
  let whole := extent Text.isDigit cs
  let fraction := fractionLength (cs.drop whole)
  if whole = 0 ∧ fraction ≤ 1 then 0
  else whole + fraction + exponentLength (cs.drop (whole + fraction))

/-- Length of a number with an optional sign, or zero. -/
def numberLength (cs : List Char) : Nat :=
  let sign := signLength cs
  let body := cs.drop sign
  let length := if hexLength body = 0 then decimalLength body else hexLength body
  if length = 0 then 0 else sign + length

/-- Length of as many dotted names as there are. -/
def pathLength : List Char → Nat
  | '.' :: c :: cs =>
      if Text.isNameStart c then
        let word := extent Text.isWord cs
        2 + word + pathLength (cs.drop word)
      else 0
  | _ => 0
termination_by cs => cs.length
decreasing_by simp only [List.length_drop, List.length_cons]; omega

/-- Length of a root mark with its path, or zero. -/
def rootPathLength : List Char → Nat
  | '$' :: cs => 1 + pathLength cs
  | _ => 0

/-- Length of a name, or zero. -/
def nameLength : List Char → Nat
  | c :: cs => if Text.isNameStart c then 1 + extent Text.isWord cs else 0
  | [] => 0

/-- Length of a quoted string, or zero. -/
def stringLength : List Char → Nat
  | '"' :: cs => ((closingLength cs).map (· + 1)).getD 0
  | _ => 0

/-- The mark around raw strings. -/
def rawMark : Char := '\x60'

/-- Length of a raw string, or zero. -/
def rawLength : List Char → Nat
  | c :: cs =>
      if c = rawMark then
        let inner := extent (· != rawMark) cs
        if inner < cs.length then inner + 2 else 0
      else 0
  | [] => 0

/-- The kinds of text that an expression is made of. -/
inductive Pattern
  /-- White space. -/
  | blank
  /-- A number. -/
  | number
  /-- Dotted names. -/
  | path
  /-- A lone dot. -/
  | dot
  /-- The root, with dotted names. -/
  | rootPath
  /-- A name. -/
  | name
  /-- A quoted string. -/
  | string
  /-- A raw string. -/
  | raw
  /-- An opening parenthesis. -/
  | openParen
  /-- A closing parenthesis. -/
  | closeParen
  /-- A bar. -/
  | pipe
  deriving DecidableEq, Repr

namespace Pattern

/-- How many characters at the front of a text belong to the pattern. -/
def measure (cs : List Char) : Pattern → Nat
  | blank => extent Text.isBlank cs
  | number => numberLength cs
  | path => pathLength cs
  | dot => extent (· == '.') (cs.take 1)
  | rootPath => rootPathLength cs
  | name => nameLength cs
  | string => stringLength cs
  | raw => rawLength cs
  | openParen => extent (· == '(') (cs.take 1)
  | closeParen => extent (· == ')') (cs.take 1)
  | pipe => extent (· == '|') (cs.take 1)

/-- The patterns in the order in which they are tried. -/
def order : List Pattern :=
  [blank, number, path, dot, rootPath, name, string, raw, openParen, closeParen, pipe]

/-- The first pattern that measures anything, with its measure. -/
def first? (cs : List Char) : Option (Pattern × Nat) :=
  (order.map fun pattern => (pattern, pattern.measure cs)).find? fun hit => 0 < hit.2

end Pattern

/-- The names of a dotted path; what stands before the first dot does not count. -/
def namesOf (text : List Char) : List String :=
  ((Text.splitOn '.' text).drop 1).map String.ofList

/-- The integer that hexadecimal digits with an optional sign and a leading `0x` stand for. -/
def hexInteger (text : List Char) : Int :=
  let (negative, body) := Number.takeSign text
  let n := Number.ofDigits 16 ((body.drop 2).filterMap Text.hexValue?)
  if negative then -n else n

/-- The value of a number's text. -/
def numberValue (text : List Char) : Except LexFault Literal :=
  if text.any fun c => c == 'x' || c == 'X' then .ok (.int (hexInteger text))
  else if text.any fun c => c == '.' || c == 'e' || c == 'E' then
    .ok (.float ((Number.readFloat? text).getD 0.0))
  else match Number.readInteger text with
    | .ok n => .ok (.int n)
    | .error (.tooLong digits) => .error (.tooLong (.reading digits))
    | .error .malformed => .ok (.int 0)

/-- The meaning of a name: three of them are constants. -/
def nameLexeme (text : List Char) : Lexeme :=
  if text = ['t', 'r', 'u', 'e'] then .bool true
  else if text = ['f', 'a', 'l', 's', 'e'] then .bool false
  else if text = ['n', 'i', 'l'] then .nil
  else .identifier (String.ofList text)

/-- What stands between the first and the last character. -/
def inside (text : List Char) : List Char :=
  (text.drop 1).dropLast

/-- The meaning of a measured text; white space has none. -/
def decode (text : List Char) : Pattern → Except LexFault (Option Lexeme)
  | .blank => .ok none
  | .number => (numberValue text).map fun value => some (.number value)
  | .path => .ok (some (.field (namesOf text)))
  | .dot => .ok (some .dot)
  | .rootPath => .ok (some (.rootPath (namesOf text)))
  | .name => .ok (some (nameLexeme text))
  | .string =>
      match Text.JsonString.decode? (inside text) with
      | some s => .ok (some (.string (String.ofList s)))
      | none => .error (.malformed (.invalidString (String.ofList text)))
  | .raw => .ok (some (.string (String.ofList (inside text))))
  | .openParen => .ok (some .openParen)
  | .closeParen => .ok (some .closeParen)
  | .pipe => .ok (some .pipe)

/-- The defect of a text that no pattern fits. -/
def unmatched (c : Char) (offset : Nat) : ParseFault :=
  if c = '"' ∨ c = rawMark then .unterminatedString offset else .unexpectedChar c offset

/-- The tokens of a text that stands at an offset. -/
def tokensFrom (offset : Nat) : List Char → Except LexFault (List Token)
  | [] => .ok []
  | c :: cs =>
      match Pattern.first? (c :: cs) with
      | none => .error (.malformed (unmatched c offset))
      | some (pattern, length) => do
          let text := (c :: cs).take length
          let lexeme ← decode text pattern
          let tokens ← tokensFrom (offset + length) (cs.drop (length - 1))
          match lexeme with
          | some lexeme => .ok (⟨lexeme, text, offset⟩ :: tokens)
          | none => .ok tokens
termination_by cs => cs.length
decreasing_by simp only [List.length_drop, List.length_cons]; omega

/-- The tokens of an expression. -/
def tokenize (source : String) : Except LexFault (List Token) :=
  tokensFrom 0 source.toList

end Promptline.Lexer
