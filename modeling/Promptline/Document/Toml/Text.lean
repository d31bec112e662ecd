import Promptline.Document.Fault
import Promptline.Text.Digit
import Promptline.Text.Pieces

/-!
# Texts and keys of TOML

Basic strings have escapes, literal strings have none, and both come in a form that spans lines.
A key is a list of bare words and strings with points between them.
-/

namespace Promptline.Toml

/-- The text breaks a rule. -/
def malformed {α : Type} : Except DecodeFault α := .error .malformed

/-- White space within a line. -/
def isSpace (c : Char) : Bool :=
  c == ' ' || c == '\t'

/-- White space, line ends included. -/
def isSpaceOrBreak (c : Char) : Bool :=
  c == ' ' || c == '\t' || c == '\n'

/-- Drop white space within a line. -/
def skip (cs : List Char) : List Char :=
  cs.dropWhile isSpace

/-- Control characters, which no string and no comment of one line may hold. -/
def isControl (c : Char) : Bool :=
  (c.toNat < 0x20 && c != '\t') || c.toNat == 0x7F

/-- Control characters other than the line end. -/
def isInnerControl (c : Char) : Bool :=
  isControl c && c != '\n'

/-- Drop a comment, up to the end of the line. -/
def skipComment : List Char → Except DecodeFault (List Char)
  | '#' :: cs =>
      if (cs.takeWhile (· != '\n')).any isControl then malformed
      else .ok (cs.dropWhile (· != '\n'))
  | cs => .ok cs

/-- The character of a number of hexadecimal digits, which has to be a Unicode scalar value. -/
def hexChar (width : Nat) (cs : List Char) : Except DecodeFault (Char × List Char) :=
  let digits := (cs.take width).filterMap Text.hexValue?
  let code := digits.foldl (fun n digit => n * 16 + digit) 0
  if digits.length = width ∧ (code < 0xD800 ∨ (0xDFFF < code ∧ code < 0x110000)) then
    .ok (Char.ofNat code, cs.drop width)
  else malformed

/-- The character that a one-letter escape stands for. -/
def shortEscape? : Char → Option Char
  | 'b' => some '\x08'
  | 't' => some '\t'
  | 'n' => some '\n'
  | 'f' => some '\x0c'
  | 'r' => some '\r'
  | '"' => some '"'
  | '\\' => some '\\'
  | _ => none

/-- The text after a backslash at the end of a line: white space is dropped, and there has to be
a line end or the end of the text. -/
def afterContinuation (cs : List Char) : Except DecodeFault (List Char) :=
  match skip cs with
  | [] => .ok []
  | '\n' :: rest => .ok (rest.dropWhile isSpaceOrBreak)
  | _ => malformed

/-- What an escape stands for, after its backslash. In a string of several lines, a backslash
before a line end stands for nothing. -/
def escape (multiline : Bool) : List Char → Except DecodeFault (List Char × List Char)
  | 'u' :: cs => (hexChar 4 cs).map fun (c, rest) => ([c], rest)
  | 'U' :: cs => (hexChar 8 cs).map fun (c, rest) => ([c], rest)
  | c :: cs =>
      if multiline ∧ isSpaceOrBreak c then (afterContinuation (c :: cs)).map ([], ·)
      else match shortEscape? c with
        | some escaped => .ok ([escaped], cs)
        | none => malformed
  | [] => malformed

/-- A basic string after its opening quotes, up to its closing ones. -/
def basicFrom (multiline : Bool) : Nat → List Char → Except DecodeFault (List Char × List Char)
  | 0, _ => malformed
  | _ + 1, [] => malformed
  | fuel + 1, '\\' :: cs => do
      let (escaped, rest) ← escape multiline cs
      let (more, after) ← basicFrom multiline fuel rest
      .ok (escaped ++ more, after)
  | fuel + 1, c :: cs =>
      let proceed : Except DecodeFault (List Char × List Char) :=
        (basicFrom multiline fuel cs).map fun (more, after) => (c :: more, after)
      if c = '"' then
        if !multiline then .ok ([], cs)
        else match cs with
          | '"' :: '"' :: after => .ok ([], after)
          | _ => proceed
      else if isControl c && !(multiline && c == '\n') then malformed
      else proceed

/-- A literal string of one line, after its opening quote. -/
def literal (cs : List Char) : Except DecodeFault (List Char × List Char) :=
  let inner := cs.takeWhile (· != '\'')
  match cs.dropWhile (· != '\'') with
  | [] => malformed
  | _ :: after => if inner.any isControl then malformed else .ok (inner, after)

/-- The text before the first of three quotes in a row, and the text after them. -/
def untilThree (quote : Char) : List Char → Option (List Char × List Char)
  | [] => none
  | c :: cs =>
      match Text.afterPrefix? [quote, quote, quote] (c :: cs) with
      | some after => some ([], after)
      | none => (untilThree quote cs).map fun (inner, after) => (c :: inner, after)

/-- Up to two quotes right after the closing ones belong to the string. -/
def withExtraQuotes (quote : Char) (inner after : List Char) : List Char × List Char :=
  let extra := (after.takeWhile (· == quote)).take 2
  (inner ++ extra, after.drop extra.length)

/-- Drop a line end at the front. -/
def dropBreak : List Char → List Char
  | '\n' :: cs => cs
  | cs => cs

/-- A basic string of several lines, after its opening quotes. -/
def longBasic (cs : List Char) : Except DecodeFault (List Char × List Char) := do
  let (inner, after) ← basicFrom true (cs.length + 1) (dropBreak cs)
  .ok (withExtraQuotes '"' inner after)

/-- A literal string of several lines, after its opening quotes. -/
def longLiteral (cs : List Char) : Except DecodeFault (List Char × List Char) :=
  match untilThree '\'' (dropBreak cs) with
  | none => malformed
  | some (inner, after) =>
      if inner.any isInnerControl then malformed else .ok (withExtraQuotes '\'' inner after)

/-- A string of any form, if the text starts with one. -/
def string? : List Char → Option (Except DecodeFault (List Char × List Char))
  | '"' :: '"' :: '"' :: cs => some (longBasic cs)
  | '"' :: cs => some (basicFrom false (cs.length + 1) cs)
  | '\'' :: '\'' :: '\'' :: cs => some (longLiteral cs)
  | '\'' :: cs => some (literal cs)
  | _ => none

/-- Characters of a bare key. -/
def isBare (c : Char) : Bool :=
  c.isAlphanum || c == '-' || c == '_'

/-- One part of a key. -/
def keyPart : List Char → Except DecodeFault (String × List Char)
  | '"' :: cs => (basicFrom false (cs.length + 1) cs).map fun (s, rest) => (String.ofList s, rest)
  | '\'' :: cs => (literal cs).map fun (s, rest) => (String.ofList s, rest)
  | cs =>
      let word := cs.takeWhile isBare
      if word.isEmpty then malformed else .ok (String.ofList word, cs.drop word.length)

/-- The parts of a key that follow a point, and the white space after them. -/
def moreKey : Nat → List Char → Except DecodeFault (List String × List Char)
  | fuel + 1, '.' :: cs => do
      let (part, rest) ← keyPart (skip cs)
      let (parts, after) ← moreKey fuel (skip rest)
      .ok (part :: parts, after)
  | _, cs => .ok ([], cs)

/-- A key and the white space after it. -/
def key (cs : List Char) : Except DecodeFault (List String × List Char) := do
  let (part, rest) ← keyPart cs
  let (parts, after) ← moreKey cs.length (skip rest)
  .ok (part :: parts, after)

end Promptline.Toml
