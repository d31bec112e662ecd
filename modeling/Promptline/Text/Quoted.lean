import Promptline.Text.Printable

/-!
# Quoted texts

How messages show a piece of source text: between single quotes, or between double quotes when
it holds a single quote and no double quote, with unprintable characters escaped.
-/

namespace Promptline.Text

/-- Hexadecimal digits of a number, lower case, at least `width` of them. -/
def hexPadded (width n : Nat) : List Char :=
  let digits := Nat.toDigits 16 n
  List.replicate (width - digits.length) '0' ++ digits

/-- The escape of an unprintable character: the shortest of the three forms that holds it. -/
def escapeCode (c : Char) : List Char :=
  if c.toNat < 0x100 then '\\' :: 'x' :: hexPadded 2 c.toNat
  else if c.toNat < 0x10000 then '\\' :: 'u' :: hexPadded 4 c.toNat
  else '\\' :: 'U' :: hexPadded 8 c.toNat

/-- One character of a quoted text. -/
def quoteChar (mark c : Char) : List Char :=
  if c = mark ∨ c = '\\' then ['\\', c]
  else if c = '\n' then ['\\', 'n']
  else if c = '\r' then ['\\', 'r']
  else if c = '\t' then ['\\', 't']
  else if isPrintable c then [c]
  else escapeCode c

/-- The quotation mark that needs the fewest escapes, the single one when both need some. -/
def quoteMark (cs : List Char) : Char :=
  if cs.contains '\x27' && !cs.contains '"' then '"' else '\x27'

/-- A text between quotation marks. -/
def quoted (text : String) : String :=
  let cs := text.toList
  let mark := quoteMark cs
  String.ofList (mark :: cs.flatMap (quoteChar mark) ++ [mark])

/-- Bytes between quotation marks after a `b`; only ASCII characters stand for themselves. -/
def quotedBytes (octets : List Nat) : String :=
  let cs := octets.map Char.ofNat
  let mark := quoteMark cs
  let shown (c : Char) := if c.toNat < 0x80 then quoteChar mark c else escapeCode c
  String.ofList ('b' :: mark :: cs.flatMap shown ++ [mark])

end Promptline.Text
