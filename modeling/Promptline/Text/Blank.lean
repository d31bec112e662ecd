import Promptline.Text.CharSet

/-!
# Blank characters

White space of every script, the ASCII information separators included, and the removal of
leading and trailing characters of a class.
-/

namespace Promptline.Text

/-- White space, line and paragraph separators, and the ASCII information separators. -/
def blankSet : CharSet where
  intervals := [
    (0x0009, 0x000D), (0x001C, 0x0020), (0x0085, 0x0085), (0x00A0, 0x00A0), (0x1680, 0x1680),
    (0x2000, 0x200A), (0x2028, 0x2029), (0x202F, 0x202F), (0x205F, 0x205F), (0x3000, 0x3000)]

/-- Whether a character is white space. -/
def isBlank (c : Char) : Bool :=
  blankSet.contains c

/-- White space that may surround a number; the information separators may not. -/
def isPadding (c : Char) : Bool :=
  isBlank c && !(0x1C ≤ c.toNat && c.toNat ≤ 0x1F)

/-- Drop the trailing characters of a class. -/
def dropEndWhile (p : Char → Bool) (cs : List Char) : List Char :=
  (cs.reverse.dropWhile p).reverse

/-- Drop the leading and the trailing characters of a class. -/
def trimWhile (p : Char → Bool) (cs : List Char) : List Char :=
  dropEndWhile p (cs.dropWhile p)

/-- Drop the white space around a number. -/
def trimPadding (cs : List Char) : List Char :=
  trimWhile isPadding cs

/-- Drop leading and trailing white space. -/
def trimBlank (cs : List Char) : List Char :=
  trimWhile isBlank cs

/-- A text without leading and trailing white space. -/
def trim (text : String) : String :=
  String.ofList (trimBlank text.toList)

/-- Characters that a trim marker removes from the neighbouring text. -/
def isMargin (c : Char) : Bool :=
  c == ' ' || c == '\t' || c == '\r' || c == '\n'

end Promptline.Text
