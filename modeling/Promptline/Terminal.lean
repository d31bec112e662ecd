import Promptline.Terminal.Picture
import Promptline.Terminal.Width

/-!
# Text on a terminal

What is left of a text when it is printed line by line: controls that would move the cursor are
dropped, and tabs become blanks.
-/

namespace Promptline.Terminal

/-- Controls that are not printed: bell, backspace, vertical tab, form feed and carriage
return. -/
def isDropped (c : Char) : Bool :=
  [7, 8, 11, 12, 13].contains c.toNat

/-- Columns between tab stops. -/
def tabWidth : Nat := 8

/-- Number of blanks from a column to the next tab stop. -/
def toTabStop (column : Nat) : Nat :=
  tabWidth - column % tabWidth

/-- A text from a column on, with blanks up to the next tab stop in place of each tab. -/
def expandTabs (column : Nat) : List Char → List Char
  | [] => []
  | c :: cs =>
      if c = '\n' then c :: expandTabs 0 cs
      else if c = '\t' then
        List.replicate (toTabStop column) ' ' ++ expandTabs (column + toTabStop column) cs
      else c :: expandTabs (column + width c) cs

/-- A text as it is printed. -/
def printed (text : String) : String :=
  String.ofList (expandTabs 0 (text.toList.filter (!isDropped ·)))

/-- A message as it is printed: with pictures for codes. -/
def printedMessage (text : String) : String :=
  printed (withPictures text)

end Promptline.Terminal
