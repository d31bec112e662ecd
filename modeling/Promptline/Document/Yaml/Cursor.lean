import Promptline.Text.Pieces

/-!
# Positions in YAML text

A cursor is the text that has not been read yet, with the place where it starts. Lines end at
line feeds, carriage returns, next-line characters and the two Unicode separators.
-/

namespace Promptline.Yaml

/-- A place in a text. -/
structure Cursor where
  /-- The text from the place on. -/
  rest : List Char
  /-- Characters before the place. -/
  index : Nat := 0
  /-- Lines before the place. -/
  line : Nat := 0
  /-- Characters before the place on its line. -/
  column : Nat := 0

/-- Whether a character ends a line. -/
def isBreak (c : Char) : Bool :=
  c == '\n' || c == '\r' || c == '\u0085' || c == '\u2028' || c == '\u2029'

/-- Whether a character is a blank, a tab or the end of a line. -/
def isBlank (c : Char) : Bool :=
  c == ' ' || c == '\t' || isBreak c

/-- Whether text is at its end or starts with a blank, a tab or a line end. -/
def endsWord (cs : List Char) : Bool :=
  cs.head?.all isBlank

/-- Whether text is at its end, at a blank or at a line end. -/
def endsField (cs : List Char) : Bool :=
  cs.head?.all fun c => c == ' ' || isBreak c

/-- Whether text is at its end or at a line end. -/
def endsLine (cs : List Char) : Bool :=
  cs.head?.all isBreak

namespace Cursor

/-- The place after the next character. A byte order mark takes no column. -/
def advance (cursor : Cursor) : Cursor :=
  match cursor.rest with
  | [] => cursor
  | c :: cs =>
      if isBreak c && !(c == '\r' && cs.head? == some '\n') then
        ⟨cs, cursor.index + 1, cursor.line + 1, 0⟩
      else if c == '\uFEFF' then ⟨cs, cursor.index + 1, cursor.line, cursor.column⟩
      else ⟨cs, cursor.index + 1, cursor.line, cursor.column + 1⟩

/-- The place some characters further on. -/
def advanceBy : Nat → Cursor → Cursor
  | 0, cursor => cursor
  | n + 1, cursor => advanceBy n cursor.advance

/-- Take characters of a class. -/
def takeWhile (p : Char → Bool) (cursor : Cursor) : List Char × Cursor :=
  let taken := cursor.rest.takeWhile p
  (taken, cursor.advanceBy taken.length)

/-- Pass characters of a class. -/
def skipWhile (p : Char → Bool) (cursor : Cursor) : Cursor :=
  (cursor.takeWhile p).2

/-- Pass blanks. -/
def skipBlanks (cursor : Cursor) : Cursor :=
  cursor.skipWhile (· == ' ')

/-- Pass a comment, if there is one, up to the end of the line. -/
def skipComment (cursor : Cursor) : Cursor :=
  if cursor.rest.head? = some '#' then cursor.skipWhile fun c => !isBreak c else cursor

/-- Pass a line end. All line ends but the two Unicode separators count as line feeds. -/
def lineBreak? (cursor : Cursor) : Option (Char × Cursor) :=
  match cursor.rest with
  | '\r' :: '\n' :: _ => some ('\n', cursor.advanceBy 2)
  | c :: _ =>
      if c == '\u2028' || c == '\u2029' then some (c, cursor.advance)
      else if isBreak c then some ('\n', cursor.advance)
      else none
  | [] => none

/-- Pass a line end, if there is one. -/
def skipBreak (cursor : Cursor) : Cursor :=
  (cursor.lineBreak?.map (·.2)).getD cursor

/-- Whether the text starts with a mark between documents. -/
def atSeparator (cursor : Cursor) : Bool :=
  match cursor.rest with
  | a :: b :: c :: rest =>
      ((a == '-' && b == '-' && c == '-') || (a == '.' && b == '.' && c == '.')) && endsWord rest
  | _ => false

end Cursor

end Promptline.Yaml
