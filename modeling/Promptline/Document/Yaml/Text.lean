import Promptline.Document.Yaml.Cursor
import Promptline.Number.Read

/-!
# Texts of YAML

Plain texts, quoted texts and block texts, which all may span lines: one line end inside becomes
a blank, and of several the first one is dropped.
-/

namespace Promptline.Yaml

/-- What a line end and the empty lines after it amount to inside a text. -/
def folded (first : Char) (more : List Char) : List Char :=
  if first ≠ '\n' then first :: more else if more.isEmpty then [' '] else more

namespace Plain

/-- Whether a character is a mark inside brackets and braces. -/
def isFlowMark (c : Char) : Bool :=
  c == ',' || c == '[' || c == ']' || c == '\x7b' || c == '\x7d'

/-- Length of the stretch of a plain text that has no white space. -/
def stretch (flow : Bool) : List Char → Nat
  | [] => 0
  | c :: cs =>
      if isBlank c || (c == ':' && (endsWord cs || (flow && cs.head?.any isFlowMark))) ||
          (flow && (c == '?' || isFlowMark c)) then 0
      else 1 + stretch flow cs

/-- Empty lines and blanks after a line end; nothing if there is a mark between documents. -/
def emptyLines : Nat → Cursor → Option (List Char) × Cursor
  | 0, cursor => (some [], cursor)
  | fuel + 1, cursor =>
      let cursor := cursor.skipBlanks
      match cursor.lineBreak? with
      | none => (some [], cursor)
      | some (c, cursor) =>
          if cursor.atSeparator then (none, cursor)
          else
            let (more, cursor) := emptyLines fuel cursor
            (more.map (c :: ·), cursor)

/-- White space after a stretch: what it amounts to if the text goes on, whether a line ended,
and the place after it. -/
def gap (cursor : Cursor) : List Char × Bool × Cursor :=
  let (blanks, cursor) := cursor.takeWhile (· == ' ')
  match cursor.lineBreak? with
  | none => (blanks, false, cursor)
  | some (first, cursor) =>
      if cursor.atSeparator then ([], true, cursor)
      else match emptyLines (cursor.rest.length + 1) cursor with
        | (some more, cursor) => (folded first more, true, cursor)
        | (none, cursor) => ([], true, cursor)

/-- A plain text whose continuation lines have at least the given indentation. The flag tells
whether a line ended after its last stretch. -/
def read (flow : Bool) (indent : Int) : Nat → List Char → Bool → Cursor →
    List Char × Bool × Cursor
  | 0, _, ended, cursor => ([], ended, cursor)
  | fuel + 1, lead, ended, cursor =>
      let length := stretch flow cursor.rest
      if cursor.rest.head? = some '#' ∨ length = 0 then ([], ended, cursor)
      else
        let text := lead ++ cursor.rest.take length
        let (space, ended, cursor) := gap (cursor.advanceBy length)
        if space.isEmpty || cursor.rest.head? == some '#' ||
            (!flow && decide ((cursor.column : Int) < indent)) then (text, ended, cursor)
        else
          let (more, ended, cursor) := read flow indent fuel space ended cursor
          (text ++ more, ended, cursor)

end Plain

namespace Quoted

/-- The character that a one-letter escape stands for. -/
def shortEscape? : Char → Option Char
  | '0' => some '\x00'
  | 'a' => some '\x07'
  | 'b' => some '\x08'
  | 't' => some '\t'
  | '\t' => some '\t'
  | 'n' => some '\n'
  | 'v' => some '\x0b'
  | 'f' => some '\x0c'
  | 'r' => some '\r'
  | 'e' => some '\x1b'
  | ' ' => some ' '
  | '"' => some '"'
  | '\\' => some '\\'
  | '/' => some '/'
  | 'N' => some '\u0085'
  | '_' => some '\u00a0'
  | 'L' => some '\u2028'
  | 'P' => some '\u2029'
  | _ => none

/-- Number of hexadecimal digits that an escape has. -/
def codeWidth? : Char → Option Nat
  | 'x' => some 2
  | 'u' => some 4
  | 'U' => some 8
  | _ => none

/-- The character with a code given by hexadecimal digits. -/
def codeChar? (width : Nat) (cs : List Char) : Option Char :=
  let digits := (cs.take width).filterMap Text.hexValue?
  let code := Number.ofDigits 16 digits
  if digits.length = width ∧ (code < 0xD800 ∨ (0xDFFF < code ∧ code < 0x110000)) then
    some (Char.ofNat code)
  else none

/-- Empty lines after a line end, and the white space that starts the next line. A mark between
documents is refused. -/
def emptyLines? : Nat → Cursor → Option (List Char × Cursor)
  | 0, _ => none
  | fuel + 1, cursor =>
      if cursor.atSeparator then none
      else
        let cursor := cursor.skipWhile fun c => c == ' ' || c == '\t'
        match cursor.lineBreak? with
        | none => some ([], cursor)
        | some (c, cursor) => do
            let (more, cursor) ← emptyLines? fuel cursor
            some (c :: more, cursor)

/-- An escape after its backslash. -/
def escape? (cursor : Cursor) : Option (List Char × Cursor) :=
  match cursor.rest with
  | [] => none
  | c :: cs =>
      match shortEscape? c with
      | some escaped => some ([escaped], cursor.advance)
      | none =>
          match codeWidth? c with
          | some width => (codeChar? width cs).map fun c => ([c], cursor.advanceBy (width + 1))
          | none => do
              let (_, cursor) ← cursor.lineBreak?
              emptyLines? (cursor.rest.length + 1) cursor

/-- White space inside a quoted text. -/
def gap? (cursor : Cursor) : Option (List Char × Cursor) :=
  let (blanks, cursor) := cursor.takeWhile fun c => c == ' ' || c == '\t'
  if cursor.rest.isEmpty then none
  else match cursor.lineBreak? with
    | none => some (blanks, cursor)
    | some (first, cursor) => do
        let (more, cursor) ← emptyLines? (cursor.rest.length + 1) cursor
        some (folded first more, cursor)

/-- A quoted text after its opening quote. In double quotes a backslash starts an escape, in
single quotes a quote is written twice. -/
def read? (double : Bool) : Nat → Cursor → Option (List Char × Cursor)
  | 0, _ => none
  | fuel + 1, cursor =>
      let go (lead : List Char) (cursor : Cursor) : Option (List Char × Cursor) :=
        (read? double fuel cursor).map fun (more, after) => (lead ++ more, after)
      match cursor.rest with
      | [] => none
      | c :: cs =>
          if isBlank c then do
            let (space, cursor) ← gap? cursor
            go space cursor
          else if double then
            if c = '"' then some ([], cursor.advance)
            else if c = '\\' then do
              let (escaped, cursor) ← escape? cursor.advance
              go escaped cursor
            else go [c] cursor.advance
          else if c = '\'' then
            if cs.head? = some '\'' then go ['\''] (cursor.advanceBy 2)
            else some ([], cursor.advance)
          else go [c] cursor.advance

end Quoted

namespace BlockText

/-- What happens to the line ends at the end of a block text. -/
inductive Chomping
  /-- All of them are dropped. -/
  | strip
  /-- One of them is kept. -/
  | clip
  /-- All of them are kept. -/
  | keep
  deriving DecidableEq, Repr

/-- A sign that tells what happens to the line ends at the end. -/
def chomping? : Char → Option Chomping
  | '+' => some .keep
  | '-' => some .strip
  | _ => none

/-- A digit that gives the indentation. -/
def indentation? (c : Char) : Option Nat :=
  if '1' ≤ c ∧ c ≤ '9' then some (c.toNat - '0'.toNat) else none

/-- A sign and a digit in any order, each of which may be missing. -/
def indicators (cursor : Cursor) : Chomping × Option Nat × Cursor :=
  match cursor.rest with
  | c :: d :: _ =>
      match chomping? c, indentation? c with
      | some chomping, _ =>
          match indentation? d with
          | some indent => (chomping, some indent, cursor.advanceBy 2)
          | none => (chomping, none, cursor.advance)
      | none, some indent =>
          match chomping? d with
          | some chomping => (chomping, some indent, cursor.advanceBy 2)
          | none => (.clip, some indent, cursor.advance)
      | none, none => (.clip, none, cursor)
  | [c] =>
      match chomping? c, indentation? c with
      | some chomping, _ => (chomping, none, cursor.advance)
      | none, some indent => (.clip, some indent, cursor.advance)
      | none, none => (.clip, none, cursor)
  | [] => (.clip, none, cursor)

/-- The rest of the first line, on which only a comment may stand. -/
def header? (cursor : Cursor) : Option Cursor :=
  let cursor := cursor.skipBlanks.skipComment
  if endsLine cursor.rest then some cursor.skipBreak else none

/-- Empty lines before the first one that has text, and the widest indentation among them. -/
def measure : Nat → Nat → Cursor → List Char × Nat × Cursor
  | 0, widest, cursor => ([], widest, cursor)
  | fuel + 1, widest, cursor =>
      let cursor := cursor.skipBlanks
      let widest := max widest cursor.column
      match cursor.lineBreak? with
      | none => ([], widest, cursor)
      | some (c, cursor) =>
          let (more, widest, cursor) := measure fuel widest cursor
          (c :: more, widest, cursor)

/-- Pass blanks up to a column. -/
def skipIndent (indent : Nat) (cursor : Cursor) : Cursor :=
  let blanks := (cursor.rest.takeWhile (· == ' ')).length
  cursor.advanceBy (min blanks (indent - cursor.column))

/-- Empty lines, and the indentation of the line after them. -/
def emptyLines (indent : Nat) : Nat → Cursor → List Char × Cursor
  | 0, cursor => ([], cursor)
  | fuel + 1, cursor =>
      let cursor := skipIndent indent cursor
      match cursor.lineBreak? with
      | none => ([], cursor)
      | some (c, cursor) =>
          let (more, cursor) := emptyLines indent fuel cursor
          (c :: more, cursor)

/-- Whether a text line starts here. -/
def atLine (indent : Nat) (cursor : Cursor) : Bool :=
  cursor.column == indent && !cursor.rest.isEmpty

/-- Whether the text starts with a blank or a tab. -/
def startsBlank (cs : List Char) : Bool :=
  cs.head?.any fun c => c == ' ' || c == '\t'

/-- What joins a line to the next one: in a folded text a blank for a single line end between
two lines of which none starts with a blank, and else the line end. -/
def joint (fold : Bool) (lineEnd breaks line next : List Char) : List Char :=
  if fold && lineEnd == ['\n'] && !startsBlank line && !startsBlank next then
    if breaks.isEmpty then [' '] else []
  else lineEnd

/-- Text lines from the current one on; `breaks` are the empty lines before it. -/
def lines (fold : Bool) (chomping : Chomping) (indent : Nat) : Nat → List Char → Cursor →
    List Char × Cursor
  | 0, _, cursor => ([], cursor)
  | fuel + 1, breaks, cursor =>
      let (line, cursor) := cursor.takeWhile fun c => !isBreak c
      let (lineEnd, cursor) := match cursor.lineBreak? with
        | some (c, cursor) => ([c], cursor)
        | none => ([], cursor)
      let (more, cursor) := emptyLines indent (cursor.rest.length + 1) cursor
      if atLine indent cursor then
        let (text, after) := lines fold chomping indent fuel more cursor
        (breaks ++ line ++ joint fold lineEnd more line cursor.rest ++ text, after)
      else
        let ending := match chomping with
          | .strip => []
          | .clip => lineEnd
          | .keep => lineEnd ++ more
        (breaks ++ line ++ ending, cursor)

/-- A block text after its mark, inside a block of the given indentation. -/
def read? (fold : Bool) (outer : Int) (cursor : Cursor) : Option (List Char × Cursor) := do
  let (chomping, increment, cursor) := indicators cursor
  if !endsField cursor.rest then none
  let cursor ← header? cursor
  let least := (outer + 1).toNat.max 1
  let fuel := cursor.rest.length + 1
  let (breaks, indent, cursor) := match increment with
    | none =>
        let (breaks, widest, cursor) := measure fuel 0 cursor
        (breaks, least.max widest, cursor)
    | some increment =>
        let indent := least + increment - 1
        let (breaks, cursor) := emptyLines indent fuel cursor
        (breaks, indent, cursor)
  if atLine indent cursor then some (lines fold chomping indent fuel breaks cursor)
  else some (if chomping = .keep then breaks else [], cursor)

end BlockText

end Promptline.Yaml
