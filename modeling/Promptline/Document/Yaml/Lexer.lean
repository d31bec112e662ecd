import Promptline.Document.Yaml.Text
import Promptline.Document.Yaml.Token

/-!
# Reading YAML tokens

Indentation opens and closes block collections. Whether a text is a key shows only when the
colon after it is read, so every text that might be one is remembered, and the token that starts
the key is put in front of it afterwards.
-/

namespace Promptline.Yaml

/-- A text that may turn out to be a key. -/
structure Candidate where
  /-- Number of tokens before it. -/
  tokens : Nat
  /-- Whether it has to be a key, because of where it stands. -/
  required : Bool
  /-- Where it starts. -/
  start : Cursor

/-- What has been read so far. -/
structure Lexer where
  /-- Place of the next character. -/
  cursor : Cursor
  /-- Tokens so far. -/
  tokens : Array Token := #[]
  /-- Number of open brackets and braces. -/
  flow : Nat := 0
  /-- Column of the innermost block collection. -/
  indent : Int := -1
  /-- Columns of the block collections around it. -/
  outer : List Int := []
  /-- Whether a key may start here. -/
  keyAllowed : Bool := true
  /-- At most one possible key for each number of open brackets. -/
  candidates : List (Nat × Candidate) := []

namespace Lexer

/-- Whether the text is laid out by indentation here. -/
def inBlock (lexer : Lexer) : Bool :=
  lexer.flow == 0

/-- Add a token. -/
def push (token : Token) (lexer : Lexer) : Lexer :=
  { lexer with tokens := lexer.tokens.push token }

/-- Add a token of some characters. -/
def pushOver (token : Token) (length : Nat) (lexer : Lexer) : Lexer :=
  { lexer with
    tokens := lexer.tokens.push token
    cursor := lexer.cursor.advanceBy length }

/-- The possible key inside the current brackets. -/
def candidate? (lexer : Lexer) : Option Candidate :=
  (lexer.candidates.find? (·.1 == lexer.flow)).map (·.2)

/-- Forget the possible key inside the current brackets. -/
def forget (lexer : Lexer) : Lexer :=
  { lexer with candidates := lexer.candidates.filter (·.1 != lexer.flow) }

/-- Give up the possible key inside the current brackets, which must not be a required one. -/
def dismiss? (lexer : Lexer) : Option Lexer :=
  if lexer.candidate?.any (·.required) then none else some lexer.forget

/-- Remember that a key may start here. -/
def remember? (lexer : Lexer) : Option Lexer :=
  if lexer.keyAllowed then do
    let required := lexer.inBlock && lexer.indent == lexer.cursor.column
    let lexer ← lexer.dismiss?
    some { lexer with
      candidates := (lexer.flow, ⟨lexer.tokens.size, required, lexer.cursor⟩) :: lexer.candidates }
  else some lexer

/-- Whether a possible key lies too far back: on another line, or more than 1024 characters. -/
def isStale (lexer : Lexer) (candidate : Candidate) : Bool :=
  candidate.start.line != lexer.cursor.line || 1024 < lexer.cursor.index - candidate.start.index

/-- Give up the possible keys that lie too far back. -/
def dismissStale? (lexer : Lexer) : Option Lexer :=
  if lexer.candidates.any fun entry => lexer.isStale entry.2 && entry.2.required then none
  else some { lexer with
    candidates := lexer.candidates.filter fun entry => !lexer.isStale entry.2 }

/-- Close block collections until the innermost one is not to the right of a column. -/
def closeTo (column : Int) : List Int → Lexer → Lexer
  | [], lexer => lexer
  | outer :: rest, lexer =>
      if column < lexer.indent then
        closeTo column rest { lexer.push .blockEnd with indent := outer, outer := rest }
      else lexer

/-- Close the block collections that start to the right of a column. -/
def unwind (column : Int) (lexer : Lexer) : Lexer :=
  if lexer.inBlock then closeTo column lexer.outer lexer else lexer

/-- Start a block collection at a column, unless one is open there. -/
def indentTo (column : Nat) (position : Nat) (token : Token) (lexer : Lexer) : Lexer :=
  if lexer.indent < column then
    { lexer with
      outer := lexer.indent :: lexer.outer
      indent := column
      tokens := lexer.tokens.insertIdxIfInBounds position token }
  else lexer

/-- Pass blanks, comments and line ends. A line end outside brackets allows a key. -/
def skipSpace : Nat → Lexer → Lexer
  | 0, lexer => lexer
  | fuel + 1, lexer =>
      let cursor := lexer.cursor.skipBlanks.skipComment
      match cursor.lineBreak? with
      | none => { lexer with cursor := cursor }
      | some (_, cursor) =>
          skipSpace fuel
            { lexer with cursor := cursor, keyAllowed := lexer.keyAllowed || lexer.inBlock }

/-- Characters of a name. -/
def isNameChar (c : Char) : Bool :=
  c.isAlphanum || c == '-' || c == '_'

/-- A number of the version. -/
def versionNumber? (cursor : Cursor) : Option (Nat × Cursor) :=
  let (digits, cursor) := cursor.takeWhile Char.isDigit
  if digits.isEmpty then none
  else some (Number.ofDigits 10 (digits.filterMap Text.digitValue?), cursor)

/-- The version after the name of its directive. -/
def version? (cursor : Cursor) : Option (Directive × Cursor) := do
  let (major, cursor) ← versionNumber? cursor.skipBlanks
  if cursor.rest.head? ≠ some '.' then none
  let (minor, cursor) ← versionNumber? cursor.advance
  if endsField cursor.rest then some (.version major minor, cursor) else none

/-- A tag handle: an exclamation mark, or a name between two. Before a blank it may be the mark
alone. -/
def handle? (cursor : Cursor) : Option (String × Cursor) :=
  match cursor.rest with
  | '!' :: rest =>
      if rest.head? = some ' ' then some ("!", cursor.advance)
      else
        let name := rest.takeWhile isNameChar
        if (rest.drop name.length).head? = some '!' then
          some (String.ofList ('!' :: name ++ ['!']), cursor.advanceBy (name.length + 2))
        else none
  | _ => none

/-- Characters of the rest of a tag. -/
def isTagChar (c : Char) : Bool :=
  c.isAlphanum || "-;/?:@&=+$,_.!~*'()[]%".toList.contains c

/-- Bytes of a tag's text, in which a percent sign starts two hexadecimal digits. -/
def tagBytes? : List Char → Option (List UInt8)
  | [] => some []
  | '%' :: a :: b :: cs => do
      let high ← Text.hexValue? a
      let low ← Text.hexValue? b
      let bytes ← tagBytes? cs
      some (UInt8.ofNat (16 * high + low) :: bytes)
  | c :: cs => if c = '%' then none else (tagBytes? cs).map (UInt8.ofNat c.toNat :: ·)

/-- The rest of a tag. -/
def tagText? (cursor : Cursor) : Option (String × Cursor) := do
  let (text, cursor) := cursor.takeWhile isTagChar
  if text.isEmpty then none
  let bytes ← tagBytes? text
  let decoded ← String.fromUTF8? ⟨bytes.toArray⟩
  some (decoded, cursor)

/-- The handle and its meaning after the name of their directive. -/
def handleDirective? (cursor : Cursor) : Option (Directive × Cursor) := do
  let (handle, cursor) ← handle? cursor.skipBlanks
  if cursor.rest.head? ≠ some ' ' then none
  let (lead, cursor) ← tagText? cursor.skipBlanks
  if endsField cursor.rest then some (.handle handle lead, cursor) else none

/-- A statement about the document, up to the end of its line. -/
def directive? (cursor : Cursor) : Option (Directive × Cursor) := do
  let (name, cursor) := cursor.advance.takeWhile isNameChar
  if name.isEmpty || !endsField cursor.rest then none
  let (directive, cursor) ←
    if name = ['Y', 'A', 'M', 'L'] then version? cursor
    else if name = ['T', 'A', 'G'] then handleDirective? cursor
    else some (.other, cursor.skipWhile fun c => !isBreak c)
  let cursor := cursor.skipBlanks.skipComment
  if endsLine cursor.rest then some (directive, cursor.skipBreak) else none

/-- The name of a node or of a reference, after its mark. -/
def name? (cursor : Cursor) : Option (String × Cursor) :=
  let (name, cursor) := cursor.advance.takeWhile isNameChar
  if name.isEmpty then none
  else if endsWord cursor.rest ||
      cursor.rest.head?.any fun c => "?:,]\x7d%@`".toList.contains c then
    some (String.ofList name, cursor)
  else none

/-- A tag: verbatim between angle brackets, a lone mark, or a handle and a rest. -/
def tag? (cursor : Cursor) : Option (Token × Cursor) := do
  let (token, cursor) ← match cursor.rest.drop 1 with
    | '<' :: _ => do
        let (text, cursor) ← tagText? (cursor.advanceBy 2)
        if cursor.rest.head? = some '>' then some (Token.tag none text, cursor.advance) else none
    | rest =>
        if endsWord rest then some (.tag none "!", cursor.advance)
        else
          let word := rest.takeWhile fun c => !(c == ' ' || isBreak c)
          if word.contains '!' then do
            let (handle, cursor) ← handle? cursor
            let (text, cursor) ← tagText? cursor
            some (.tag (some handle) text, cursor)
          else do
            let (text, cursor) ← tagText? cursor.advance
            some (.tag (some "!") text, cursor)
  if endsField cursor.rest then some (token, cursor) else none

/-- End the text. -/
def finish? (lexer : Lexer) : Option Lexer := do
  let lexer ← (lexer.unwind (-1)).dismiss?
  some (lexer.push .streamEnd)

/-- Read a statement about the document. -/
def readDirective? (lexer : Lexer) : Option Lexer := do
  let lexer ← (lexer.unwind (-1)).dismiss?
  let (directive, cursor) ← directive? lexer.cursor
  some { lexer.push (.directive directive) with cursor := cursor, keyAllowed := false }

/-- Read a mark between documents. -/
def readSeparator? (token : Token) (lexer : Lexer) : Option Lexer := do
  let lexer ← (lexer.unwind (-1)).dismiss?
  some { lexer.pushOver token 3 with keyAllowed := false }

/-- Read an opening bracket or brace. -/
def openFlow? (token : Token) (lexer : Lexer) : Option Lexer := do
  let lexer ← lexer.remember?
  some { lexer.pushOver token 1 with flow := lexer.flow + 1, keyAllowed := true }

/-- Read a closing bracket or brace. -/
def closeFlow? (token : Token) (lexer : Lexer) : Option Lexer := do
  let lexer ← lexer.dismiss?
  if lexer.flow = 0 then none
  some { lexer.pushOver token 1 with flow := lexer.flow - 1, keyAllowed := false }

/-- Read a comma inside brackets or braces. -/
def separate? (lexer : Lexer) : Option Lexer := do
  let lexer ← lexer.dismiss?
  some { lexer.pushOver .flowEntry 1 with keyAllowed := true }

/-- Start a block collection at the next character, if that is allowed here. -/
def startBlock? (token : Token) (lexer : Lexer) : Option Lexer :=
  if !lexer.inBlock then some lexer
  else if !lexer.keyAllowed then none
  else some (lexer.indentTo lexer.cursor.column lexer.tokens.size token)

/-- Read the mark of a block item. -/
def readEntry? (lexer : Lexer) : Option Lexer := do
  let lexer ← lexer.startBlock? .blockSequenceStart
  let lexer ← lexer.dismiss?
  some { lexer.pushOver .blockEntry 1 with keyAllowed := true }

/-- Read the mark of a key. -/
def readKey? (lexer : Lexer) : Option Lexer := do
  let lexer ← lexer.startBlock? .blockMappingStart
  let lexer ← lexer.dismiss?
  some { lexer.pushOver .key 1 with keyAllowed := lexer.inBlock }

/-- Read a colon. What may be a key in front of it is one; the token that starts it, and one that
starts a table, are put before it. -/
def readValue? (lexer : Lexer) : Option Lexer :=
  match lexer.candidate? with
  | some candidate =>
      let lexer := lexer.forget
      let lexer := { lexer with
        tokens := lexer.tokens.insertIdxIfInBounds candidate.tokens .key }
      let lexer :=
        if lexer.inBlock then
          lexer.indentTo candidate.start.column candidate.tokens .blockMappingStart
        else lexer
      some { lexer.pushOver .value 1 with keyAllowed := false }
  | none => do
      let lexer ← lexer.startBlock? .blockMappingStart
      let lexer ← lexer.dismiss?
      some { lexer.pushOver .value 1 with keyAllowed := lexer.inBlock }

/-- Read something that may be a key or start one. -/
def readNode? (read : Cursor → Option (Token × Cursor)) (lexer : Lexer) : Option Lexer := do
  let lexer ← lexer.remember?
  let (token, cursor) ← read lexer.cursor
  some { lexer.push token with cursor := cursor, keyAllowed := false }

/-- Read a quoted text. -/
def readQuoted? (double : Bool) : Lexer → Option Lexer :=
  readNode? fun cursor =>
    (Quoted.read? double (2 * cursor.rest.length + 2) cursor.advance).map fun (text, cursor) =>
      (.scalar (String.ofList text) false, cursor)

/-- Read a plain text. A key may follow it if a line ended. -/
def readPlain? (lexer : Lexer) : Option Lexer := do
  let lexer ← lexer.remember?
  let (text, ended, cursor) :=
    Plain.read (!lexer.inBlock) (lexer.indent + 1) (lexer.cursor.rest.length + 1) [] false
      lexer.cursor
  some { lexer.push (.scalar (String.ofList text) true) with
    cursor := cursor, keyAllowed := ended }

/-- Read a block text. -/
def readBlockText? (fold : Bool) (lexer : Lexer) : Option Lexer := do
  let lexer ← lexer.dismiss?
  let (text, cursor) ← BlockText.read? fold lexer.indent lexer.cursor.advance
  some { lexer.push (.scalar (String.ofList text) false) with
    cursor := cursor, keyAllowed := true }

/-- Whether a plain text starts here. -/
def startsPlain (flow : Bool) : List Char → Bool
  | [] => false
  | c :: cs =>
      !(isBlank c || "-?:,[]\x7b\x7d#&*!|>'\"%@`".toList.contains c) ||
        (!endsWord cs && (c == '-' || (!flow && (c == '?' || c == ':'))))

/-- Read the token that starts at a character. -/
def readAt? (c : Char) (rest : List Char) (lexer : Lexer) : Option Lexer :=
  let atStart := lexer.cursor.column = 0
  if c = '%' ∧ atStart then lexer.readDirective?
  else if c = '-' ∧ atStart ∧ lexer.cursor.atSeparator then lexer.readSeparator? .documentStart
  else if c = '.' ∧ atStart ∧ lexer.cursor.atSeparator then lexer.readSeparator? .documentEnd
  else if c = '[' then lexer.openFlow? .flowSequenceStart
  else if c = '\x7b' then lexer.openFlow? .flowMappingStart
  else if c = ']' then lexer.closeFlow? .flowSequenceEnd
  else if c = '\x7d' then lexer.closeFlow? .flowMappingEnd
  else if c = ',' then lexer.separate?
  else if c = '-' ∧ endsWord rest then lexer.readEntry?
  else if c = '?' ∧ (!lexer.inBlock ∨ endsWord rest) then lexer.readKey?
  else if c = ':' ∧ (!lexer.inBlock ∨ endsWord rest) then lexer.readValue?
  else if c = '*' then
    lexer.readNode? fun cursor => (name? cursor).map fun (name, cursor) => (.reference name, cursor)
  else if c = '&' then
    lexer.readNode? fun cursor => (name? cursor).map fun (name, cursor) => (.anchor name, cursor)
  else if c = '!' then lexer.readNode? tag?
  else if c = '|' ∧ lexer.inBlock then lexer.readBlockText? false
  else if c = '>' ∧ lexer.inBlock then lexer.readBlockText? true
  else if c = '\'' then lexer.readQuoted? false
  else if c = '"' then lexer.readQuoted? true
  else if startsPlain (!lexer.inBlock) (c :: rest) then lexer.readPlain?
  else none

/-- Read tokens up to the end of the text. -/
def run : Nat → Lexer → Option Lexer
  | 0, _ => none
  | fuel + 1, lexer => do
      let lexer ← (lexer.skipSpace (lexer.cursor.rest.length + 1)).dismissStale?
      let lexer := lexer.unwind lexer.cursor.column
      match lexer.cursor.rest with
      | [] => lexer.finish?
      | c :: rest => run fuel (← lexer.readAt? c rest)

/-- The tokens of a text. A byte order mark at its start is passed. -/
def tokens? (text : List Char) : Option (List Token) :=
  let start : Cursor := ⟨text, 0, 0, 0⟩
  let cursor := if text.head? = some '\uFEFF' then start.advance else start
  (run (text.length + 1) { cursor := cursor }).map fun lexer => lexer.tokens.toList

end Lexer

end Promptline.Yaml
