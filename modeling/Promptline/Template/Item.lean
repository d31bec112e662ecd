import Promptline.Expression.Lexer
import Promptline.ParseError
import Promptline.Text.Blank

/-!
# Template items

A template is literal text interleaved with actions between double braces. Scanning cuts the
source into items without losing a character; trimming then removes the white space next to
actions that ask for it.
-/

namespace Promptline.Template

/-- An action or a comment. -/
structure Action where
  /-- The action as written, delimiters included. -/
  source : List Char
  /-- What stands between the delimiters, without trim markers and white space. -/
  body : List Char
  /-- Offset of the opening delimiter. -/
  start : Nat
  /-- Whether white space before it is dropped. -/
  trimLeft : Bool
  /-- Whether white space after it is dropped. -/
  trimRight : Bool
  /-- Whether it is a comment. -/
  comment : Bool := false
  deriving DecidableEq, Repr

/-- A piece of a template. -/
inductive Item
  /-- Literal text with its offset. -/
  | text (chars : List Char) (start : Nat)
  /-- An action or a comment. -/
  | action (action : Action)
  deriving DecidableEq, Repr

namespace Item

/-- Offset of the first character. -/
def start : Item → Nat
  | text _ start => start
  | action a => a.start

/-- The characters of the source that the item was cut from. -/
def source : Item → List Char
  | text chars _ => chars
  | action a => a.source

end Item

/-- The text before the next opening delimiter, and the rest. -/
def splitAtOpen : List Char → List Char × List Char
  | [] => ([], [])
  | '{' :: '{' :: cs => ([], '{' :: '{' :: cs)
  | c :: cs =>
      let (text, rest) := splitAtOpen cs
      (c :: text, rest)

/-- Length of the mark that opens a comment, if there is one: a slash and a star, possibly
after a trim marker. -/
def commentOpening? : List Char → Option Nat
  | '/' :: '*' :: _ => some 2
  | '-' :: cs =>
      let blanks := Text.extent Text.isBlank cs
      if blanks = 0 then none
      else if Text.startsWith ['/', '*'] (cs.drop blanks) then some (blanks + 3) else none
  | _ => none

/-- Length of the mark that closes a comment with its delimiter, if the text starts with one. -/
def commentClosing? : List Char → Option Nat
  | '*' :: '/' :: cs =>
      let blanks := Text.extent Text.isBlank cs
      if Text.startsWith ['}', '}'] cs then some 4
      else if 0 < blanks ∧ Text.startsWith ['-', '}', '}'] (cs.drop blanks) then some (blanks + 5)
      else none
  | _ => none

/-- Length of the text up to the end of a comment. -/
def commentLength? : List Char → Option Nat
  | [] => none
  | c :: cs =>
      match commentClosing? (c :: cs) with
      | some length => some length
      | none => (commentLength? cs).map (· + 1)

/-- Whether a character opens or closes a string. -/
def isQuote (c : Char) : Bool :=
  c == '"' || c == Lexer.rawMark

/-- Length of an action's inside: what comes before the closing delimiter, where strings hide
delimiters and a backslash in a quoted string hides the next character. -/
def insideLength? : Option Char → List Char → Option Nat
  | _, [] => none
  | none, '}' :: '}' :: _ => some 0
  | none, c :: cs => (insideLength? (if isQuote c then some c else none) cs).map (· + 1)
  | some '"', '\\' :: _ :: cs => (insideLength? (some '"') cs).map (· + 2)
  | some mark, c :: cs =>
      (insideLength? (if c = mark then none else some mark) cs).map (· + 1)

/-- Whether a text starts with a minus followed by white space. -/
def opensWithMarker : List Char → Bool
  | '-' :: c :: _ => Text.isBlank c
  | _ => false

/-- The comment at the front of a text, given the length of its opening mark. -/
def scanComment (start opening : Nat) (cs : List Char) : Except ParseFault Action :=
  match commentLength? (cs.drop (2 + opening)) with
  | none => .error (.unclosedComment start)
  | some length =>
      let source := cs.take (2 + opening + length)
      .ok {
        source := source, body := [], start := start, comment := true
        trimLeft := Text.startsWith ['{', '{', '-'] source
        trimRight := Text.startsWith ['}', '}', '-'] source.reverse }

/-- The action whose inside is given, trim markers included. -/
def actionOf (start : Nat) (source inner : List Char) : Action :=
  let trimLeft := opensWithMarker inner
  let trimRight := opensWithMarker inner.reverse
  let kept := if trimRight then inner.take (inner.length - 2) else inner
  let body := if trimLeft then kept.drop 2 else kept
  ⟨source, Text.trimBlank body, start, trimLeft, trimRight, false⟩

/-- The action at the front of a text that starts with an opening delimiter. -/
def scanAction (start : Nat) (cs : List Char) : Except ParseFault Action :=
  let inner := cs.drop 2
  match commentOpening? inner with
  | some opening => scanComment start opening cs
  | none =>
      match insideLength? none inner with
      | none => .error (.unclosedAction start)
      | some length => .ok (actionOf start (cs.take (length + 4)) (inner.take length))

/-- Result of a scan. -/
structure Scan where
  /-- The items, in order. -/
  items : List Item
  /-- The defect that ended the scan, with the text from there on. -/
  error : Option ParseError
  /-- Offset where the scan ended. -/
  stop : Nat
  deriving DecidableEq, Repr

namespace Scan

/-- Put an item in front. -/
def cons (item : Item) (scan : Scan) : Scan :=
  { scan with items := item :: scan.items }

/-- Put literal text in front, if there is any. -/
def consText (chars : List Char) (start : Nat) (scan : Scan) : Scan :=
  if chars.isEmpty then scan else scan.cons (.text chars start)

end Scan

theorem splitAtOpen_length (cs : List Char) : (splitAtOpen cs).2.length ≤ cs.length := by
  fun_induction splitAtOpen cs with
  | case1 => simp
  | case2 => simp
  | case3 c cs _ text rest split shorter =>
      simp only [split] at shorter
      simp only [List.length_cons]
      omega

/-- Scan a text that stands at an offset. -/
def scanFrom (offset : Nat) (cs : List Char) : Scan :=
  let text := (splitAtOpen cs).1
  let start := offset + text.length
  match _tail : (splitAtOpen cs).2 with
  | [] => Scan.consText text offset ⟨[], none, start⟩
  | c :: rest =>
      match scanAction start (c :: rest) with
      | .error fault =>
          Scan.consText text offset ⟨[], some ⟨fault, String.ofList (c :: rest)⟩, start⟩
      | .ok action =>
          let length := action.source.length
          Scan.consText text offset
            (Scan.cons (.action action) (scanFrom (start + length) (rest.drop (length - 1))))
termination_by cs.length
decreasing_by
  have bound := splitAtOpen_length cs
  simp only [_tail, List.length_cons] at bound
  simp only [List.length_drop]
  omega

/-- Scan a template. -/
def scan (source : String) : Scan :=
  scanFrom 0 source.toList

/-- Whether the next item is an action that drops the white space before it. -/
def nextTrimsLeft : List Item → Bool
  | .action a :: _ => a.trimLeft
  | _ => false

/-- Remove the white space that the actions next to each text ask to drop; the flag says whether
the last action drops what follows it. -/
def trimItems : Bool → List Item → List Item
  | _, [] => []
  | _, .action a :: rest => .action a :: trimItems a.trimRight rest
  | afterMarker, .text chars start :: rest =>
      let chars := if afterMarker then chars.dropWhile Text.isMargin else chars
      let chars := if nextTrimsLeft rest then Text.dropEndWhile Text.isMargin chars else chars
      .text chars start :: trimItems false rest

end Promptline.Template
