import Promptline.Segment.Resolved
import Promptline.Text.Word

/-!
# Plain layout

Resolved blocks as lines of plain text. Color and style tags are dropped, and on each line the
left-aligned blocks come before the right-aligned ones.
-/

namespace Promptline.Compose

/-- Whether a character may stand in a tag. -/
def isTagChar (c : Char) : Bool :=
  Text.isWord c || c == '#' || c == ',' || c == '.' || c == '-'

/-- Length of a tag at the front of a text: an opening angle bracket, possibly a slash, tag
characters, and a closing bracket. -/
def tagLength? : List Char → Option Nat
  | '<' :: cs =>
      let (slash, inner) := match cs with
        | '/' :: rest => (1, rest)
        | rest => (0, rest)
      let name := Text.extent isTagChar inner
      match inner.drop name with
      | '>' :: _ => some (2 + slash + name)
      | _ => none
  | _ => none

/-- A text without tags, the first `skip` characters dropped as well. -/
def stripFrom : Nat → List Char → List Char
  | _, [] => []
  | skip + 1, _ :: cs => stripFrom skip cs
  | 0, c :: cs =>
      match tagLength? (c :: cs) with
      | some length => stripFrom (length - 1) cs
      | none => c :: stripFrom 0 cs

/-- A text without color and style tags. -/
def strip (text : String) : String :=
  String.ofList (stripFrom 0 text.toList)

/-- What a block shows, without tags. -/
def blockText (block : ResolvedBlock) : String :=
  String.join (block.segments.map fun segment => strip segment.displayText)

/-- Cut blocks into lines: the first block and every later block with a line break start one. -/
def lines : List ResolvedBlock → List (List ResolvedBlock)
  | [] => []
  | [block] => [[block]]
  | block :: next :: rest =>
      match lines (next :: rest) with
      | line :: others =>
          if next.newline then [block] :: line :: others else (block :: line) :: others
      | [] => [[block]]

/-- What the blocks of one alignment show on a line. -/
def sideText (alignment : Alignment) (line : List ResolvedBlock) : String :=
  String.join ((line.filter (·.alignment == alignment)).map blockText)

/-- A line: the left side and the right side, with a blank between them if both show anything. -/
def lineText (line : List ResolvedBlock) : String :=
  let left := sideText .left line
  let right := sideText .right line
  if left = "" ∨ right = "" then left ++ right else left ++ " " ++ right

/-- Resolved blocks as lines of text. -/
def plain (blocks : List ResolvedBlock) : List String :=
  (lines blocks).map lineText

end Promptline.Compose
