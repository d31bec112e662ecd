import Promptline.Document
import Promptline.Text.Case
import Promptline.Text.Pieces

/-!
# Themes

A theme is an ordered list of blocks, each with an ordered list of segments.
-/

namespace Promptline

/-- Where a block stands on the prompt line. -/
inductive Alignment
  /-- On the left. -/
  | left
  /-- On the right. -/
  | right
  deriving DecidableEq, Repr

/-- Visual style of a segment. -/
inductive Style
  /-- Text alone. -/
  | plain
  /-- Arrow-shaped transitions. -/
  | powerline
  /-- Decorations on both sides. -/
  | diamond
  /-- Collapsible. -/
  | accordion
  deriving DecidableEq, Repr

namespace Alignment

/-- Alignments by name. -/
def options : List (String × Alignment) := [("left", left), ("right", right)]

/-- Name of an alignment. -/
def name : Alignment → String
  | left => "left"
  | right => "right"

end Alignment

namespace Style

/-- Styles by name. -/
def options : List (String × Style) :=
  [("plain", plain), ("powerline", powerline), ("diamond", diamond), ("accordion", accordion)]

/-- Name of a style. -/
def name : Style → String
  | plain => "plain"
  | powerline => "powerline"
  | diamond => "diamond"
  | accordion => "accordion"

end Style

/-- A segment of a block. -/
structure Segment where
  /-- Kind of segment. -/
  type : String
  /-- Visual style. -/
  style : Style := .plain
  /-- Foreground color. -/
  foreground : String := ""
  /-- Background color. -/
  background : String := ""
  /-- Decoration before the segment. -/
  leadingDiamond : String := ""
  /-- Decoration after the segment. -/
  trailingDiamond : String := ""
  /-- Template of the text. -/
  template : Option String := none
  /-- Name under which the fields are published. -/
  givenKey : Option String := none
  /-- Settings that depend on the kind. -/
  properties : List (String × Document) := []

/-- A group of segments. -/
structure Block where
  /-- Kind of block. -/
  type : String := "prompt"
  /-- Place on the line. -/
  alignment : Alignment := .left
  /-- Whether the block starts a new line. -/
  newline : Bool := false
  /-- Segments in order. -/
  segments : List Segment := []

/-- A theme. -/
structure Theme where
  /-- Blocks in order. -/
  blocks : List Block := []
  /-- Whether a blank follows the prompt. -/
  finalSpace : Bool := false

namespace Segment

/-- A text with its first letter in upper case. -/
def capitalized : List Char → List Char
  | [] => []
  | c :: cs => Text.upperChar c ++ cs

/-- The kind in camel case, without underscores. -/
def camelCase (type : String) : String :=
  String.ofList ((Text.splitOn '_' type.toList).flatMap capitalized)

/-- Name of the segment's published fields: the given key if there is one, else the kind in camel
case. -/
def key (segment : Segment) : String :=
  match segment.givenKey with
  | some given => if given = "" then camelCase segment.type else given
  | none => camelCase segment.type

end Segment

end Promptline
