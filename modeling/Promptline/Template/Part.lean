import Promptline.ParseError

/-!
# Template trees

A template as nested parts: literal text, placeholders and conditionals.
-/

namespace Promptline.Template

mutual

/-- A part of a template. -/
inductive Part
  /-- Literal text. -/
  | text (text : String)
  /-- A placeholder as written, and the expression in it. -/
  | action (source body : String)
  /-- Guarded branches, tried in order, and the parts that stand for none of them. -/
  | conditional (branches : List Branch) (otherwise : List Part)

/-- A branch: its guard as written, the condition in it, and the parts that it guards. -/
inductive Branch
  /-- Put a branch together. -/
  | mk (source condition : String) (parts : List Part)

end

namespace Branch

/-- The guard as written. -/
def source : Branch → String
  | mk source _ _ => source

/-- The condition of the guard. -/
def condition : Branch → String
  | mk _ condition _ => condition

/-- The guarded parts. -/
def parts : Branch → List Part
  | mk _ _ parts => parts

end Branch

/-- A parsed template. Parsing never fails as a whole: from a structural defect on, the source
is kept as it is. -/
structure Parsed where
  /-- The parts before the defect. -/
  parts : List Part
  /-- The defect, if there is one. -/
  error : Option ParseError := none
  /-- The source from the outermost construct that has the defect. -/
  remainder : String := ""

end Promptline.Template
