import Promptline.Expression.Token

/-!
# Expression trees

What an expression means, independent of how it was written.
-/

namespace Promptline

/-- An expression. -/
inductive Node
  /-- A constant. -/
  | literal (value : Literal)
  /-- A path from the current scope; without names, the scope itself. -/
  | path (names : List String)
  /-- A path from the root context; without names, the context itself. -/
  | root (names : List String)
  /-- A path from the result of an expression. -/
  | chain (target : Node) (names : List String)
  /-- A function call. -/
  | call (name : String) (args : List Node)

end Promptline
