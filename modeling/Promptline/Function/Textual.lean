import Promptline.Function.Operand
import Promptline.Text.Case

/-!
# Text and collection functions

Case, trimming, replacement, search and length.
-/

namespace Promptline.Textual

/-- Number of characters, items or entries. -/
def len : Value → Except Fault Value
  | .missing => .ok (.int 0)
  | .nil => .ok (.int 0)
  | .string s => .ok (.int s.length)
  | .environment e => .ok (.int e.entries.length)
  | .map entries => .ok (.int entries.length)
  | .list items => .ok (.int items.length)
  | value => .error (.noLength value.typeName)

/-- Lower-case form of a text. -/
def lower (s : Value) : Except Fault Value := do
  .ok (.string (Text.lower (← s.asText "lower")))

/-- Upper-case form of a text. -/
def upper (s : Value) : Except Fault Value := do
  .ok (.string (Text.upper (← s.asText "upper")))

/-- A text without leading and trailing white space. -/
def trim (s : Value) : Except Fault Value := do
  .ok (.string (Text.trim (← s.asText "trim")))

/-- Replace every occurrence of a text. Operands are checked from the last to the first two. -/
def replace (old new s : Value) : Except Fault Value := do
  let text ← s.asText "replace"
  let old ← old.asText "replace"
  let new ← new.asText "replace"
  .ok (.string (String.ofList (Text.replaceAll old.toList new.toList text.toList)))

/-- Whether a text occurs in another. -/
def contains (part s : Value) : Except Fault Value := do
  let part ← part.asText "contains"
  let text ← s.asText "contains"
  .ok (.bool (Text.occursIn part.toList text.toList))

/-- The value, unless it does not hold as a condition; then the fallback. -/
def default (fallback value : Value) : Value :=
  if value.isTruthy then value else fallback

end Promptline.Textual
