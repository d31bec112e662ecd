import Promptline.Expression.Parser
import Promptline.Template.Parser

/-!
# The parse cache

Parsed expressions and templates by source text. Defects of expressions are remembered too; an
integer that is too long is not. A lookup answers what parsing would, and counts the source.
-/

namespace Promptline

/-- Parse results by source text. -/
structure Cache where
  /-- Expressions and the defects of texts that are none. -/
  expressions : Entries (Except ParseFault Expression) := []
  /-- Templates. -/
  templates : Entries Template.Parsed := []

namespace Cache

/-- Number of remembered sources. -/
def size (cache : Cache) : Nat :=
  cache.expressions.length + cache.templates.length

/-- A remembered result as an answer; a defect is shown with the source that was looked up. -/
def answer (source : String) : Except ParseFault Expression → Except ExpressionFault Expression
  | .ok expression => .ok expression
  | .error fault => .error (.parse ⟨fault, source⟩)

/-- Look an expression up, parsing it at the first time. -/
def expression (cache : Cache) (source : String) :
    Except ExpressionFault Expression × Cache :=
  match Entries.get? source cache.expressions with
  | some entry => (answer source entry, cache)
  | none =>
      match Expression.parse source with
      | .error (.tooLong limit) => (.error (.tooLong limit), cache)
      | .error (.parse error) =>
          (answer source (.error error.fault),
            { cache with
              expressions := Entries.insert source (.error error.fault) cache.expressions })
      | .ok parsed =>
          (answer source (.ok parsed),
            { cache with expressions := Entries.insert source (.ok parsed) cache.expressions })

/-- Look a template up, parsing it at the first time. -/
def template (cache : Cache) (source : String) : Template.Parsed × Cache :=
  match Entries.get? source cache.templates with
  | some parsed => (parsed, cache)
  | none =>
      let parsed := Template.parse source
      (parsed, { cache with templates := Entries.insert source parsed cache.templates })

end Cache

end Promptline
