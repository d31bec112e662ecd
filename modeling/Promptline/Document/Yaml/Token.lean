import Promptline.Entries

/-!
# Tokens of YAML

Indentation has become explicit in tokens: they tell where block collections start and end, and
which texts are keys.
-/

namespace Promptline.Yaml

/-- A statement about the document that follows. -/
inductive Directive
  /-- The version of the notation. -/
  | version (major minor : Nat)
  /-- What a tag handle stands for. -/
  | handle (handle lead : String)
  /-- Anything else, which has no effect. -/
  | other
  deriving DecidableEq, Repr

/-- A token. -/
inductive Token
  /-- A statement about the document. -/
  | directive (directive : Directive)
  /-- Start of a document. -/
  | documentStart
  /-- End of a document. -/
  | documentEnd
  /-- End of the text. -/
  | streamEnd
  /-- Start of a list that is laid out by indentation. -/
  | blockSequenceStart
  /-- Start of a table that is laid out by indentation. -/
  | blockMappingStart
  /-- End of a list or a table that is laid out by indentation. -/
  | blockEnd
  /-- Start of a list in brackets. -/
  | flowSequenceStart
  /-- End of a list in brackets. -/
  | flowSequenceEnd
  /-- Start of a table in braces. -/
  | flowMappingStart
  /-- End of a table in braces. -/
  | flowMappingEnd
  /-- Start of an item that is laid out by indentation. -/
  | blockEntry
  /-- Separator inside brackets and braces. -/
  | flowEntry
  /-- Start of a key. -/
  | key
  /-- Start of a value. -/
  | value
  /-- A reference to a named node. -/
  | reference (name : String)
  /-- The name of a node. -/
  | anchor (name : String)
  /-- The tag of a node: a handle, unless the tag is verbatim, and what follows it. -/
  | tag (handle : Option String) (suffix : String)
  /-- A text, which is plain if it has no quotes and no block mark. -/
  | scalar (text : String) (plain : Bool)
  deriving DecidableEq, Repr

end Promptline.Yaml
