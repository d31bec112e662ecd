import Promptline.Document.Yaml.Token

/-!
# Nodes of YAML

A document is a node: a text, a list or a table, each with a tag where one is given. References
have been replaced by what they refer to.
-/

namespace Promptline.Yaml

/-- A node. -/
inductive Node
  /-- A text; an untagged plain one is resolved by its look. -/
  | scalar (tag : Option String) (plain : Bool) (text : String)
  /-- A list. -/
  | sequence (tag : Option String) (items : List Node)
  /-- A table. -/
  | mapping (tag : Option String) (entries : List (Node × Node))
  deriving Inhabited

namespace Node

/-- A missing node. -/
def empty : Node := .scalar none true ""

/-- The tokens that are left, and what names stand for. -/
structure Source where
  /-- Tokens that are left. -/
  tokens : List Token
  /-- Meaning of tag handles. -/
  handles : Entries String := []
  /-- Named nodes; a node that is still being read is not known yet. -/
  anchors : Entries (Option Node) := []

/-- A computation that reads tokens. -/
abbrev Reading (α : Type) := StateT Source Option α

/-- The next token. -/
def peek : Reading Token := do
  match (← get).tokens with
  | token :: _ => return token
  | [] => failure

/-- Pass the next token. -/
def pass : Reading Unit :=
  modify fun source => { source with tokens := source.tokens.drop 1 }

/-- Pass a token if it is the next one, and tell whether it was. -/
def accept (token : Token) : Reading Bool := do
  if (← peek) = token then
    pass
    return true
  else return false

/-- Pass a token that has to be the next one. -/
def expect (token : Token) : Reading Unit := do
  unless ← accept token do failure

/-- A name, if the next token gives one. -/
def anchor? : Reading (Option String) := do
  match ← peek with
  | .anchor name => pass; return some name
  | _ => return none

/-- A tag, if the next token is one. -/
def tag? : Reading (Option String) := do
  match ← peek with
  | .tag none suffix => pass; return some suffix
  | .tag (some handle) suffix =>
      pass
      match Entries.get? handle (← get).handles with
      | some lead => return some (lead ++ suffix)
      | none => failure
  | _ => return none

/-- Name and tag of a node, in any order. -/
def properties : Reading (Option String × Option String) := do
  match ← anchor? with
  | some name => return (some name, ← tag?)
  | none =>
      let tag ← tag?
      return (← anchor?, tag)

/-- Enter what a name stands for. -/
def define (name : Option String) (node : Option Node) : Reading Unit :=
  match name with
  | some name =>
      modify fun source => { source with anchors := Entries.insert name node source.anchors }
  | none => return

/-- What a name stands for. -/
def referred (name : String) : Reading Node := do
  match Entries.get? name (← get).anchors with
  | some (some node) => return node
  | _ => failure

/-- The tag that decides; a lone mark says no more than none. -/
def decisive (tag : Option String) : Option String :=
  tag.filter (· != "!")

mutual

/-- A node. Collections that are laid out by indentation are allowed only outside brackets; a
list that is not indented only where a table's key or value is expected. -/
def read (fuel : Nat) (block unindented : Bool) : Reading Node :=
  match fuel with
  | 0 => failure
  | fuel + 1 => do
      match ← peek with
      | .reference name =>
          pass
          referred name
      | _ =>
          let (name, tag) ← properties
          if let some name := name then
            if Entries.has name (← get).anchors then failure
          define name none
          let node ← content fuel block unindented (name.isSome || tag.isSome) tag
          define name (some node)
          return node

/-- What follows the name and the tag of a node. -/
def content (fuel : Nat) (block unindented named : Bool) (tag : Option String) : Reading Node :=
  match fuel with
  | 0 => failure
  | fuel + 1 => do
      let token ← peek
      match token, block with
      | .scalar text plain, _ =>
          pass
          return .scalar (decisive tag) ((plain && tag.isNone) || tag == some "!") text
      | .flowSequenceStart, _ =>
          pass
          return .sequence (decisive tag) (← flowItems fuel true)
      | .flowMappingStart, _ =>
          pass
          return .mapping (decisive tag) (← flowPairs fuel true)
      | .blockEntry, _ =>
          if unindented then return .sequence (decisive tag) (← looseItems fuel)
          else if named then return .scalar (decisive tag) true ""
          else failure
      | .blockSequenceStart, true =>
          pass
          return .sequence (decisive tag) (← blockItems fuel)
      | .blockMappingStart, true =>
          pass
          return .mapping (decisive tag) (← blockPairs fuel)
      | _, _ =>
          if named then return .scalar (decisive tag) true ""
          else failure

/-- A node, or an empty one before any of some tokens. -/
def readBefore (fuel : Nat) (stop : Token → Bool) (block unindented : Bool) : Reading Node :=
  match fuel with
  | 0 => failure
  | fuel + 1 => do
      if stop (← peek) then return empty else read fuel block unindented

/-- Items of an indented list. -/
def blockItems (fuel : Nat) : Reading (List Node) :=
  match fuel with
  | 0 => failure
  | fuel + 1 => do
      if ← accept .blockEntry then
        let item ← readBefore fuel (fun t => t = .blockEntry ∨ t = .blockEnd) true false
        return item :: (← blockItems fuel)
      else
        expect .blockEnd
        return []

/-- Items of a list that is not indented; it ends where something else comes. -/
def looseItems (fuel : Nat) : Reading (List Node) :=
  match fuel with
  | 0 => failure
  | fuel + 1 => do
      if ← accept .blockEntry then
        let item ← readBefore fuel
          (fun t => t = .blockEntry ∨ t = .key ∨ t = .value ∨ t = .blockEnd) true false
        return item :: (← looseItems fuel)
      else return []

/-- Entries of an indented table. -/
def blockPairs (fuel : Nat) : Reading (List (Node × Node)) :=
  match fuel with
  | 0 => failure
  | fuel + 1 => do
      let stop (t : Token) : Bool := t = .key ∨ t = .value ∨ t = .blockEnd
      if ← accept .key then
        let key ← readBefore fuel stop true true
        let value ← if ← accept .value then readBefore fuel stop true true else pure empty
        return (key, value) :: (← blockPairs fuel)
      else
        expect .blockEnd
        return []

/-- Items of a list in brackets. An item may be a single pair. -/
def flowItems (fuel : Nat) (first : Bool) : Reading (List Node) :=
  match fuel with
  | 0 => failure
  | fuel + 1 => do
      if ← accept .flowSequenceEnd then return []
      if !first then expect .flowEntry
      if ← accept .key then
        let key ← readBefore fuel
          (fun t => t = .value ∨ t = .flowEntry ∨ t = .flowSequenceEnd) false false
        let value ← if ← accept .value then
            readBefore fuel (fun t => t = .flowEntry ∨ t = .flowSequenceEnd) false false
          else pure empty
        return .mapping none [(key, value)] :: (← flowItems fuel false)
      else if ← accept .flowSequenceEnd then return []
      else
        let item ← read fuel false false
        return item :: (← flowItems fuel false)

/-- Entries of a table in braces. A key may stand alone. -/
def flowPairs (fuel : Nat) (first : Bool) : Reading (List (Node × Node)) :=
  match fuel with
  | 0 => failure
  | fuel + 1 => do
      if ← accept .flowMappingEnd then return []
      if !first then expect .flowEntry
      if ← accept .key then
        let key ← readBefore fuel
          (fun t => t = .value ∨ t = .flowEntry ∨ t = .flowMappingEnd) false false
        let value ← if ← accept .value then
            readBefore fuel (fun t => t = .flowEntry ∨ t = .flowMappingEnd) false false
          else pure empty
        return (key, value) :: (← flowPairs fuel false)
      else if ← accept .flowMappingEnd then return []
      else
        let key ← read fuel false false
        return (key, empty) :: (← flowPairs fuel false)

end

/-- Tag handles that need no statement. -/
def standardHandles : Entries String := [("!", "!"), ("!!", "tag:yaml.org,2002:")]

/-- The statements about a document: the handles they define. A version other than the first one,
a second version and a second meaning of a handle are refused. -/
def directives : Nat → Bool → Entries String → Reading (Entries String)
  | 0, _, _ => failure
  | fuel + 1, versioned, handles => do
      match ← peek with
      | .directive directive =>
          pass
          match directive with
          | .version major _ =>
              if versioned || major != 1 then failure
              directives fuel true handles
          | .handle handle lead =>
              if Entries.has handle handles then failure
              directives fuel versioned (handles ++ [(handle, lead)])
          | .other => directives fuel versioned handles
      | _ => return handles ++ standardHandles

/-- Pass marks at the end of a document. -/
def passEnds : Nat → Reading Unit
  | 0 => return
  | fuel + 1 => do
      if ← accept .documentEnd then passEnds fuel

/-- Whether a token cannot be part of a document's node. -/
def isOutside : Token → Bool
  | .directive _ => true
  | .documentStart => true
  | .documentEnd => true
  | .streamEnd => true
  | _ => false

/-- A document that starts with statements or a mark, if there is one. -/
def explicitDocument (fuel : Nat) : Reading (Option Node) := do
  passEnds fuel
  if (← peek) = .streamEnd then return none
  let handles ← directives fuel false []
  modify fun source => { source with handles := handles }
  expect .documentStart
  if isOutside (← peek) then return some empty
  return some (← read fuel true false)

/-- The only document of a text, if there is one. -/
def single (fuel : Nat) : Reading (Option Node) := do
  let node ← match ← peek with
    | .directive _ => explicitDocument fuel
    | .documentStart => explicitDocument fuel
    | .streamEnd => explicitDocument fuel
    | _ =>
        modify fun source => { source with handles := standardHandles }
        let node ← read fuel true false
        pure (some node)
  passEnds fuel
  expect .streamEnd
  return node

/-- The only node of a sequence of tokens; none if the text is empty. -/
def ofTokens? (tokens : List Token) : Option (Option Node) :=
  ((single (4 * tokens.length + 8)).run { tokens := tokens }).map (·.1)

end Node

end Promptline.Yaml
