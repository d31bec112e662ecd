import Promptline.Template.Item
import Promptline.Template.Part

/-!
# Parsing templates

Items are taken from left to right; the open conditionals are kept on a stack. A defect ends the
parse: the parts before the outermost open conditional stay, and the source from there on is the
remainder.
-/

namespace Promptline.Template

/-- What an action means. -/
inductive Keyword
  /-- A placeholder. -/
  | expression
  /-- The start of a conditional. -/
  | ifGuard (condition : List Char)
  /-- A further guard. -/
  | elseGuard (condition : List Char)
  /-- The start of the last part. -/
  | elsePart
  /-- The end of a conditional. -/
  | close
  deriving DecidableEq, Repr

/-- What follows a keyword at the front of a text, without surrounding white space. -/
def afterWord? (word body : List Char) : Option (List Char) :=
  match Text.afterPrefix? word body with
  | some [] => some []
  | some (c :: cs) => if Text.isWord c then none else some (Text.trimBlank (c :: cs))
  | none => none

/-- The keyword for the start of a conditional. -/
def ifWord : List Char := ['i', 'f']

/-- The keyword for another branch. -/
def elseWord : List Char := ['e', 'l', 's', 'e']

/-- The keyword for the end of a conditional. -/
def endWord : List Char := ['e', 'n', 'd']

namespace Action

/-- What an action means. -/
def keyword (action : Action) : Except ParseFault Keyword :=
  match afterWord? ifWord action.body with
  | some [] => .error .missingCondition
  | some condition => .ok (.ifGuard condition)
  | none =>
  match afterWord? endWord action.body with
  | some [] => .ok .close
  | some rest => .error (.unexpectedAfterEnd (String.ofList rest))
  | none =>
  match afterWord? elseWord action.body with
  | some [] => .ok .elsePart
  | some rest =>
      match afterWord? ifWord rest with
      | some [] => .error .missingElseCondition
      | some condition => .ok (.elseGuard condition)
      | none => .error (.unexpectedAfterElse (String.ofList rest))
  | none => .ok .expression

/-- The action as written, as a string. -/
def text (action : Action) : String :=
  String.ofList action.source

end Action

/-- A conditional that is being read. -/
structure OpenIf where
  /-- The action that opened it. -/
  opener : Action
  /-- Finished branches, the last one first. -/
  branches : List Branch := []
  /-- Source and condition of the guard of the current body; none in the last part. -/
  guard : Option (String × String)
  /-- Parts of the current body, the last one first. -/
  parts : List Part := []

namespace OpenIf

/-- The branches once the current body is complete. -/
def finished (conditional : OpenIf) : List Branch :=
  match conditional.guard with
  | some (source, condition) =>
      (Branch.mk source condition conditional.parts.reverse :: conditional.branches).reverse
  | none => conditional.branches.reverse

/-- The conditional when its end has been reached. -/
def close (conditional : OpenIf) : Part :=
  match conditional.guard with
  | some _ => .conditional conditional.finished []
  | none => .conditional conditional.finished conditional.parts.reverse

/-- Start the next body. -/
def next (conditional : OpenIf) (guard : Option (String × String)) : OpenIf :=
  { conditional with branches := conditional.finished.reverse, guard := guard, parts := [] }

end OpenIf

/-- What has been read of a template. -/
structure State where
  /-- Complete constructs outside any conditional, the last one first. -/
  parts : List Part := []
  /-- Open conditionals, from the inside out. -/
  opened : List OpenIf := []

namespace State

/-- Add a part to the innermost body. -/
def push (state : State) (part : Part) : State :=
  match state.opened with
  | [] => { state with parts := part :: state.parts }
  | inner :: outer =>
      { state with opened := { inner with parts := part :: inner.parts } :: outer }

/-- Take a keyword of an action. -/
def take (state : State) (action : Action) : Keyword → Except ParseFault State
  | .expression => .ok (state.push (.action action.text (String.ofList action.body)))
  | .ifGuard condition =>
      if state.opened.length < maxConditionals then
        .ok { state with
          opened := { opener := action, guard := some (action.text, String.ofList condition) }
            :: state.opened }
      else .error .conditionalsTooDeep
  | .elseGuard condition =>
      match state.opened with
      | [] => .error (.strayKeyword "else if")
      | inner :: outer =>
          match inner.guard with
          | none => .error (.expectedEnd action.text)
          | some _ =>
              .ok { state with
                opened := inner.next (some (action.text, String.ofList condition)) :: outer }
  | .elsePart =>
      match state.opened with
      | [] => .error (.strayKeyword "else")
      | inner :: outer =>
          match inner.guard with
          | none => .error (.expectedEnd action.text)
          | some _ => .ok { state with opened := inner.next none :: outer }
  | .close =>
      match state.opened with
      | [] => .error (.strayKeyword "end")
      | inner :: outer => .ok (State.push { state with opened := outer } inner.close)

/-- Take an item. -/
def step (state : State) : Item → Except ParseError State
  | .text chars _ => .ok (state.push (.text (String.ofList chars)))
  | .action action =>
      if action.comment then .ok state
      else
        match action.keyword >>= state.take action with
        | .ok next => .ok next
        | .error fault => .error ⟨fault, action.text⟩

/-- Offset where the outermost open conditional starts, or the given offset if there is none. -/
def startOr (state : State) (offset : Nat) : Nat :=
  match state.opened.getLast? with
  | some outermost => outermost.opener.start
  | none => offset

/-- The template when a defect has been found at an offset of the source. -/
def stop (state : State) (source : String) (error : ParseError) (offset : Nat) : Parsed where
  parts := state.parts.reverse
  error := some error
  remainder := String.ofList (source.toList.drop (state.startOr offset))

/-- The template when all items have been taken. -/
def finish (state : State) (source : String) (scan : Scan) : Parsed :=
  match scan.error, state.opened with
  | some error, _ => state.stop source error scan.stop
  | none, inner :: _ => state.stop source ⟨.missingEnd inner.opener.text, inner.opener.text⟩ 0
  | none, [] => { parts := state.parts.reverse }

/-- Take items from left to right until a defect shows up. -/
def run (source : String) (scan : Scan) : State → List Item → Parsed
  | state, [] => state.finish source scan
  | state, item :: rest =>
      match state.step item with
      | .ok next => run source scan next rest
      | .error error => state.stop source error item.start

end State

/-- Parse a template. -/
def parse (source : String) : Parsed :=
  let scan := scan source
  State.run source scan {} (trimItems false scan.items)

end Promptline.Template
