import Promptline.Proofs.Template.Grammar

/-!
# Templates without what they record

The parser keeps each placeholder and each guard as written, and keeps texts that trimming has
emptied.  Neither decides what is accepted: the tree without them depends only on the items without
offsets, trim markers and written forms, and what is recorded is read off the items in order.
-/

namespace Promptline.Template

/-! ## Bare trees -/

mutual

/-- A part as no or one part: nothing is recorded, and empty text is no part. -/
def Part.bare : Part → List Part
  | .text text => if text = "" then [] else [.text text]
  | .action _ body => [.action "" body]
  | .conditional branches otherwise =>
      [.conditional (Branch.allBare branches) (Part.allBare otherwise)]

/-- Parts where nothing is recorded and no text is empty. -/
def Part.allBare : List Part → List Part
  | [] => []
  | part :: parts => part.bare ++ Part.allBare parts

/-- A branch where nothing is recorded and no text is empty. -/
def Branch.bare : Branch → Branch
  | .mk _ condition parts => .mk "" condition (Part.allBare parts)

/-- Branches where nothing is recorded and no text is empty. -/
def Branch.allBare : List Branch → List Branch
  | [] => []
  | branch :: branches => branch.bare :: Branch.allBare branches

end

theorem Part.allBare_append (front back : List Part) :
    Part.allBare (front ++ back) = Part.allBare front ++ Part.allBare back := by
  induction front with
  | nil => rfl
  | cons part front ih => rw [List.cons_append, allBare, allBare, ih, List.append_assoc]

theorem Branch.allBare_append (front back : List Branch) :
    Branch.allBare (front ++ back) = Branch.allBare front ++ Branch.allBare back := by
  induction front with
  | nil => rfl
  | cons branch front ih => rw [List.cons_append, allBare, allBare, ih, List.cons_append]

theorem Part.allBare_reverse (parts : List Part) :
    Part.allBare parts.reverse = (Part.allBare parts).reverse := by
  have single (part : Part) : part.bare.reverse = part.bare := by
    cases part with
    | text text =>
        rw [bare]
        split <;> rfl
    | action source body => rfl
    | conditional branches otherwise => rfl
  induction parts with
  | nil => rfl
  | cons part parts ih => simp [allBare, allBare_append, ih, single]

theorem Branch.allBare_reverse (branches : List Branch) :
    Branch.allBare branches.reverse = (Branch.allBare branches).reverse := by
  induction branches with
  | nil => rfl
  | cons branch branches ih => simp [allBare, allBare_append, ih]

/-- An action of which only the meaning is kept. -/
def Action.bare (action : Action) : Action :=
  { action with source := [], start := 0, trimLeft := false, trimRight := false }

/-- An item of which only the meaning is kept, if it has any. -/
def Item.bare? : Item → Option Item
  | text chars _ => if chars = [] then none else some (text chars 0)
  | action a => some (action a.bare)

/-- An open conditional where nothing is recorded and no text is empty. -/
def OpenIf.bare (conditional : OpenIf) : OpenIf where
  opener := conditional.opener.bare
  branches := Branch.allBare conditional.branches
  guard := conditional.guard.map fun written => ("", written.2)
  parts := Part.allBare conditional.parts

namespace OpenIf

theorem finished_bare (conditional : OpenIf) :
    conditional.bare.finished = Branch.allBare conditional.finished := by
  obtain ⟨opener, branches, guard, parts⟩ := conditional
  cases guard with
  | none => simp [bare, finished, Branch.allBare_reverse]
  | some written =>
      simp [bare, finished, Branch.allBare, Branch.allBare_append, Branch.allBare_reverse,
        Branch.bare, Part.allBare_reverse]

theorem close_bare (conditional : OpenIf) : conditional.close.bare = [conditional.bare.close] := by
  have same := finished_bare conditional
  obtain ⟨opener, branches, guard, parts⟩ := conditional
  cases guard with
  | none =>
      simp only [close, Part.bare, ← same]
      simp [bare, Part.allBare_reverse]
  | some written =>
      simp only [close, Part.bare, ← same]
      simp [bare, Part.allBare]

theorem next_bare (conditional : OpenIf) (guard : Option (String × String)) :
    (conditional.next guard).bare =
      conditional.bare.next (guard.map fun written => ("", written.2)) := by
  rw [next, next, finished_bare]
  simp [bare, Branch.allBare_reverse, Part.allBare]

end OpenIf

/-! ## Parsing bare items -/

namespace State

/-- A state where nothing is recorded and no text is empty. -/
def bare (state : State) : State where
  parts := Part.allBare state.parts
  opened := state.opened.map OpenIf.bare

theorem push_bare (state : State) {part kept : Part} (keeps : part.bare = [kept]) :
    state.bare.push kept = (state.push part).bare := by
  obtain ⟨parts, opened⟩ := state
  cases opened <;> simp [bare, push, OpenIf.bare, Part.allBare, keeps]

theorem push_bare_nil (state : State) {part : Part} (empty : part.bare = []) :
    (state.push part).bare = state.bare := by
  obtain ⟨parts, opened⟩ := state
  cases opened <;> simp [bare, push, OpenIf.bare, Part.allBare, empty]

theorem bare_next (parts : List Part) (inner : OpenIf) (outer : List OpenIf)
    (guard : Option (String × String)) :
    bare ⟨parts, inner.next guard :: outer⟩ =
      ⟨Part.allBare parts,
        inner.bare.next (guard.map fun written => ("", written.2)) :: outer.map OpenIf.bare⟩ := by
  rw [bare, List.map_cons, OpenIf.next_bare]

theorem take_bare (state : State) (action : Action) (keyword : Keyword) :
    (state.bare.take action.bare keyword).toOption =
      (state.take action keyword).toOption.map bare := by
  obtain ⟨parts, opened⟩ := state
  cases keyword with
  | expression => exact congrArg some (push_bare _ rfl)
  | ifGuard condition =>
      simp only [take, bare, List.length_map]
      split <;> rfl
  | elseGuard condition =>
      cases opened with
      | nil => rfl
      | cons inner outer =>
          obtain ⟨opener, branches, guard, inside⟩ := inner
          cases guard with
          | none => rfl
          | some written =>
              exact congrArg some
                (bare_next parts _ outer (some (action.text, String.ofList condition))).symm
  | elsePart =>
      cases opened with
      | nil => rfl
      | cons inner outer =>
          obtain ⟨opener, branches, guard, inside⟩ := inner
          cases guard with
          | none => rfl
          | some written => exact congrArg some (bare_next parts _ outer none).symm
  | close =>
      cases opened with
      | nil => rfl
      | cons inner outer => exact congrArg some (push_bare ⟨parts, outer⟩ inner.close_bare)

theorem toOption_bind {ε α β : Type} (first : Except ε α) (next : α → Except ε β) :
    (first >>= next).toOption = first.toOption.bind fun result => (next result).toOption := by
  cases first <;> rfl

/-- An action that is not a comment is taken as its keyword says. -/
theorem toOption_step_action (state : State) (action : Action) :
    (state.step (.action action)).toOption =
      if action.comment then some state
      else action.keyword.toOption.bind fun keyword => (state.take action keyword).toOption := by
  rw [step, ← toOption_bind]
  cases action.comment with
  | true => rfl
  | false =>
      simp only [Bool.false_eq_true, if_false]
      cases action.keyword >>= state.take action <;> rfl

theorem step_bare (state : State) {item kept : Item} (keeps : item.bare? = some kept) :
    (state.bare.step kept).toOption = (state.step item).toOption.map bare := by
  cases item with
  | text chars start =>
      rw [Item.bare?] at keeps
      split at keeps
      · contradiction
      · next given =>
          obtain rfl := Option.some.inj keeps
          have shown : (Part.text (String.ofList chars)).bare = [.text (String.ofList chars)] := by
            rw [Part.bare, if_neg (by simpa using given)]
          exact congrArg some (push_bare state shown)
  | action action =>
      obtain rfl := Option.some.inj keeps
      have comment : action.bare.comment = action.comment := rfl
      have keyword : action.bare.keyword = action.keyword := rfl
      rw [toOption_step_action, toOption_step_action, comment, keyword]
      split
      · rfl
      · rw [Option.map_bind]
        exact congrArg _ (funext (take_bare state action))

/-- Whether items are taken, and the bare state that they lead to, is decided by the bare items. -/
theorem through_bare (state : State) (items : List Item) :
    (state.bare.through (items.filterMap Item.bare?)).toOption =
      (state.through items).toOption.map bare := by
  induction items generalizing state with
  | nil => rfl
  | cons item items ih =>
      cases keeps : item.bare? with
      | none =>
          obtain ⟨start, rfl⟩ : ∃ start, item = .text [] start := by
            cases item with
            | text chars start => exact ⟨start, by simpa [Item.bare?] using keeps⟩
            | action action => contradiction
          rw [List.filterMap_cons_none keeps, through_cons (.text [] start) items, ← ih,
            push_bare_nil state (by simp [Part.bare])]
      | some kept =>
          have later (next : State) := ih next
          rw [List.filterMap_cons_some keeps, through, through, List.foldlM_cons,
            List.foldlM_cons, toOption_bind, toOption_bind, step_bare state keeps,
            Option.bind_map, Option.map_bind]
          exact congrArg _ (funext later)

end State

/-- Templates with the same bare items are accepted together, and give the same bare parts. -/
theorem parse_of_bare {first second : String} (complete : (parse first).error = none)
    (scanned : (scan second).error = none)
    (same : (trimItems false (scan first).items).filterMap Item.bare? =
      (trimItems false (scan second).items).filterMap Item.bare?) :
    (parse second).error = none ∧
      Part.allBare (parse second).parts = Part.allBare (parse first).parts := by
  obtain ⟨-, parts, taken, kept⟩ := State.through_of_complete complete
  have there := State.through_bare {} (trimItems false (scan first).items)
  have here := State.through_bare {} (trimItems false (scan second).items)
  rw [taken, same, here] at there
  obtain ⟨final, found, bare⟩ := Option.map_eq_some_iff.mp there
  obtain ⟨others, opened⟩ := final
  obtain ⟨parts_eq, opened_eq⟩ := State.mk.inj bare
  obtain rfl : opened = [] := by simpa using opened_eq
  have accepted : State.through {} (trimItems false (scan second).items) = .ok ⟨others, []⟩ := by
    cases through : State.through {} (trimItems false (scan second).items) with
    | error fault => simp [through, Except.toOption] at found
    | ok state => simpa [through, Except.toOption] using found
  have parsed : parse second = { parts := others.reverse } := State.run_of_through scanned accepted
  have kept_first : (parse first).parts = parts.reverse := kept
  refine ⟨by rw [parsed], ?_⟩
  rw [parsed, kept_first, Part.allBare_reverse, Part.allBare_reverse, parts_eq]

/-! ## What is recorded -/

mutual

/-- The placeholders and guards of a part as written, in order. -/
def Part.sources : Part → List String
  | .text _ => []
  | .action source _ => [source]
  | .conditional branches otherwise => Branch.allSources branches ++ Part.allSources otherwise

/-- The placeholders and guards of parts as written, in order. -/
def Part.allSources : List Part → List String
  | [] => []
  | part :: parts => part.sources ++ Part.allSources parts

/-- A guard as written, and what is written in its branch. -/
def Branch.sources : Branch → List String
  | .mk source _ parts => source :: Part.allSources parts

/-- The placeholders and guards of branches as written, in order. -/
def Branch.allSources : List Branch → List String
  | [] => []
  | branch :: branches => branch.sources ++ Branch.allSources branches

end

/-- Whether an action with this meaning is recorded as written. -/
def Keyword.isRecorded : Keyword → Bool
  | expression | ifGuard _ | elseGuard _ => true
  | elsePart | close => false

/-- What is recorded of an item: a placeholder or a guard as written. -/
def Item.recorded : Item → List String
  | text _ _ => []
  | action a =>
      if a.comment then []
      else
        match a.keyword with
        | .ok keyword => if keyword.isRecorded then [a.text] else []
        | .error _ => []

theorem Action.Is.recorded {action : Action} {keyword : Keyword} (is : action.Is keyword) :
    (Item.action action).recorded = if keyword.isRecorded then [action.text] else [] := by
  rw [Item.recorded, is.1, Action.keyword_eq_ok_iff.mpr is.2]
  rfl

mutual

theorem DerivesPart.sources_eq {depth : Nat} {items : List Item} {part : Part}
    (derives : DerivesPart depth items part) : part.sources = items.flatMap Item.recorded :=
  match derives with
  | .text chars start => rfl
  | .placeholder is => by
      rw [List.flatMap_singleton, is.recorded]
      rfl
  | .conditional is rest => by
      rw [List.flatMap_cons, is.recorded, Part.sources, rest.sources_eq]
      rfl

theorem DerivesParts.sources_eq {depth : Nat} {items : List Item} {parts : List Part}
    (derives : DerivesParts depth items parts) :
    Part.allSources parts = items.flatMap Item.recorded :=
  match derives with
  | .nil => rfl
  | .cons first rest => by
      rw [List.flatMap_append, Part.allSources, first.sources_eq, rest.sources_eq]

theorem DerivesBranches.sources_eq {depth : Nat} {source condition : String} {items : List Item}
    {branches : List Branch} {otherwise : List Part}
    (derives : DerivesBranches depth source condition items branches otherwise) :
    Branch.allSources branches ++ Part.allSources otherwise =
      source :: items.flatMap Item.recorded :=
  match derives with
  | .close body is => by
      simp [Branch.allSources, Branch.sources, Part.allSources, body.sources_eq, is.recorded,
        Keyword.isRecorded]
  | .elsePart body divides final is => by
      simp [Branch.allSources, Branch.sources, body.sources_eq, final.sources_eq, is.recorded,
        divides.recorded, Keyword.isRecorded]
  | .elseGuard body is rest => by
      simp [Branch.allSources, Branch.sources, body.sources_eq, is.recorded, rest.sources_eq,
        Keyword.isRecorded]

end

theorem recorded_trimItems (after : Bool) (items : List Item) :
    (trimItems after items).flatMap Item.recorded = items.flatMap Item.recorded := by
  induction items generalizing after with
  | nil => rfl
  | cons item items ih => cases item <;> simp [trimItems, ih, Item.recorded]

theorem recorded_filter_comments (items : List Item) :
    (items.filter fun item => !item.isComment).flatMap Item.recorded =
      items.flatMap Item.recorded := by
  induction items with
  | nil => rfl
  | cons item items ih =>
      cases comment : item.isComment with
      | false => simp [comment, ih]
      | true =>
          have nothing : item.recorded = [] := by
            cases item with
            | text chars start => rfl
            | action action => exact if_pos comment
          simp [comment, ih, nothing]

/-- A template without a defect records the placeholders and guards among its items, in order. -/
theorem sources_of_complete {source : String} (complete : (parse source).error = none) :
    Part.allSources (parse source).parts = (scan source).items.flatMap Item.recorded := by
  obtain ⟨-, taken⟩ := parse_eq_iff_through.mp (parse_eq_of_complete complete)
  rw [(through_significant_eq_ok_iff.mp taken).sources_eq, significant, recorded_filter_comments,
    recorded_trimItems]

end Promptline.Template
