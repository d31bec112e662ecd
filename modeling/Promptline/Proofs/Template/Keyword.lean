import Promptline.Proofs.Template.Concatenation

/-!
# What actions and steps do

The meaning of an action is stated by the shape of its body, apart from the order in which the
keywords are looked for.  From it follows, once and for all, what a step of the parser can do.
-/

namespace Promptline.Template

/-- A text opens with a word that ends there; the argument is what follows, without surrounding
white space. -/
def Opens (word text argument : List Char) : Prop :=
  ∃ rest, text = word ++ rest ∧ (∀ c ∈ rest.head?, Text.isWord c = false) ∧
    argument = Text.trimBlank rest

/-- The words that are no expressions at the front of an action. -/
def keywords : List (List Char) := [ifWord, elseWord, endWord]

/-- The well-formed actions by their bodies: guards have a condition, the end of a conditional has
nothing after it, and only a guard may follow the keyword of the last part. -/
inductive Means : List Char → Keyword → Prop
  /-- No keyword is at the front. -/
  | expression {body : List Char}
      (plain : ∀ word ∈ keywords, ∀ argument, ¬ Opens word body argument) :
      Means body .expression
  /-- A condition starts a conditional. -/
  | ifGuard {body condition : List Char} (opens : Opens ifWord body condition)
      (given : condition ≠ []) : Means body (.ifGuard condition)
  /-- A condition starts another branch. -/
  | elseGuard {body rest condition : List Char} (opens : Opens elseWord body rest)
      (nested : Opens ifWord rest condition) (given : condition ≠ []) :
      Means body (.elseGuard condition)
  /-- Nothing else starts the last part. -/
  | elsePart {body : List Char} (opens : Opens elseWord body []) : Means body .elsePart
  /-- Nothing else ends a conditional. -/
  | close {body : List Char} (opens : Opens endWord body []) : Means body .close

theorem afterWord?_eq_some_iff {word text argument : List Char} :
    afterWord? word text = some argument ↔ Opens word text argument := by
  constructor
  · intro found
    unfold afterWord? at found
    split at found
    · next after =>
        obtain rfl := Option.some.inj found
        exact ⟨[], Text.eq_append_of_afterPrefix? after, by simp, rfl⟩
    · next c cs after =>
        split at found
        · contradiction
        · next ends =>
            obtain rfl := Option.some.inj found
            exact ⟨c :: cs, Text.eq_append_of_afterPrefix? after, by simpa using ends, rfl⟩
    · contradiction
  · rintro ⟨rest, rfl, ends, rfl⟩
    rw [afterWord?, Text.afterPrefix?_append]
    cases rest with
    | nil => rfl
    | cons c cs => simp [ends c rfl]

theorem afterWord?_eq_none_iff {word text : List Char} :
    afterWord? word text = none ↔ ∀ argument, ¬ Opens word text argument := by
  simp only [Option.eq_none_iff_forall_ne_some, Ne, afterWord?_eq_some_iff]

theorem Opens.afterWord?_eq {word text argument : List Char} (opens : Opens word text argument) :
    afterWord? word text = some argument :=
  afterWord?_eq_some_iff.mpr opens

/-- A text that opens with another keyword does not open with the one for a conditional. -/
theorem Opens.not_ifWord {word text argument : List Char} (opens : Opens word text argument)
    (other : word = elseWord ∨ word = endWord) : afterWord? ifWord text = none := by
  obtain ⟨rest, rfl, -, -⟩ := opens
  rcases other with rfl | rfl <;> rfl

theorem Opens.not_endWord {text argument : List Char} (opens : Opens elseWord text argument) :
    afterWord? endWord text = none := by
  obtain ⟨rest, rfl, -, -⟩ := opens
  rfl

theorem Opens.argument_ne_nil {word text rest argument : List Char}
    (opens : Opens word text rest) (nested : Opens ifWord rest argument) : rest ≠ [] := by
  rintro rfl
  obtain ⟨_, impossible, -⟩ := nested
  contradiction

/-- The meaning of a body does not depend on the order in which the keywords are tried. -/
theorem Action.keyword_eq_ok_iff {action : Action} {keyword : Keyword} :
    action.keyword = .ok keyword ↔ Means action.body keyword := by
  constructor
  · intro classified
    unfold Action.keyword at classified
    split at classified
    · contradiction
    · next condition given found =>
        obtain rfl := Except.ok.inj classified
        exact .ifGuard (afterWord?_eq_some_iff.mp found) (by simpa using given)
    · next no_if =>
        split at classified
        · next found =>
            obtain rfl := Except.ok.inj classified
            exact .close (afterWord?_eq_some_iff.mp found)
        · contradiction
        · next no_end =>
            split at classified
            · next found =>
                obtain rfl := Except.ok.inj classified
                exact .elsePart (afterWord?_eq_some_iff.mp found)
            · next rest more found =>
                split at classified
                · contradiction
                · next condition given nested =>
                    obtain rfl := Except.ok.inj classified
                    exact .elseGuard (afterWord?_eq_some_iff.mp found)
                      (afterWord?_eq_some_iff.mp nested) (by simpa using given)
                · contradiction
            · next no_else =>
                obtain rfl := Except.ok.inj classified
                refine .expression ?_
                simp only [keywords, List.forall_mem_cons, List.not_mem_nil, false_implies,
                  implies_true, and_true]
                exact ⟨afterWord?_eq_none_iff.mp no_if, afterWord?_eq_none_iff.mp no_else,
                  afterWord?_eq_none_iff.mp no_end⟩
  · intro means
    unfold Action.keyword
    cases means with
    | expression plain =>
        have absent (word : List Char) (listed : word ∈ keywords) :
            afterWord? word action.body = none := afterWord?_eq_none_iff.mpr (plain word listed)
        rw [absent ifWord (by decide), absent endWord (by decide), absent elseWord (by decide)]
    | ifGuard opens given =>
        rw [opens.afterWord?_eq]
        simp
    | elseGuard opens nested given =>
        have more := opens.argument_ne_nil nested
        rw [opens.not_ifWord (.inl rfl), opens.not_endWord, opens.afterWord?_eq]
        simp [nested.afterWord?_eq]
    | elsePart opens =>
        rw [opens.not_ifWord (.inl rfl), opens.not_endWord, opens.afterWord?_eq]
    | close opens => rw [opens.not_ifWord (.inr rfl), opens.afterWord?_eq]

/-- Whether an item is a comment. -/
def Item.isComment : Item → Bool
  | .text _ _ => false
  | .action a => a.comment

/-- An action is no comment and has a meaning. -/
def Action.Is (action : Action) (keyword : Keyword) : Prop :=
  action.comment = false ∧ Means action.body keyword

namespace State

/-- A conditional that an action opens. -/
def opening (opener : Action) (condition : List Char) : OpenIf where
  opener := opener
  guard := some (opener.text, String.ofList condition)

/-- What taking an item can do. -/
inductive Takes : State → Item → State → Prop
  /-- A comment is passed over. -/
  | comment {state : State} {action : Action} (ignored : action.comment = true) :
      Takes state (.action action) state
  /-- Text is a part. -/
  | text {state : State} (chars : List Char) (start : Nat) :
      Takes state (.text chars start) (state.push (.text (String.ofList chars)))
  /-- A placeholder is a part. -/
  | placeholder {state : State} {action : Action} (is : action.Is .expression) :
      Takes state (.action action)
        (state.push (.action action.text (String.ofList action.body)))
  /-- A guard opens a conditional, if there are not too many around it. -/
  | ifGuard {state : State} {action : Action} {condition : List Char}
      (is : action.Is (.ifGuard condition)) (room : state.opened.length < maxConditionals) :
      Takes state (.action action)
        { state with opened := opening action condition :: state.opened }
  /-- A later guard opens the next branch. -/
  | elseGuard {parts : List Part} {inner : OpenIf} {outer : List OpenIf} {action : Action}
      {condition : List Char} (is : action.Is (.elseGuard condition))
      (guarded : inner.guard ≠ none) :
      Takes ⟨parts, inner :: outer⟩ (.action action)
        ⟨parts, inner.next (some (action.text, String.ofList condition)) :: outer⟩
  /-- The last part follows a guarded one. -/
  | elsePart {parts : List Part} {inner : OpenIf} {outer : List OpenIf} {action : Action}
      (is : action.Is .elsePart) (guarded : inner.guard ≠ none) :
      Takes ⟨parts, inner :: outer⟩ (.action action) ⟨parts, inner.next none :: outer⟩
  /-- The end closes the innermost conditional. -/
  | close {parts : List Part} {inner : OpenIf} {outer : List OpenIf} {action : Action}
      (is : action.Is .close) :
      Takes ⟨parts, inner :: outer⟩ (.action action) (State.push ⟨parts, outer⟩ inner.close)

theorem step_of_is {state : State} {action : Action} {keyword : Keyword}
    (is : action.Is keyword) :
    state.step (.action action) =
      match state.take action keyword with
      | .ok next => .ok next
      | .error fault => .error ⟨fault, action.text⟩ := by
  rw [step, is.1, Action.keyword_eq_ok_iff.mpr is.2]
  rfl

theorem takes_of_take {state next : State} {action : Action} {keyword : Keyword}
    (is : action.Is keyword) (taken : state.take action keyword = .ok next) :
    Takes state (.action action) next := by
  obtain ⟨parts, opened⟩ := state
  cases keyword with
  | expression =>
      obtain rfl := Except.ok.inj taken
      exact .placeholder is
  | ifGuard condition =>
      rw [take] at taken
      split at taken
      · next room =>
          obtain rfl := Except.ok.inj taken
          exact .ifGuard is room
      · contradiction
  | elseGuard condition =>
      cases opened with
      | nil => contradiction
      | cons inner outer =>
          simp only [take] at taken
          split at taken
          · contradiction
          · next guard guarded =>
              obtain rfl := Except.ok.inj taken
              exact .elseGuard is (by simp [guarded])
  | elsePart =>
      cases opened with
      | nil => contradiction
      | cons inner outer =>
          simp only [take] at taken
          split at taken
          · contradiction
          · next guard guarded =>
              obtain rfl := Except.ok.inj taken
              exact .elsePart is (by simp [guarded])
  | close =>
      cases opened with
      | nil => contradiction
      | cons inner outer =>
          obtain rfl := Except.ok.inj taken
          exact .close is

/-- A step succeeds exactly by doing one of the things that it can do. -/
theorem step_eq_ok_iff {state next : State} {item : Item} :
    state.step item = .ok next ↔ Takes state item next := by
  constructor
  · intro taken
    cases item with
    | text chars start =>
        obtain rfl := Except.ok.inj taken
        exact .text chars start
    | action action =>
        cases ignored : action.comment with
        | true =>
            rw [step, if_pos ignored] at taken
            obtain rfl := Except.ok.inj taken
            exact .comment ignored
        | false =>
            rw [step, ignored] at taken
            cases word : action.keyword with
            | error fault => simp [word, bind, Except.bind] at taken
            | ok keyword =>
                have is : action.Is keyword := ⟨ignored, Action.keyword_eq_ok_iff.mp word⟩
                simp only [word, bind, Except.bind, Bool.false_eq_true, if_false] at taken
                cases result : state.take action keyword with
                | error fault => simp [result] at taken
                | ok after =>
                    rw [result] at taken
                    obtain rfl := Except.ok.inj taken
                    exact takes_of_take is result
  · intro takes
    cases takes with
    | comment ignored => rw [step, if_pos ignored]
    | text chars start => rfl
    | placeholder is => rw [step_of_is is, take]
    | ifGuard is room =>
        rw [step_of_is is, take, if_pos room]
        rfl
    | elseGuard is guarded =>
        obtain ⟨guard, guarded⟩ := Option.ne_none_iff_exists'.mp guarded
        rw [step_of_is is]
        simp [take, guarded]
    | elsePart is guarded =>
        obtain ⟨guard, guarded⟩ := Option.ne_none_iff_exists'.mp guarded
        rw [step_of_is is]
        simp [take, guarded]
    | close is => rw [step_of_is is, take]

end State

end Promptline.Template
