import Promptline.Proofs.Template.Keyword

/-!
# The grammar of templates

A template is a sequence of texts, placeholders and conditionals; a conditional is a guard with a
body, further guards with bodies, possibly a last part, and an end.  Parsing accepts exactly the
sequences of items that the grammar derives, and gives the one tree of the derivation.
-/

namespace Promptline.Template

mutual

/-- One construct, as the part that it is read as; at most so many conditionals are nested in
it. -/
inductive DerivesPart : Nat → List Item → Part → Prop
  /-- Literal text. -/
  | text {depth : Nat} (chars : List Char) (start : Nat) :
      DerivesPart depth [.text chars start] (.text (String.ofList chars))
  /-- A placeholder. -/
  | placeholder {depth : Nat} {action : Action} (is : action.Is .expression) :
      DerivesPart depth [.action action] (.action action.text (String.ofList action.body))
  /-- A conditional: a guard, and the branches that it starts. -/
  | conditional {depth : Nat} {opener : Action} {condition : List Char} {items : List Item}
      {branches : List Branch} {otherwise : List Part} (is : opener.Is (.ifGuard condition))
      (rest : DerivesBranches depth opener.text (String.ofList condition) items branches
        otherwise) :
      DerivesPart (depth + 1) (.action opener :: items) (.conditional branches otherwise)

/-- Constructs in order. -/
inductive DerivesParts : Nat → List Item → List Part → Prop
  /-- No construct. -/
  | nil {depth : Nat} : DerivesParts depth [] []
  /-- A construct, and others after it. -/
  | cons {depth : Nat} {front back : List Item} {part : Part} {parts : List Part}
      (first : DerivesPart depth front part) (rest : DerivesParts depth back parts) :
      DerivesParts depth (front ++ back) (part :: parts)

/-- What follows a guard, given as it is written and by its condition: its body, further branches,
possibly the last part, and the end. -/
inductive DerivesBranches : Nat → String → String → List Item → List Branch → List Part → Prop
  /-- The end follows the body. -/
  | close {depth : Nat} {source condition : String} {items : List Item} {parts : List Part}
      {closer : Action} (body : DerivesParts depth items parts) (is : closer.Is .close) :
      DerivesBranches depth source condition (items ++ [.action closer])
        [.mk source condition parts] []
  /-- The last part and the end follow the body. -/
  | elsePart {depth : Nat} {source condition : String} {items last : List Item}
      {parts otherwise : List Part} {divider closer : Action}
      (body : DerivesParts depth items parts) (divides : divider.Is .elsePart)
      (final : DerivesParts depth last otherwise) (is : closer.Is .close) :
      DerivesBranches depth source condition
        (items ++ .action divider :: (last ++ [.action closer])) [.mk source condition parts]
        otherwise
  /-- Another guard follows the body. -/
  | elseGuard {depth : Nat} {source condition : String} {items later : List Item}
      {parts otherwise : List Part} {branches : List Branch} {guard : Action}
      {next : List Char} (body : DerivesParts depth items parts)
      (is : guard.Is (.elseGuard next))
      (rest : DerivesBranches depth guard.text (String.ofList next) later branches otherwise) :
      DerivesBranches depth source condition (items ++ .action guard :: later)
        (.mk source condition parts :: branches) otherwise

end

namespace State

theorem through_nil (state : State) : state.through [] = .ok state :=
  rfl

theorem through_append {state middle : State} {front : List Item}
    (taken : state.through front = .ok middle) (back : List Item) :
    state.through (front ++ back) = middle.through back := by
  rw [through, List.foldlM_append, ← through, taken]
  rfl

theorem through_cons {state middle : State} {item : Item} (takes : Takes state item middle)
    (rest : List Item) : state.through (item :: rest) = middle.through rest := by
  rw [through, List.foldlM_cons, step_eq_ok_iff.mpr takes]
  rfl

theorem through_cons_eq_ok_iff {state final : State} {item : Item} {rest : List Item} :
    state.through (item :: rest) = .ok final ↔
      ∃ middle, Takes state item middle ∧ middle.through rest = .ok final := by
  simp only [through, List.foldlM_cons, ← step_eq_ok_iff]
  cases state.step item <;> simp [bind, Except.bind]

/-- A template whose items are all taken, outside any conditional, has no defect. -/
theorem run_of_through {source : String} {scan : Scan} {items : List Item}
    {parts : List Part} (scanned : scan.error = none)
    (taken : through {} items = .ok ⟨parts, []⟩) :
    run source scan {} items = { parts := parts.reverse } := by
  have finished := run_append_of_through source scan taken []
  rw [List.append_nil] at finished
  rw [finished, run, finish, scanned]

/-- Comments do not matter once the text next to them has been trimmed. -/
theorem through_filter_comments (state : State) (items : List Item) :
    state.through (items.filter fun item => !item.isComment) = state.through items := by
  induction items generalizing state with
  | nil => rfl
  | cons item items ih =>
      rw [List.filter_cons]
      split
      · simp only [through, List.foldlM_cons] at ih ⊢
        exact congrArg _ (funext ih)
      · next ignored =>
          cases item with
          | text chars start => simp [Item.isComment] at ignored
          | action action =>
              rw [ih, through_cons (.comment (by simpa [Item.isComment] using ignored))]

/-- Add parts in order to the innermost body. -/
def pushAll (state : State) (parts : List Part) : State :=
  parts.foldl push state

theorem opened_length_push (state : State) (part : Part) :
    (state.push part).opened.length = state.opened.length := by
  obtain ⟨parts, opened⟩ := state
  cases opened <;> rfl

theorem pushAll_nil_opened (before parts : List Part) :
    pushAll ⟨before, []⟩ parts = ⟨parts.reverse ++ before, []⟩ := by
  induction parts generalizing before with
  | nil => rfl
  | cons part parts ih =>
      change pushAll ⟨part :: before, []⟩ parts = _
      rw [ih, List.reverse_cons, List.append_assoc]
      rfl

theorem pushAll_cons_opened (before parts : List Part) (inner : OpenIf) (outer : List OpenIf) :
    pushAll ⟨before, inner :: outer⟩ parts =
      ⟨before, { inner with parts := parts.reverse ++ inner.parts } :: outer⟩ := by
  induction parts generalizing inner with
  | nil => rfl
  | cons part parts ih =>
      change pushAll ⟨before, { inner with parts := part :: inner.parts } :: outer⟩ parts = _
      rw [ih, List.reverse_cons, List.append_assoc]
      rfl

end State

/-! ## What the grammar derives is accepted -/

mutual

/-- A construct is taken as one part. -/
theorem DerivesPart.through {depth : Nat} {items : List Item} {part : Part}
    (derives : DerivesPart depth items part) {state : State}
    (room : state.opened.length + depth = maxConditionals) :
    state.through items = .ok (state.push part) :=
  match derives with
  | .text chars start => rfl
  | .placeholder is => State.through_cons (.placeholder is) []
  | .conditional is rest => by
      have opens : State.Takes state _ _ := .ifGuard is (by omega)
      rw [State.through_cons opens, rest.through rfl rfl (by simp only [List.length_cons]; omega)]
      rfl

/-- Constructs are taken as their parts. -/
theorem DerivesParts.through {depth : Nat} {items : List Item} {parts : List Part}
    (derives : DerivesParts depth items parts) {state : State}
    (room : state.opened.length + depth = maxConditionals) :
    state.through items = .ok (state.pushAll parts) :=
  match derives with
  | .nil => rfl
  | .cons first rest => by
      rw [State.through_append (first.through room),
        rest.through (by rw [State.opened_length_push]; exact room)]
      rfl

/-- What follows a guard completes its conditional. -/
theorem DerivesBranches.through {depth : Nat} {source condition : String} {items : List Item}
    {branches : List Branch} {otherwise : List Part}
    (derives : DerivesBranches depth source condition items branches otherwise)
    {before : List Part} {inner : OpenIf} {outer : List OpenIf}
    (guard : inner.guard = some (source, condition)) (empty : inner.parts = [])
    (room : (inner :: outer).length + depth = maxConditionals) :
    State.through ⟨before, inner :: outer⟩ items =
      .ok (State.push ⟨before, outer⟩
        (.conditional (inner.branches.reverse ++ branches) otherwise)) :=
  match derives with
  | .close body is => by
      rw [State.through_append (body.through room), State.pushAll_cons_opened,
        State.through_cons (.close is)]
      simp [State.through_nil, OpenIf.close, OpenIf.finished, guard, empty]
  | .elsePart body divides final is => by
      rw [State.through_append (body.through room), State.pushAll_cons_opened,
        State.through_cons (.elsePart divides (by simp [guard])),
        State.through_append (final.through (by simpa using room)), State.pushAll_cons_opened,
        State.through_cons (.close is)]
      simp [State.through_nil, OpenIf.close, OpenIf.finished, OpenIf.next, guard, empty]
  | .elseGuard body is rest => by
      rw [State.through_append (body.through room), State.pushAll_cons_opened,
        State.through_cons (.elseGuard is (by simp [guard])),
        rest.through rfl rfl (by simpa using room)]
      simp [OpenIf.finished, OpenIf.next, guard, empty]

end

/-! ## What is accepted is derived -/

theorem DerivesPart.single {depth : Nat} {items : List Item} {part : Part}
    (derives : DerivesPart depth items part) : DerivesParts depth items [part] := by
  simpa using DerivesParts.cons derives .nil

/-- A construct goes in front of the first body. -/
theorem DerivesBranches.cons {depth : Nat} {source condition : String} {front items : List Item}
    {part : Part} {parts otherwise : List Part} {branches : List Branch}
    (first : DerivesPart depth front part)
    (rest : DerivesBranches depth source condition items (.mk source condition parts :: branches)
      otherwise) :
    DerivesBranches depth source condition (front ++ items)
      (.mk source condition (part :: parts) :: branches) otherwise := by
  cases rest with
  | close body is =>
      rw [← List.append_assoc]
      exact .close (.cons first body) is
  | elsePart body divides final is =>
      rw [← List.append_assoc]
      exact .elsePart (.cons first body) divides final is
  | elseGuard body is rest =>
      rw [← List.append_assoc]
      exact .elseGuard (.cons first body) is rest

/-- Items that complete an open conditional, which then is the given part. -/
inductive Completes (depth : Nat) (inner : OpenIf) : List Item → Part → Prop
  /-- A guarded body is open. -/
  | guarded {source condition : String} {items : List Item} {parts otherwise : List Part}
      {branches : List Branch} (guard : inner.guard = some (source, condition))
      (rest : DerivesBranches depth source condition items (.mk source condition parts :: branches)
        otherwise) :
      Completes depth inner items
        (.conditional
          (inner.branches.reverse ++
            .mk source condition (inner.parts.reverse ++ parts) :: branches) otherwise)
  /-- The last part is open. -/
  | last {items : List Item} {parts : List Part} {closer : Action} (guard : inner.guard = none)
      (body : DerivesParts depth items parts) (is : closer.Is .close) :
      Completes depth inner (items ++ [.action closer])
        (.conditional inner.branches.reverse (inner.parts.reverse ++ parts))

namespace Completes

theorem cons {depth : Nat} {inner : OpenIf} {front items : List Item} {part whole : Part}
    (first : DerivesPart depth front part)
    (rest : Completes depth { inner with parts := part :: inner.parts } items whole) :
    Completes depth inner (front ++ items) whole := by
  cases rest with
  | guarded guard rest =>
      simp only [List.reverse_cons, List.append_assoc, List.singleton_append]
      exact .guarded guard (.cons first rest)
  | last guard body is =>
      simp only [List.reverse_cons, List.append_assoc, List.singleton_append]
      rw [← List.append_assoc]
      exact .last guard (.cons first body) is

theorem close (depth : Nat) (inner : OpenIf) {closer : Action} (is : closer.Is .close) :
    Completes depth inner [.action closer] inner.close := by
  rw [OpenIf.close, OpenIf.finished]
  cases guard : inner.guard with
  | none => simpa using last guard .nil is
  | some written =>
      obtain ⟨source, condition⟩ := written
      simpa using guarded guard (.close .nil is)

theorem elsePart {depth : Nat} {inner : OpenIf} {items : List Item} {whole : Part}
    {divider : Action} (is : divider.Is .elsePart) (guarded : inner.guard ≠ none)
    (rest : Completes depth (inner.next none) items whole) :
    Completes depth inner (.action divider :: items) whole := by
  obtain ⟨⟨source, condition⟩, guard⟩ := Option.ne_none_iff_exists'.mp guarded
  cases rest with
  | guarded impossible rest => contradiction
  | last _ body closes =>
      simpa [OpenIf.next, OpenIf.finished, guard] using
        Completes.guarded guard (.elsePart .nil is body closes)

theorem elseGuard {depth : Nat} {inner : OpenIf} {items : List Item} {whole : Part}
    {guard : Action} {condition : List Char} (is : guard.Is (.elseGuard condition))
    (guarded : inner.guard ≠ none)
    (rest : Completes depth (inner.next (some (guard.text, String.ofList condition))) items
      whole) :
    Completes depth inner (.action guard :: items) whole := by
  obtain ⟨⟨source, earlier⟩, written⟩ := Option.ne_none_iff_exists'.mp guarded
  cases rest with
  | last impossible body closes => contradiction
  | guarded same rest =>
      obtain ⟨rfl, rfl⟩ := Prod.mk.inj (Option.some.inj same)
      simpa [OpenIf.next, OpenIf.finished, written] using
        Completes.guarded written (.elseGuard .nil is rest)

/-- Items that complete a conditional which was just opened make it a construct. -/
theorem conditional {depth : Nat} {opener : Action} {condition : List Char} {items : List Item}
    {whole : Part} (is : opener.Is (.ifGuard condition))
    (rest : Completes depth (State.opening opener condition) items whole) :
    DerivesPart (depth + 1) (.action opener :: items) whole := by
  cases rest with
  | last impossible body closes => contradiction
  | guarded same rest =>
      obtain ⟨rfl, rfl⟩ := Prod.mk.inj (Option.some.inj same)
      exact .conditional is rest

end Completes

/-- The items that lead to a state outside any conditional begin, if a conditional is open, with
those that complete the innermost one. -/
def Finishes (depth : Nat) (state : State) (items : List Item) (final : List Part) : Prop :=
  match state.opened with
  | [] => ∃ parts, DerivesParts depth items parts ∧ final = parts.reverse ++ state.parts
  | inner :: outer =>
      ∃ front back part, items = front ++ back ∧ Completes depth inner front part ∧
        State.through (State.push ⟨state.parts, outer⟩ part) back = .ok ⟨final, []⟩

theorem Finishes.cons {depth : Nat} {state : State} {front items : List Item} {part : Part}
    {final : List Part} (first : DerivesPart depth front part)
    (rest : Finishes depth (state.push part) items final) :
    Finishes depth state (front ++ items) final := by
  obtain ⟨before, opened⟩ := state
  cases opened with
  | nil =>
      obtain ⟨parts, derives, rfl⟩ := rest
      exact ⟨part :: parts, .cons first derives, by simp [State.push]⟩
  | cons inner outer =>
      obtain ⟨middle, back, whole, rfl, completes, taken⟩ := rest
      exact ⟨front ++ middle, back, whole, by rw [List.append_assoc], .cons first completes, taken⟩

/-- By induction on the number of items: a construct is complete when its last item has been
taken, so what follows it is shorter. -/
theorem finishes_of_through {depth : Nat} {state : State} {items : List Item} {final : List Part}
    (plain : ∀ item ∈ items, item.isComment = false)
    (room : state.opened.length + depth = maxConditionals)
    (taken : state.through items = .ok ⟨final, []⟩) : Finishes depth state items final := by
  induction size : items.length using Nat.strongRecOn generalizing depth state items final with
  | ind size ih =>
      subst size
      cases items with
      | nil =>
          obtain rfl := Except.ok.inj taken
          exact ⟨[], .nil, rfl⟩
      | cons item rest =>
          obtain ⟨middle, takes, later⟩ := State.through_cons_eq_ok_iff.mp taken
          obtain ⟨significant, others⟩ := List.forall_mem_cons.mp plain
          have shorter : rest.length < (item :: rest).length := Nat.lt_succ_self _
          have keeps (part : Part) : (state.push part).opened.length + depth = maxConditionals := by
            rw [State.opened_length_push, room]
          cases takes with
          | comment ignored => simp [Item.isComment, ignored] at significant
          | text chars start =>
              exact .cons (.text chars start) (ih _ shorter others (keeps _) later rfl)
          | placeholder is =>
              exact .cons (.placeholder is) (ih _ shorter others (keeps _) later rfl)
          | @ifGuard _ opener condition is enough =>
              obtain ⟨depth, rfl⟩ : ∃ inside, depth = inside + 1 := ⟨depth - 1, by omega⟩
              have inside :
                  (State.opening opener condition :: state.opened).length + depth =
                    maxConditionals := by
                rw [List.length_cons]
                omega
              obtain ⟨front, back, part, rfl, completes, resumed⟩ :=
                ih _ shorter others inside later rfl
              obtain ⟨-, behind⟩ := List.forall_mem_append.mp others
              refine .cons (completes.conditional is) (ih _ ?_ behind (keeps part) resumed rfl)
              simp only [List.length_cons, List.length_append]
              omega
          | elseGuard is guarded =>
              obtain ⟨front, back, part, rfl, completes, resumed⟩ :=
                ih _ shorter others (by exact room) later rfl
              exact ⟨_ :: front, back, part, rfl, completes.elseGuard is guarded, resumed⟩
          | elsePart is guarded =>
              obtain ⟨front, back, part, rfl, completes, resumed⟩ :=
                ih _ shorter others (by exact room) later rfl
              exact ⟨_ :: front, back, part, rfl, completes.elsePart is guarded, resumed⟩
          | close is => exact ⟨[_], rest, _, rfl, .close depth _ is, later⟩

/-- The items of a template as the parser sees them: trimmed, and without comments. -/
def significant (source : String) : List Item :=
  (trimItems false (scan source).items).filter fun item => !item.isComment

/-- Items that are all taken, and end outside any conditional, are derived. -/
theorem derives_of_through {items : List Item} {parts : List Part}
    (taken : State.through {} items = .ok ⟨parts, []⟩) :
    DerivesParts maxConditionals (items.filter fun item => !item.isComment) parts.reverse := by
  have room : ([] : List OpenIf).length + maxConditionals = maxConditionals := Nat.zero_add _
  have plain : ∀ item ∈ items.filter fun item => !item.isComment, item.isComment = false := by
    intro item member
    simpa using (List.mem_filter.mp member).2
  rw [← State.through_filter_comments] at taken
  obtain ⟨derived, derives, same⟩ := finishes_of_through plain room taken
  rw [List.append_nil] at same
  rwa [same, List.reverse_reverse]

theorem through_significant_eq_ok_iff {source : String} {parts : List Part} :
    State.through {} (significant source) = .ok ⟨parts.reverse, []⟩ ↔
      DerivesParts maxConditionals (significant source) parts := by
  constructor
  · intro taken
    rw [significant, State.through_filter_comments] at taken
    have derives := derives_of_through taken
    rwa [List.reverse_reverse] at derives
  · intro derives
    have room : ([] : List OpenIf).length + maxConditionals = maxConditionals := Nat.zero_add _
    rw [derives.through room, State.pushAll_nil_opened, List.append_nil]

/-- A parse without a defect takes every item and ends outside any conditional. -/
theorem parse_eq_iff_through {source : String} {parts : List Part} :
    parse source = { parts := parts } ↔
      (scan source).error = none ∧
        State.through {} (significant source) = .ok ⟨parts.reverse, []⟩ := by
  rw [significant, State.through_filter_comments, parse]
  constructor
  · intro complete
    obtain ⟨scanned, final, taken, parsed⟩ := State.through_of_complete (by rw [complete])
    rw [complete] at parsed
    have same : parts.reverse = final := List.reverse_eq_iff.mpr parsed
    exact ⟨scanned, by rw [same, taken]⟩
  · rintro ⟨scanned, taken⟩
    rw [State.run_of_through scanned taken, List.reverse_reverse]

theorem parse_eq_of_complete {source : String} (complete : (parse source).error = none) :
    parse source = { parts := (parse source).parts } := by
  rw [parse] at complete ⊢
  obtain ⟨scanned, final, taken, -⟩ := State.through_of_complete complete
  rw [State.run_of_through scanned taken]

/-- Parsing accepts exactly the grammar: a template has no defect if and only if every action and
comment of it is closed and its items are derived, and then it is the one tree that they derive,
with nothing left over. -/
theorem parse_accepts_iff_derives (source : String) :
    ((parse source).error = none ↔
      (scan source).error = none ∧
        ∃ parts, DerivesParts maxConditionals (significant source) parts) ∧
      ∀ parts, parse source = { parts := parts, error := none, remainder := "" } ↔
        (scan source).error = none ∧
          DerivesParts maxConditionals (significant source) parts := by
  have tree (parts : List Part) : parse source = { parts := parts } ↔
      (scan source).error = none ∧
        DerivesParts maxConditionals (significant source) parts := by
    rw [parse_eq_iff_through, through_significant_eq_ok_iff]
  refine ⟨⟨fun complete => ?_, ?_⟩, tree⟩
  · obtain ⟨scanned, derives⟩ := (tree _).mp (parse_eq_of_complete complete)
    exact ⟨scanned, _, derives⟩
  · rintro ⟨scanned, parts, derives⟩
    rw [(tree parts).mpr ⟨scanned, derives⟩]

end Promptline.Template
