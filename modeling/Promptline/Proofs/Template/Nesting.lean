import Promptline.Proofs.Template.Grammar

/-!
# The nesting limit

How deep conditionals are nested is read off the tree.  Items that are derived at some depth are
accepted if the tree is within the limit; otherwise the parser stops where the limit is passed, and
nowhere before.
-/

namespace Promptline.Template

/-! ## Depth -/

mutual

/-- How many conditionals of a part are nested in each other. -/
def Part.depth : Part → Nat
  | .text _ => 0
  | .action _ _ => 0
  | .conditional branches otherwise => max (Branch.allDepth branches) (Part.allDepth otherwise) + 1

/-- How many conditionals are nested in each other in one of several parts. -/
def Part.allDepth : List Part → Nat
  | [] => 0
  | part :: parts => max part.depth (Part.allDepth parts)

/-- How many conditionals are nested in each other in one of several branches. -/
def Branch.allDepth : List Branch → Nat
  | [] => 0
  | .mk _ _ parts :: branches => max (Part.allDepth parts) (Branch.allDepth branches)

end

mutual

theorem DerivesPart.depth_le {depth : Nat} {items : List Item} {part : Part}
    (derives : DerivesPart depth items part) : part.depth ≤ depth :=
  match derives with
  | .text chars start => Nat.zero_le _
  | .placeholder is => Nat.zero_le _
  | .conditional is rest => Nat.succ_le_succ rest.depth_le

theorem DerivesParts.depth_le {depth : Nat} {items : List Item} {parts : List Part}
    (derives : DerivesParts depth items parts) : Part.allDepth parts ≤ depth :=
  match derives with
  | .nil => Nat.zero_le _
  | .cons first rest => Nat.max_le.mpr ⟨first.depth_le, rest.depth_le⟩

theorem DerivesBranches.depth_le {depth : Nat} {source condition : String} {items : List Item}
    {branches : List Branch} {otherwise : List Part}
    (derives : DerivesBranches depth source condition items branches otherwise) :
    max (Branch.allDepth branches) (Part.allDepth otherwise) ≤ depth :=
  match derives with
  | .close body is => by
      simpa [Branch.allDepth, Part.allDepth] using body.depth_le
  | .elsePart body divides final is => by
      have inner := body.depth_le
      have last := final.depth_le
      simp only [Branch.allDepth]
      omega
  | .elseGuard body is rest => by
      have inner := body.depth_le
      have others := rest.depth_le
      simp only [Branch.allDepth]
      omega

end

mutual

/-- The depth of a derivation may be anything from the depth of the tree on. -/
theorem DerivesPart.of_depth_le {depth limit : Nat} {items : List Item} {part : Part}
    (derives : DerivesPart depth items part) (bound : part.depth ≤ limit) :
    DerivesPart limit items part :=
  match derives with
  | .text chars start => .text chars start
  | .placeholder is => .placeholder is
  | .conditional is rest => by
      rw [Part.depth] at bound
      obtain ⟨limit, rfl⟩ : ∃ inside, limit = inside + 1 := ⟨limit - 1, by omega⟩
      exact .conditional is (rest.of_depth_le (Nat.le_of_succ_le_succ bound))

/-- The depth of a derivation may be anything from the depth of the trees on. -/
theorem DerivesParts.of_depth_le {depth limit : Nat} {items : List Item} {parts : List Part}
    (derives : DerivesParts depth items parts) (bound : Part.allDepth parts ≤ limit) :
    DerivesParts limit items parts :=
  match derives with
  | .nil => .nil
  | .cons first rest => by
      obtain ⟨front, back⟩ := Nat.max_le.mp bound
      exact .cons (first.of_depth_le front) (rest.of_depth_le back)

/-- The depth of a derivation may be anything from the depth of the trees on. -/
theorem DerivesBranches.of_depth_le {depth limit : Nat} {source condition : String}
    {items : List Item} {branches : List Branch} {otherwise : List Part}
    (derives : DerivesBranches depth source condition items branches otherwise)
    (bound : max (Branch.allDepth branches) (Part.allDepth otherwise) ≤ limit) :
    DerivesBranches limit source condition items branches otherwise :=
  match derives with
  | .close body is => by
      simp only [Branch.allDepth] at bound
      exact .close (body.of_depth_le (by omega)) is
  | .elsePart body divides final is => by
      simp only [Branch.allDepth] at bound
      exact .elsePart (body.of_depth_le (by omega)) divides (final.of_depth_le (by omega)) is
  | .elseGuard body is rest => by
      simp only [Branch.allDepth] at bound
      exact .elseGuard (body.of_depth_le (by omega)) is (rest.of_depth_le (by omega))

end

/-! ## Where the limit is passed -/

namespace State

/-- Items are taken up to a conditional that would be nested too deep. -/
def PassesLimit (state : State) (items : List Item) : Prop :=
  ∃ error, state.through items = .error error ∧ error.fault = .conditionalsTooDeep

theorem PassesLimit.append {state : State} {items : List Item} (passes : state.PassesLimit items)
    (later : List Item) : state.PassesLimit (items ++ later) := by
  obtain ⟨error, stopped, deep⟩ := passes
  refine ⟨error, ?_, deep⟩
  rw [through, List.foldlM_append, ← through, stopped]
  rfl

theorem PassesLimit.behind {state middle : State} {front back : List Item}
    (taken : state.through front = .ok middle) (passes : middle.PassesLimit back) :
    state.PassesLimit (front ++ back) := by
  obtain ⟨error, stopped, deep⟩ := passes
  exact ⟨error, by rw [through_append taken, stopped], deep⟩

theorem PassesLimit.after {state middle : State} {item : Item} {rest : List Item}
    (takes : Takes state item middle) (passes : middle.PassesLimit rest) :
    state.PassesLimit (item :: rest) := by
  obtain ⟨error, stopped, deep⟩ := passes
  exact ⟨error, by rw [through_cons takes, stopped], deep⟩

theorem passesLimit_of_full {state : State} (full : ¬ state.opened.length < maxConditionals)
    {opener : Action} {condition : List Char} (is : opener.Is (.ifGuard condition))
    (rest : List Item) : state.PassesLimit (.action opener :: rest) := by
  refine ⟨⟨.conditionalsTooDeep, opener.text⟩, ?_, rfl⟩
  rw [through, List.foldlM_cons, step_of_is is, take, if_neg full]
  rfl

end State

open State (PassesLimit)

theorem DerivesPart.through_of_shallow {depth : Nat} {items : List Item} {part : Part}
    (derives : DerivesPart depth items part) {state : State}
    (room : state.opened.length ≤ maxConditionals)
    (shallow : part.depth ≤ maxConditionals - state.opened.length) :
    state.through items = .ok (state.push part) :=
  (derives.of_depth_le shallow).through (Nat.add_sub_cancel' room)

theorem DerivesParts.through_of_shallow {depth : Nat} {items : List Item} {parts : List Part}
    (derives : DerivesParts depth items parts) {state : State}
    (room : state.opened.length ≤ maxConditionals)
    (shallow : Part.allDepth parts ≤ maxConditionals - state.opened.length) :
    state.through items = .ok (state.pushAll parts) :=
  (derives.of_depth_le shallow).through (Nat.add_sub_cancel' room)

mutual

theorem DerivesPart.passesLimit {depth : Nat} {items : List Item} {part : Part}
    (derives : DerivesPart depth items part) {state : State}
    (room : state.opened.length ≤ maxConditionals)
    (deep : maxConditionals < state.opened.length + part.depth) : state.PassesLimit items :=
  match derives with
  | .text chars start => absurd deep (Nat.not_lt.mpr room)
  | .placeholder is => absurd deep (Nat.not_lt.mpr room)
  | .conditional is rest => by
      rw [Part.depth] at deep
      by_cases enough : state.opened.length < maxConditionals
      · have opens : State.Takes state _ _ := .ifGuard is enough
        refine .after opens (rest.passesLimit (by simp [State.opening]) ?_ ?_)
        · rw [List.length_cons]
          omega
        · rw [List.length_cons]
          omega
      · exact State.passesLimit_of_full enough is _

theorem DerivesParts.passesLimit {depth : Nat} {items : List Item} {parts : List Part}
    (derives : DerivesParts depth items parts) {state : State}
    (room : state.opened.length ≤ maxConditionals)
    (deep : maxConditionals < state.opened.length + Part.allDepth parts) :
    state.PassesLimit items :=
  match derives with
  | .nil => absurd deep (Nat.not_lt.mpr room)
  | @DerivesParts.cons _ _ _ part _ first rest => by
      rw [Part.allDepth] at deep
      by_cases shallow : part.depth ≤ maxConditionals - state.opened.length
      · refine .behind (first.through_of_shallow room shallow) (rest.passesLimit ?_ ?_)
        · rw [State.opened_length_push]
          exact room
        · rw [State.opened_length_push]
          omega
      · exact (first.passesLimit room (by omega)).append _

theorem DerivesBranches.passesLimit {depth : Nat} {source condition : String} {items : List Item}
    {branches : List Branch} {otherwise : List Part}
    (derives : DerivesBranches depth source condition items branches otherwise)
    {before : List Part} {inner : OpenIf} {outer : List OpenIf} (guarded : inner.guard ≠ none)
    (room : (inner :: outer).length ≤ maxConditionals)
    (deep : maxConditionals <
      (inner :: outer).length + max (Branch.allDepth branches) (Part.allDepth otherwise)) :
    PassesLimit ⟨before, inner :: outer⟩ items :=
  match derives with
  | .close body is => by
      simp only [Branch.allDepth, Part.allDepth] at deep
      exact (body.passesLimit room (by simpa using deep)).append _
  | @DerivesBranches.elsePart _ _ _ _ _ parts _ _ _ body divides final is => by
      simp only [Branch.allDepth] at deep
      by_cases shallow : Part.allDepth parts ≤ maxConditionals - (inner :: outer).length
      · refine .behind (body.through_of_shallow room shallow) ?_
        rw [State.pushAll_cons_opened]
        refine .after (.elsePart divides guarded) ((final.passesLimit room ?_).append _)
        simp only [List.length_cons] at shallow deep ⊢
        omega
      · refine (body.passesLimit room ?_).append _
        simp only [List.length_cons] at shallow ⊢
        omega
  | @DerivesBranches.elseGuard _ _ _ _ _ parts _ _ _ _ body is rest => by
      simp only [Branch.allDepth] at deep
      by_cases shallow : Part.allDepth parts ≤ maxConditionals - (inner :: outer).length
      · refine .behind (body.through_of_shallow room shallow) ?_
        rw [State.pushAll_cons_opened]
        refine .after (.elseGuard is guarded) (rest.passesLimit (by simp [OpenIf.next]) room ?_)
        simp only [List.length_cons] at shallow deep ⊢
        omega
      · refine (body.passesLimit room ?_).append _
        simp only [List.length_cons] at shallow ⊢
        omega

end

/-! ## Templates -/

theorem State.run_of_through_error {source : String} {scan : Scan} {state : State}
    {items : List Item} {error : ParseError} (stopped : state.through items = .error error) :
    (run source scan state items).error = some error := by
  induction items generalizing state with
  | nil => contradiction
  | cons item items ih =>
      rw [through, List.foldlM_cons] at stopped
      rw [run]
      cases first : state.step item with
      | error fault =>
          rw [first] at stopped
          obtain rfl := Except.error.inj stopped
          rfl
      | ok next =>
          rw [first] at stopped
          exact ih stopped

/-- A template whose items are derived at some depth is accepted if its conditionals are nested
within the limit, and otherwise the limit is its only defect. -/
theorem parse_of_derives {source : String} {depth : Nat} {parts : List Part}
    (scanned : (scan source).error = none)
    (derives : DerivesParts depth (significant source) parts) :
    (Part.allDepth parts ≤ maxConditionals → parse source = { parts := parts }) ∧
      (maxConditionals < Part.allDepth parts →
        ∃ error, (parse source).error = some error ∧ error.fault = .conditionalsTooDeep) := by
  constructor
  · intro shallow
    exact parse_eq_iff_through.mpr
      ⟨scanned, through_significant_eq_ok_iff.mpr (derives.of_depth_le shallow)⟩
  · intro deep
    have passes : State.PassesLimit {} (significant source) :=
      derives.passesLimit (Nat.zero_le _) (by rwa [List.length_nil, Nat.zero_add])
    obtain ⟨error, stopped, fault⟩ := passes
    rw [significant, State.through_filter_comments] at stopped
    exact ⟨error, State.run_of_through_error stopped, fault⟩

end Promptline.Template
