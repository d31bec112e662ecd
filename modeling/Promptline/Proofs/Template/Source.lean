import Promptline.Proofs.Template.Recovery

/-!
# Where the parts of a template come from

The text of each action stands in the source at the offset of the action.  What the parser keeps of
a template, with or without a defect, is derived from the items at its front, so the placeholders
and guards in it are actions of the source.
-/

namespace Promptline.Template

/-- The text of an action is part of a text, at the offset of the action; the text itself stands at
the given offset. -/
def Action.StandsIn (action : Action) (offset : Nat) (cs : List Char) : Prop :=
  ∃ before after, cs = before ++ action.source ++ after ∧ action.start = offset + before.length

theorem Action.StandsIn.behind {action : Action} {offset : Nat} {front back : List Char}
    (stands : action.StandsIn (offset + front.length) back) :
    action.StandsIn offset (front ++ back) := by
  obtain ⟨before, after, rfl, start⟩ := stands
  refine ⟨front ++ before, after, by simp, ?_⟩
  rw [start, List.length_append, Nat.add_assoc]

/-- What a scan consists of: the text in front, an action behind it, and what is scanned from what
follows the action. -/
theorem mem_scanFrom_cases {offset : Nat} {cs : List Char} {item : Item}
    (member : item ∈ (scanFrom offset cs).items) :
    item = .text (splitAtOpen cs).1 offset ∨ ∃ action rest,
      cs = (splitAtOpen cs).1 ++ (action.source ++ rest) ∧ rest.length < cs.length ∧
        action.start = offset + (splitAtOpen cs).1.length ∧
        (item = .action action ∨
          item ∈ (scanFrom (action.start + action.source.length) rest).items) := by
  have pieces := splitAtOpen_append cs
  rw [scanFrom_eq, consText_eq, List.mem_append] at member
  generalize (splitAtOpen cs).1 = chars at *
  generalize (splitAtOpen cs).2 = tail at *
  subst pieces
  rcases member with text | later
  · exact .inl (eq_text_of_mem_literal text)
  · obtain ⟨first, items, found⟩ := List.exists_cons_of_ne_nil (List.ne_nil_of_mem later)
    obtain ⟨action, rfl, read, whole⟩ := scanOpen_of_cons found
    obtain ⟨-, start_eq, source_eq, long⟩ := readFrom_of_scanAction read
    have split : action.source ++ tail.drop action.source.length = tail := by
      conv_rhs => rw [← List.take_append_drop action.source.length tail, ← source_eq]
    have size := congrArg List.length split
    rw [List.length_append] at size
    rw [whole] at later
    refine .inr ⟨action, tail.drop action.source.length, by rw [split], ?_, start_eq, ?_⟩
    · rw [List.length_append]
      omega
    · rw [start_eq]
      exact List.mem_cons.mp later

/-- By induction on the length of the text: an action in front stands there, and the others stand in
what follows it. -/
theorem standsIn_of_mem_scanFrom {offset : Nat} {cs : List Char} {action : Action}
    (member : .action action ∈ (scanFrom offset cs).items) : action.StandsIn offset cs := by
  induction bound : cs.length using Nat.strongRecOn generalizing offset cs with
  | ind length ih =>
      subst bound
      rcases mem_scanFrom_cases member with text | ⟨first, rest, split, shorter, start, found⟩
      · cases text
      · rw [split]
        apply Action.StandsIn.behind
        rcases found with same | later
        · obtain rfl := Item.action.inj same
          exact ⟨[], rest, rfl, start⟩
        · rw [← start]
          exact (ih _ shorter later rfl).behind

/-- An action of a template stands in its source. -/
theorem standsIn_of_mem_scan {source : String} {action : Action}
    (member : .action action ∈ (scan source).items) : action.StandsIn 0 source.toList :=
  standsIn_of_mem_scanFrom member

/-- Trimming changes texts only. -/
theorem action_mem_trimItems {after : Bool} {items : List Item} {action : Action} :
    .action action ∈ trimItems after items ↔ .action action ∈ items := by
  induction items generalizing after with
  | nil => rfl
  | cons item items ih => cases item <;> simp [trimItems, ih]

/-- Whatever the parser keeps of a template is derived from some of its items. -/
theorem exists_derives_parts (source : String) :
    ∃ items, items ⊆ trimItems false (scan source).items ∧
      DerivesParts maxConditionals items (parse source).parts := by
  obtain ⟨front, parts, listed, taken, kept⟩ : ∃ front parts,
      front ⊆ trimItems false (scan source).items ∧
        State.through {} front = .ok ⟨parts, []⟩ ∧ (parse source).parts = parts.reverse := by
    cases parsed : (parse source).error with
    | none =>
        obtain ⟨-, parts, taken, same⟩ := State.through_of_complete parsed
        exact ⟨_, parts, List.Subset.refl _, taken, same⟩
    | some error =>
        obtain ⟨front, back, parts, offset, split, taken, same, -⟩ := State.run_recovers parsed
        refine ⟨front, parts, ?_, taken, congrArg Parsed.parts same⟩
        rw [split]
        exact List.subset_append_left front back
  refine ⟨front.filter fun item => !item.isComment, ?_, ?_⟩
  · exact List.Subset.trans List.filter_sublist.subset listed
  · rw [kept]
    exact derives_of_through taken

end Promptline.Template
