import Promptline.Proofs.Template.Source

/-!
# Literal templates

What a template shows as literal text has no opening delimiter in it, and a template without one is
literal text as a whole.
-/

namespace Promptline.Template

open Text (isMargin)

theorem not_opened_splitAtOpen (cs : List Char) : ¬ Opened (splitAtOpen cs).1 := by
  refine splitAtOpen_eq_self_iff.mp ?_
  by_cases tail : (splitAtOpen cs).2 = []
  · have whole := splitAtOpen_append cs
    rw [tail, List.append_nil] at whole
    rw [whole, ← tail]
    exact Prod.ext whole rfl
  · exact (splitAtOpen_text tail).1

theorem not_opened_of_mem_scanFrom {offset start : Nat} {cs chars : List Char}
    (member : .text chars start ∈ (scanFrom offset cs).items) : ¬ Opened chars := by
  induction bound : cs.length using Nat.strongRecOn generalizing offset cs with
  | ind length ih =>
      subst bound
      rcases mem_scanFrom_cases member with text | ⟨action, rest, -, shorter, -, found⟩
      · obtain ⟨rfl, -⟩ := Item.text.inj text
        exact not_opened_splitAtOpen cs
      · rcases found with action | later
        · cases action
        · exact ih _ shorter later rfl

/-- Trimming leaves pieces of texts. -/
theorem exists_text_of_mem_trimItems {after : Bool} {items : List Item} {chars : List Char}
    {start : Nat} (member : .text chars start ∈ trimItems after items) :
    ∃ whole, .text whole start ∈ items ∧ chars <:+: whole := by
  induction items generalizing after with
  | nil => cases member
  | cons item items ih =>
      cases item with
      | action a =>
          rcases List.mem_cons.mp member with same | later
          · cases same
          · obtain ⟨whole, inside, piece⟩ := ih later
            exact ⟨whole, List.mem_cons_of_mem _ inside, piece⟩
      | text whole place =>
          rw [trimItems] at member
          rcases List.mem_cons.mp member with same | later
          · obtain ⟨rfl, rfl⟩ := Item.text.inj same
            have front : (if after then whole.dropWhile isMargin else whole) <:+: whole := by
              split
              · exact (List.dropWhile_suffix isMargin).isInfix
              · exact List.infix_refl whole
            have back (cs : List Char) :
                (if nextTrimsLeft items then Text.dropEndWhile isMargin cs else cs) <:+: cs := by
              split
              · exact (List.rdropWhile_prefix isMargin cs).isInfix
              · exact List.infix_refl cs
            exact ⟨whole, List.mem_cons_self, (back _).trans front⟩
          · obtain ⟨whole, inside, piece⟩ := ih later
            exact ⟨whole, List.mem_cons_of_mem _ inside, piece⟩

theorem DerivesPart.exists_text {depth : Nat} {items : List Item} {s : String}
    (derives : DerivesPart depth items (.text s)) : ∃ start, items = [.text s.toList start] := by
  cases derives with
  | text chars start => exact ⟨start, by rw [String.toList_ofList]⟩

theorem DerivesParts.exists_text {depth : Nat} {items : List Item} {parts : List Part}
    (derives : DerivesParts depth items parts) {s : String} (member : .text s ∈ parts) :
    ∃ start, .text s.toList start ∈ items := by
  induction parts generalizing items with
  | nil => cases member
  | cons part parts ih =>
      cases derives with
      | cons first rest =>
          rcases List.mem_cons.mp member with rfl | later
          · obtain ⟨start, rfl⟩ := first.exists_text
            exact ⟨start, List.mem_append_left _ List.mem_cons_self⟩
          · obtain ⟨start, inside⟩ := ih rest later
            exact ⟨start, List.mem_append_right _ inside⟩

/-- The literal text of a template, outside its conditionals, has no opening delimiter. -/
theorem not_opened_of_mem_parts {source s : String} (member : .text s ∈ (parse source).parts) :
    ¬ Opened s.toList := by
  obtain ⟨items, listed, derives⟩ := exists_derives_parts source
  obtain ⟨start, inside⟩ := derives.exists_text member
  obtain ⟨whole, scanned, piece⟩ := exists_text_of_mem_trimItems (listed inside)
  exact fun opened => not_opened_of_mem_scanFrom scanned (List.IsInfix.trans opened piece)

/-- A template is literal text exactly when it has no opening delimiter. -/
theorem parse_eq_text_iff {source : String} (given : source ≠ "") :
    parse source = { parts := [.text source] } ↔ ¬ Opened source.toList := by
  constructor
  · intro literal
    have member : .text source ∈ (parse source).parts := by
      rw [literal]
      exact List.mem_cons_self
    exact not_opened_of_mem_parts member
  · intro plain
    have scanned : scan source = ⟨[.text source.toList 0], none, source.toList.length⟩ := by
      have some : source.toList ≠ [] := by simpa using given
      rw [scan, scanFrom_eq, splitAtOpen_eq_self_iff.mpr plain, scanOpen, consText_eq]
      simp [literal, some]
    rw [parse, scanned]
    exact congrArg (fun text : String => ({ parts := [.text text] } : Parsed)) String.ofList_toList

end Promptline.Template
