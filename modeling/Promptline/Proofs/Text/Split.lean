import Promptline.Text.Pieces

/-!
# Texts cut into fields

There is always a field, and fields have no characters but those of the text.  A field ends at the
first separator, or with the text if there is none.
-/

namespace Promptline.Text

/-! ## Fields -/

theorem splitTextFrom_ne_nil (separator current : List Char) (skip : Nat) (cs : List Char) :
    splitTextFrom separator current skip cs ≠ [] := by
  induction cs generalizing current skip with
  | nil => cases skip <;> simp [splitTextFrom]
  | cons c cs ih =>
      cases skip with
      | succ skip => exact ih current skip
      | zero =>
          rw [splitTextFrom]
          split
          · exact List.cons_ne_nil _ _
          · exact ih (c :: current) 0

/-- The characters before a text stand at the front of its first field. -/
theorem splitTextFrom_eq_modifyHead (separator current : List Char) (skip : Nat) (cs : List Char) :
    splitTextFrom separator current skip cs =
      (splitTextFrom separator [] skip cs).modifyHead (current.reverse ++ ·) := by
  induction cs generalizing current skip with
  | nil => cases skip <;> simp [splitTextFrom]
  | cons c cs ih =>
      cases skip with
      | succ skip => exact ih current skip
      | zero =>
          rw [splitTextFrom, splitTextFrom]
          split
          · simp
          · rw [ih (c :: current), ih [c], List.modifyHead_modifyHead]
            congr 1
            funext field
            simp

theorem splitText_cons {separator : List Char} {c : Char} {cs : List Char}
    (other : startsWith separator (c :: cs) = false) :
    splitText separator (c :: cs) = (splitText separator cs).modifyHead (c :: ·) := by
  rw [splitText, splitTextFrom, other, if_neg Bool.false_ne_true, splitTextFrom_eq_modifyHead]
  rfl

/-- A text without separators is one field. -/
theorem splitText_of_not_occursIn {separator cs : List Char}
    (absent : occursIn separator cs = false) : splitText separator cs = [cs] := by
  induction cs with
  | nil => rfl
  | cons c cs ih =>
      obtain ⟨other, later⟩ := Bool.or_eq_false_iff.mp absent
      rw [splitText_cons other, ih later]
      rfl

theorem mem_of_mem_splitTextFrom {separator current cs field : List Char} {skip : Nat} {c : Char}
    (isField : field ∈ splitTextFrom separator current skip cs) (member : c ∈ field) :
    c ∈ current ∨ c ∈ cs := by
  induction cs generalizing current skip with
  | nil =>
      have whole : field = current.reverse := by cases skip <;> simpa [splitTextFrom] using isField
      exact .inl (by simpa [whole] using member)
  | cons d cs ih =>
      cases skip with
      | succ skip => exact (ih isField).imp_right (List.mem_cons_of_mem d)
      | zero =>
          rw [splitTextFrom] at isField
          split at isField
          · obtain rfl | later := List.mem_cons.mp isField
            · exact .inl (List.mem_reverse.mp member)
            · exact .inr ((ih later).elim nofun (List.mem_cons_of_mem d))
          · obtain held | later := ih isField
            · exact (List.mem_cons.mp held).elim (fun same => .inr (same ▸ List.mem_cons_self)) .inl
            · exact .inr (List.mem_cons_of_mem d later)

theorem mem_of_mem_splitText {separator cs field : List Char} {c : Char}
    (isField : field ∈ splitText separator cs) (member : c ∈ field) : c ∈ cs :=
  (mem_of_mem_splitTextFrom isField member).elim nofun id

theorem splitOn_ne_nil (separator : Char) (cs : List Char) : splitOn separator cs ≠ [] := by
  induction cs with
  | nil => exact List.cons_ne_nil _ _
  | cons c cs ih =>
      rw [splitOn]
      repeat' split
      all_goals exact List.cons_ne_nil _ _

theorem splitOn_of_not_mem {separator : Char} {cs : List Char} (absent : separator ∉ cs) :
    splitOn separator cs = [cs] := by
  induction cs with
  | nil => rfl
  | cons c cs ih =>
      obtain ⟨differ, later⟩ := not_or.mp (absent ∘ List.mem_cons.mpr)
      rw [splitOn, if_neg (Ne.symm differ), ih later]

/-- The fields of a text end and begin at each of its separators. -/
theorem splitOn_append_cons (separator : Char) (front rest : List Char) :
    splitOn separator (front ++ separator :: rest) =
      splitOn separator front ++ splitOn separator rest := by
  induction front with
  | nil => simp [splitOn]
  | cons c front ih =>
      obtain ⟨field, fields, cut⟩ := List.exists_cons_of_ne_nil (splitOn_ne_nil separator front)
      rw [List.cons_append, splitOn, splitOn, ih, cut]
      split <;> rfl

/-- What stands before the first separator is the first field. -/
theorem splitOn_append {separator : Char} {field : List Char} (absent : separator ∉ field)
    (cs : List Char) :
    splitOn separator (field ++ separator :: cs) = field :: splitOn separator cs := by
  rw [splitOn_append_cons, splitOn_of_not_mem absent, List.singleton_append]

/-- A text with a separator has several fields. -/
theorem two_le_length_splitOn {separator : Char} {cs : List Char} (member : separator ∈ cs) :
    2 ≤ (splitOn separator cs).length := by
  obtain ⟨field, rest, rfl, absent⟩ := List.eq_append_cons_of_mem member
  rw [splitOn_append absent, List.length_cons]
  have further := List.length_pos_iff.mpr (splitOn_ne_nil separator rest)
  omega

theorem split_ne_nil (separator : Char) (text : String) : split separator text ≠ [] :=
  mt List.map_eq_nil_iff.mp (splitOn_ne_nil separator text.toList)

end Promptline.Text
