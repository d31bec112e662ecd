import Mathlib.Data.List.DropRight
import Promptline.Text.Blank
import Promptline.Text.Pieces

/-!
# Runs of characters

The characters of a class at the front of a text, and those at both of its ends.
-/

namespace Promptline

namespace Text

variable {p : Char → Bool}

theorem take_extent (p : Char → Bool) (cs : List Char) :
    cs.take (extent p cs) = cs.takeWhile p :=
  (List.prefix_iff_eq_take.mp (List.takeWhile_prefix p)).symm

/-- What stops a class is the next character. -/
theorem take_extent_succ {cs : List Char} (stops : extent p cs < cs.length) :
    ∃ c, p c = false ∧ cs.take (extent p cs + 1) = cs.takeWhile p ++ [c] := by
  have split : cs.takeWhile p ++ cs.dropWhile p = cs := List.takeWhile_append_dropWhile
  cases tail : cs.dropWhile p with
  | nil =>
      have size := congrArg List.length split
      rw [tail, List.append_nil] at size
      rw [extent] at stops
      omega
  | cons c rest =>
      have other : p c = false := by
        have head := @List.head_dropWhile_not _ p cs (by simp [tail])
        simpa [tail] using head
      have front := @List.take_length_add_append _ (cs.takeWhile p) (c :: rest) 1
      rw [tail] at split
      rw [split] at front
      exact ⟨c, other, front⟩

theorem drop_extent (p : Char → Bool) (cs : List Char) :
    cs.drop (extent p cs) = cs.dropWhile p := by
  have behind := @List.drop_left _ (cs.takeWhile p) (cs.dropWhile p)
  rwa [List.takeWhile_append_dropWhile] at behind

/-- Characters behind one of another class do not count. -/
theorem extent_append {rest : List Char} (stops : ∀ c ∈ rest.head?, p c = false)
    (cs : List Char) : extent p (cs ++ rest) = extent p cs := by
  rw [extent, extent, List.takeWhile_append]
  split
  · next all =>
      cases rest with
      | nil => simp [all]
      | cons c rest => simp [stops c rfl, all]
  · rfl

/-- Characters of the class are dropped from the end back to the first one of another class. -/
theorem dropEndWhile_append {front : List Char} (stops : ∀ c ∈ front.getLast?, p c = false)
    (back : List Char) : dropEndWhile p (front ++ back) = front ++ dropEndWhile p back := by
  have kept : front.reverse.dropWhile p = front.reverse := by
    rw [← List.head?_reverse] at stops
    cases reversed : front.reverse with
    | nil => rfl
    | cons c cs => simp [stops c (by rw [reversed]; rfl)]
  rw [dropEndWhile, dropEndWhile, List.reverse_append, List.dropWhile_append]
  split
  · next nothing => simp [kept, List.isEmpty_iff.mp nothing]
  · simp

theorem dropEndWhile_of_forall {cs : List Char} (all : ∀ c ∈ cs, p c = true) :
    dropEndWhile p cs = [] := by
  have reversed : ∀ c ∈ cs.reverse, p c = true := fun c member => all c (List.mem_reverse.mp member)
  rw [dropEndWhile, List.dropWhile_eq_nil_iff.mpr reversed, List.reverse_nil]

/-- What is trimmed stands between characters of the class. -/
theorem exists_margins (p : Char → Bool) (cs : List Char) :
    ∃ front back, cs = front ++ trimWhile p cs ++ back ∧
      (∀ c ∈ front, p c = true) ∧ ∀ c ∈ back, p c = true := by
  refine ⟨cs.takeWhile p, (cs.dropWhile p).rtakeWhile p, ?_, ?_, ?_⟩
  · rw [List.append_assoc]
    change cs = cs.takeWhile p ++ ((cs.dropWhile p).rdropWhile p ++ _)
    rw [List.rdropWhile_append_rtakeWhile, List.takeWhile_append_dropWhile]
  · exact fun c member => List.mem_takeWhile_imp member
  · exact fun c member => List.mem_rtakeWhile_imp member

/-- Characters of the class at either end make no difference to what is trimmed. -/
theorem trimWhile_margins {front back : List Char} (before : ∀ c ∈ front, p c = true)
    (behind : ∀ c ∈ back, p c = true) (cs : List Char) :
    trimWhile p (front ++ cs ++ back) = trimWhile p cs := by
  have reversed : ∀ c ∈ back.reverse, p c = true := fun c member =>
    behind c (List.mem_reverse.mp member)
  rw [trimWhile, trimWhile, List.append_assoc, List.dropWhile_append_of_pos before,
    List.dropWhile_append]
  split
  · next nothing =>
      rw [List.isEmpty_iff.mp nothing, List.dropWhile_eq_nil_iff.mpr behind]
  · rw [dropEndWhile, dropEndWhile, List.reverse_append, List.dropWhile_append_of_pos reversed]

theorem trimWhile_dropEndWhile (cs : List Char) :
    trimWhile p (dropEndWhile p cs) = trimWhile p cs := by
  have behind : ∀ c ∈ cs.rtakeWhile p, p c = true := fun c member => List.mem_rtakeWhile_imp member
  have same := @trimWhile_margins p [] _ (by simp) behind (cs.rdropWhile p)
  rw [List.nil_append, List.rdropWhile_append_rtakeWhile] at same
  exact same.symm

theorem trimWhile_trimWhile (cs : List Char) : trimWhile p (trimWhile p cs) = trimWhile p cs := by
  obtain ⟨front, back, split, before, behind⟩ := exists_margins p cs
  have same := trimWhile_margins before behind (trimWhile p cs)
  rw [← split] at same
  exact same.symm

theorem trim_trim (source : String) : trim (trim source) = trim source := by
  rw [trim, trim, String.toList_ofList, trimBlank, trimBlank, trimWhile_trimWhile]

end Text

end Promptline
