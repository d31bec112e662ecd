import Promptline.Proofs.Document.Toml.Reading
import Promptline.Proofs.Expression.LongInteger

/-!
# Documents beyond the limits of the reader

A document that assigns nothing but an integer with more digits than the limit is well-formed, and
cannot be read.  Whatever room there is for nested calls, some opening brackets are too many for it.
-/

namespace Promptline.Toml

theorem digitsLength_of_digits {cs : List Char} (all : ∀ c ∈ cs, c.isDigit = true) :
    digitsLength Char.isDigit cs = cs.length := by
  fun_induction digitsLength Char.isDigit cs with
  | case1 => rfl
  | case2 cs => exact absurd (all '_' List.mem_cons_self) (by decide)
  | case3 c _ digit => rfl
  | case4 c _ other => exact absurd (all c List.mem_cons_self) other
  | case5 c d cs digit next ih =>
      exact absurd (all '_' (List.mem_cons_of_mem c List.mem_cons_self)) (by decide)
  | case6 c d cs => exact absurd (all '_' (List.mem_cons_of_mem c List.mem_cons_self)) (by decide)
  | case7 c d cs => exact absurd (all '_' (List.mem_cons_of_mem c List.mem_cons_self)) (by decide)
  | case8 c cs _ _ _ digit ih =>
      have later := ih fun d member => all d (List.mem_cons_of_mem c member)
      rw [later, List.length_cons]
      omega
  | case9 c cs _ _ _ other => exact absurd (all c List.mem_cons_self) other

/-- The digit one, repeated; no date and no time of day starts with five of them. -/
def ones (count : Nat) : List Char :=
  '1' :: '1' :: '1' :: '1' :: '1' :: List.replicate count '1'

variable {count : Nat}

theorem eq_of_mem_ones {c : Char} (member : c ∈ ones count) : c = '1' := by
  have replicated : ones count = List.replicate (count + 5) '1' := rfl
  rw [replicated] at member
  exact List.eq_of_mem_replicate member

theorem unifyBreaks_of_not_mem {cs : List Char} (unbroken : '\r' ∉ cs) : unifyBreaks cs = cs := by
  induction cs using unifyBreaks.induct with
  | case1 => simp at unbroken
  | case2 c cs other ih =>
      rw [unifyBreaks.eq_2 _ _ other, ih fun member => unbroken (List.mem_cons_of_mem _ member)]
  | case3 => rfl

theorem decimal?_ones (long : Number.digitLimit < count + 5) :
    decimal? (ones count) = some (.error (.tooLong (.reading (count + 5)))) := by
  have all : ∀ c ∈ ones count, c = '1' := fun c member => eq_of_mem_ones member
  have length : (ones count).length = count + 5 := by simp [ones]
  have integer : Lexer.IsInteger (ones count) (count + 5) :=
    ⟨_, .inl rfl, fun c member => all c member ▸ rfl, length⟩
  have tooLong := (integer.readInteger_eq_tooLong_iff (count + 5)).mpr ⟨rfl, long⟩
  have whole : wholeLength (ones count) = count + 5 :=
    (digitsLength_of_digits fun c member => all c member ▸ rfl).trans length
  have unsigned : Text.signLength (ones count) = 0 := rfl
  have entire : (ones count).take (count + 5) = ones count := List.take_of_length_le length.le
  have nothing : (ones count).drop (count + 5) = [] := List.drop_of_length_le length.le
  unfold decimal?
  simp [unsigned, whole, entire, nothing, fractionLength, exponentLength, tooLong]

theorem scalar_ones (long : Number.digitLimit < count + 5) :
    scalar (ones count) = .error (.tooLong (.reading (count + 5))) := by
  have string : string? (ones count) = none := rfl
  have truth : truth? (ones count) = none := rfl
  have moment : moment? (ones count) = none := rfl
  have clock : clock? (ones count) = none := rfl
  have number : number? (ones count) = decimal? (ones count) := rfl
  rw [scalar, string, truth, moment, clock, number, decimal?_ones long]
  rfl

/-- A statement that fails ends the reading. -/
theorem statements_of_error {room fuel : Nat} {state : State} {c : Char} {cs line : List Char}
    {fault : DecodeFault} (start : skip cs = c :: line) (other : c ≠ '\n')
    (failed : statement room state (c :: line) = .error fault) :
    statements room (fuel + 1) state cs = .error fault := by
  rw [statements]
  split
  · next nothing =>
      rw [start] at nothing
      cases nothing
  · next rest broken =>
      obtain ⟨rfl, -⟩ := List.cons.inj (start.symm.trans broken)
      exact absurd rfl other
  · rw [start, failed]
    rfl

/-- A document that assigns a value that cannot be read cannot be read either. -/
theorem read_of_error {room : Nat} {cs : List Char} {fault : DecodeFault} (unbroken : '\r' ∉ cs)
    (start : skip cs = cs) (failed : value (2 * cs.length + 1) room cs = .error fault) :
    read room (String.ofList ('x' :: '=' :: cs)) = .error fault := by
  have kept : unifyBreaks ('x' :: '=' :: cs) = 'x' :: '=' :: cs :=
    unifyBreaks_of_not_mem (by simpa using unbroken)
  have key : key ('x' :: '=' :: cs) = .ok (["x"], '=' :: cs) := rfl
  have first : statement room {} ('x' :: '=' :: cs) = .error fault := by
    rw [statement, key]
    · simp only [bind, Except.bind, start, failed]
    all_goals simp
  have begun : skip ('x' :: '=' :: cs) = 'x' :: '=' :: cs := rfl
  have fails : statements room (('x' :: '=' :: cs).length + 1) {} ('x' :: '=' :: cs) =
      .error fault :=
    statements_of_error begun (by decide) first
  rw [read, replaceAll_breaks, String.toList_ofList, kept]
  simp only [fails]
  rfl

theorem exists_tooLong (room : Nat) : ∃ text limit, read room text = .error (.tooLong limit) := by
  let count := Number.digitLimit
  have long : Number.digitLimit < count + 5 := Nat.lt_add_of_pos_right (by decide)
  have value : value (2 * (ones count).length + 1) room (ones count) = scalar (ones count) := by
    rw [ones, Toml.value] <;> simp
  have unbroken : '\r' ∉ ones count := fun member => by
    have break_one : '\r' = '1' := eq_of_mem_ones member
    cases break_one
  exact ⟨_, _, read_of_error unbroken rfl (value.trans (scalar_ones long))⟩

/-- Opening brackets are too deep as soon as the calls for them are more than there is room for. -/
theorem value_brackets {count room fuel : Nat} (deep : room < listCalls * count)
    (enough : 2 * count ≤ fuel) :
    value fuel room (List.replicate count '[') = .error .tooDeep := by
  induction count generalizing room fuel with
  | zero => simp at deep
  | succ count ih =>
      -- Each bracket takes one step for the list and one for its first item.
      obtain ⟨fuel, rfl⟩ : ∃ less, fuel = less + 2 := ⟨fuel - 2, by omega⟩
      rw [List.replicate_succ, value]
      by_cases here : listCalls ≤ room
      · have later : value fuel (room - listCalls) (List.replicate count '[') = .error .tooDeep :=
          ih (by rw [Nat.mul_succ] at deep; omega) (by omega)
        have entered : enter listCalls room = .ok (room - listCalls) := if_pos here
        cases count with
        | zero => omega
        | succ count =>
            have skipped : skipLines (List.replicate (count + 1) '[').length
                (List.replicate (count + 1) '[') = .ok (List.replicate (count + 1) '[') := by
              simp [List.replicate_succ, skipLines, isSpaceOrBreak]
            rw [List.replicate_succ] at later skipped ⊢
            simp only [entered, skipped, bind, Except.bind]
            split
            · next closed => cases closed
            · simp only [items, later, bind, Except.bind]
      · have refused : enter listCalls room = .error .tooDeep := if_neg here
        rw [refused]
        rfl

theorem exists_tooDeep (room : Nat) : ∃ text, read room text = .error .tooDeep := by
  let cs := List.replicate (room + 1) '['
  have length : cs.length = room + 1 := List.length_replicate
  have start : skip cs = cs := by
    simp only [cs, skip, List.replicate_succ]
    rfl
  refine ⟨_, read_of_error (by simp [cs]) start (value_brackets ?_ ?_)⟩
  · rw [listCalls]
    omega
  · omega

end Promptline.Toml
