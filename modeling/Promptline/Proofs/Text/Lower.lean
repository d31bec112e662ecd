import Promptline.Proofs.Text.Split
import Promptline.Text.Case

/-!
# Lower case

Lower case brings no mark into a text that has none, and leaves the marks of a text where they
are.  What a letter becomes depends on the word around it, and no word goes on beyond an
underscore; so it is the same to cut a text at double underscores before or after.
-/

namespace Promptline.Text

/-! ## Marks -/

section Marks

variable {mark : Char} (positive : 0 < mark.toNat) (low : mark.toNat ≤ 96)

include positive in
/-- Only the number of a mark stands for it. -/
theorem ofNat_ne {n : Nat} (differ : n ≠ mark.toNat) : Char.ofNat n ≠ mark := by
  by_cases valid : n.isValidChar
  · have number : (Char.ofNat n).toNat = n := by
      rw [Char.ofNat, dif_pos valid]
      rfl
    exact fun same => differ (number.symm.trans (congrArg Char.toNat same))
  · rw [Char.ofNat, dif_neg valid]
    rintro rfl
    exact absurd positive (by decide)

include positive low

/-- Letters are mapped to characters from the small letters on. -/
theorem apply_ne {run : CaseRun} (known : run ∈ lowerRuns) {c : Char}
    (inside : run.contains c = true) : run.apply c ≠ mark := by
  have beyond : lowerRuns.all (fun run => 96 < run.first + run.shift) = true := by
    decide +kernel
  have image := of_decide_eq_true (List.all_eq_true.mp beyond run known)
  have first : run.first ≤ c.toNat := by
    simp only [CaseRun.contains, Bool.and_eq_true, decide_eq_true_eq] at inside
    exact inside.1.1
  exact ofNat_ne positive (by omega)

theorem mapRuns_ne {c : Char} (differ : c ≠ mark) : mapRuns lowerRuns c ≠ mark := by
  rw [mapRuns]
  split
  · next run found =>
      have inside := @List.find?_some _ (CaseRun.contains · c) _ _ found
      exact apply_ne positive low (List.mem_of_find?_eq_some found) inside
  · exact differ

omit positive in
theorem toLower_ne {c : Char} (differ : c ≠ mark) : c.toLower ≠ mark := by
  unfold Char.toLower
  split
  · next capital =>
      intro same
      have image := congrArg (·.val.toNat) same
      have first := UInt32.le_iff_toNat_le.mp capital.1
      have last := UInt32.le_iff_toNat_le.mp capital.2
      have bound : mark.val.toNat ≤ 96 := low
      simp at image first last
      omega
  · exact differ

theorem not_mem_lowerChar (before : List Char) {c : Char} (differ : c ≠ mark)
    (after : List Char) : mark ∉ lowerChar before c after := by
  have high {d : Char} (beyond : 96 < d.toNat) : mark ≠ d := by
    rintro rfl
    omega
  unfold lowerChar
  split
  · simpa using (toLower_ne low differ).symm
  · split
    · split <;> simpa using high (by decide)
    · split
      · simpa using ⟨high (by decide), high (by decide)⟩
      · simpa using (mapRuns_ne positive low differ).symm

/-- A text without a mark has none in lower case. -/
theorem not_mem_lowerFrom (before : List Char) {cs : List Char} (absent : mark ∉ cs) :
    mark ∉ lowerFrom before cs := by
  induction cs generalizing before with
  | nil => exact absent
  | cons c cs ih =>
      obtain ⟨differ, later⟩ := not_or.mp (absent ∘ List.mem_cons.mpr)
      rw [lowerFrom, List.mem_append, not_or]
      exact ⟨not_mem_lowerChar positive low before (Ne.symm differ) cs, ih (c :: before) later⟩

end Marks

theorem lowerChar_ne_nil (before : List Char) (c : Char) (after : List Char) :
    lowerChar before c after ≠ [] := by
  unfold lowerChar
  repeat' split
  all_goals exact List.cons_ne_nil _ _

/-- A mark without a case is kept. -/
theorem mem_lowerFrom {mark : Char} (kept : ∀ before after, lowerChar before mark after = [mark])
    (before : List Char) {cs : List Char} (member : mark ∈ cs) : mark ∈ lowerFrom before cs := by
  induction cs generalizing before with
  | nil => cases member
  | cons c cs ih =>
      rw [lowerFrom, List.mem_append]
      obtain rfl | later := List.mem_cons.mp member
      · exact .inl (by simp [kept])
      · exact .inr (ih (c :: before) later)

/-- A text has points in lower case just if it has points. -/
theorem point_mem_lower_iff (text : String) :
    '.' ∈ (lower text).toList ↔ '.' ∈ text.toList := by
  rw [lower, String.toList_ofList]
  constructor
  · exact fun member => Decidable.byContradiction fun absent =>
      not_mem_lowerFrom (by decide) (by decide) [] absent member
  · exact mem_lowerFrom (fun _ _ => rfl) []

/-! ## Underscores -/

/-- No word goes on beyond an underscore. -/
theorem nearestIsCased_append (cs rest : List Char) :
    nearestIsCased (cs ++ '_' :: rest) = nearestIsCased cs := by
  have ends : caseIgnorableSet.contains '_' = false ∧ casedSet.contains '_' = false := by
    decide +kernel
  rw [nearestIsCased, nearestIsCased]
  induction cs with
  | nil =>
      rw [List.nil_append, List.dropWhile_cons_of_neg (Bool.not_eq_true _ ▸ ends.1)]
      exact ends.2
  | cons c cs ih =>
      by_cases ignorable : caseIgnorableSet.contains c = true
      · rw [List.cons_append, List.dropWhile_cons_of_pos ignorable,
          List.dropWhile_cons_of_pos ignorable, ih]
      · rw [List.cons_append, List.dropWhile_cons_of_neg ignorable,
          List.dropWhile_cons_of_neg ignorable]

theorem lowerChar_append_before (before beyond : List Char) (c : Char) (after : List Char) :
    lowerChar (before ++ '_' :: beyond) c after = lowerChar before c after := by
  rw [lowerChar, lowerChar, nearestIsCased_append]

theorem lowerChar_append_after (before : List Char) (c : Char) (after beyond : List Char) :
    lowerChar before c (after ++ '_' :: beyond) = lowerChar before c after := by
  rw [lowerChar, lowerChar, nearestIsCased_append]

/-- What stands before an underscore does not matter behind it. -/
theorem lowerFrom_append_before (before beyond cs : List Char) :
    lowerFrom (before ++ '_' :: beyond) cs = lowerFrom before cs := by
  induction cs generalizing before with
  | nil => rfl
  | cons c cs ih => rw [lowerFrom, lowerFrom, lowerChar_append_before, ← List.cons_append, ih]

theorem lowerFrom_underscore (beyond cs : List Char) :
    lowerFrom ('_' :: beyond) cs = lowerFrom [] cs :=
  lowerFrom_append_before [] beyond cs

/-- A text that does not begin with an underscore does not begin with one in lower case. -/
theorem head?_lowerFrom_ne (before : List Char) {cs : List Char} (other : cs.head? ≠ some '_') :
    (lowerFrom before cs).head? ≠ some '_' := by
  cases cs with
  | nil => exact other
  | cons c cs =>
      have differ : c ≠ '_' := fun same => other (congrArg some same)
      have absent := not_mem_lowerChar (by decide) (by decide) before differ cs
      obtain ⟨d, ds, shape⟩ := List.exists_cons_of_ne_nil (lowerChar_ne_nil before c cs)
      rw [shape] at absent
      rw [lowerFrom, shape]
      rintro same
      obtain rfl := Option.some.inj same
      exact absent List.mem_cons_self

/-! ## Double underscores -/

theorem startsWith_underscores (c : Char) (cs : List Char) :
    startsWith ['_', '_'] (c :: cs) = true ↔ c = '_' ∧ cs.head? = some '_' := by
  constructor
  · intro starts
    obtain ⟨rest, found⟩ := Option.isSome_iff_exists.mp starts
    obtain ⟨rfl, rfl⟩ := List.cons.inj (eq_append_of_afterPrefix? found)
    exact ⟨rfl, rfl⟩
  · rintro ⟨rfl, head⟩
    obtain ⟨rest, rfl⟩ := List.head?_eq_some_iff.mp head
    rfl

theorem splitText_underscores (cs : List Char) :
    splitText ['_', '_'] ('_' :: '_' :: cs) = [] :: splitText ['_', '_'] cs := rfl

theorem splitText_single (cs : List Char) (other : cs.head? ≠ some '_') :
    splitText ['_', '_'] ('_' :: cs) = (splitText ['_', '_'] cs).modifyHead ('_' :: ·) :=
  splitText_cons (Bool.eq_false_iff.mpr fun starts =>
    other ((startsWith_underscores '_' cs).mp starts).2)

/-- Characters other than underscores go to the front of the first field. -/
theorem splitText_append_of_not_mem {front : List Char} (absent : '_' ∉ front) (cs : List Char) :
    splitText ['_', '_'] (front ++ cs) = (splitText ['_', '_'] cs).modifyHead (front ++ ·) := by
  induction front with
  | nil => exact (congrFun List.modifyHead_id _).symm
  | cons c front ih =>
      obtain ⟨differ, later⟩ := not_or.mp (absent ∘ List.mem_cons.mpr)
      have other : startsWith ['_', '_'] (c :: (front ++ cs)) = false :=
        Bool.eq_false_iff.mpr fun starts => differ ((startsWith_underscores c _).mp starts).1.symm
      rw [List.cons_append, splitText_cons other, ih later, List.modifyHead_modifyHead]
      rfl

/-- The first field is the whole text, or an underscore follows it. -/
theorem exists_of_splitText {cs field : List Char} {fields : List (List Char)}
    (cut : splitText ['_', '_'] cs = field :: fields) :
    cs = field ∨ ∃ rest, cs = field ++ '_' :: rest := by
  induction cs generalizing field fields with
  | nil => exact .inl (List.cons.inj cut).1
  | cons c cs ih =>
      by_cases starts : startsWith ['_', '_'] (c :: cs) = true
      · obtain ⟨rfl, head⟩ := (startsWith_underscores c cs).mp starts
        obtain ⟨rest, rfl⟩ := List.head?_eq_some_iff.mp head
        obtain ⟨rfl, -⟩ := List.cons.inj cut
        exact .inr ⟨'_' :: rest, rfl⟩
      · obtain ⟨first, others, later⟩ :=
          List.exists_cons_of_ne_nil (splitTextFrom_ne_nil ['_', '_'] [] 0 cs)
        rw [splitText_cons (Bool.eq_false_iff.mpr starts), splitText, later] at cut
        obtain ⟨rfl, -⟩ := List.cons.inj cut
        obtain whole | ⟨rest, whole⟩ := ih later
        · exact .inl (congrArg (c :: ·) whole)
        · exact .inr ⟨rest, congrArg (c :: ·) whole⟩

/-- In lower case, the fields between double underscores are the fields in lower case; the first one
goes on with the word before the text. -/
theorem splitText_lowerFrom (before cs : List Char) :
    ∃ field fields, splitText ['_', '_'] cs = field :: fields ∧
      splitText ['_', '_'] (lowerFrom before cs) =
        lowerFrom before field :: fields.map (lowerFrom []) := by
  match cs with
  | [] => exact ⟨[], [], rfl, rfl⟩
  | c :: cs =>
    by_cases starts : startsWith ['_', '_'] (c :: cs) = true
    · obtain ⟨rfl, head⟩ := (startsWith_underscores c cs).mp starts
      obtain ⟨cs, rfl⟩ := List.head?_eq_some_iff.mp head
      obtain ⟨field, fields, cut, lowered⟩ := splitText_lowerFrom ('_' :: '_' :: before) cs
      refine ⟨[], field :: fields, by rw [splitText_underscores, cut], ?_⟩
      change splitText ['_', '_'] ('_' :: '_' :: lowerFrom ('_' :: '_' :: before) cs) = _
      rw [splitText_underscores, lowered, lowerFrom_underscore]
      rfl
    · obtain ⟨field, fields, cut, lowered⟩ := splitText_lowerFrom (c :: before) cs
      refine ⟨c :: field, fields, ?_, ?_⟩
      · rw [splitText_cons (Bool.eq_false_iff.mpr starts), cut]
        rfl
      · have alone : lowerChar before c cs = lowerChar before c field := by
          obtain rfl | ⟨rest, rfl⟩ := exists_of_splitText cut
          · rfl
          · exact lowerChar_append_after before c field rest
        rw [lowerFrom, alone, lowerFrom]
        by_cases same : c = '_'
        · subst same
          have other : cs.head? ≠ some '_' := fun head =>
            starts ((startsWith_underscores '_' cs).mpr ⟨rfl, head⟩)
          change splitText ['_', '_'] ('_' :: lowerFrom ('_' :: before) cs) = _
          rw [splitText_single _ (head?_lowerFrom_ne _ other), lowered]
          rfl
        · have absent := not_mem_lowerChar (by decide) (by decide) before same field
          rw [splitText_append_of_not_mem absent, lowered]
          rfl
termination_by cs.length

/-- It is the same to put a text into lower case and to cut it at double underscores, in either
order. -/
theorem splitText_lower (cs : List Char) :
    splitText ['_', '_'] (lowerFrom [] cs) = (splitText ['_', '_'] cs).map (lowerFrom []) := by
  obtain ⟨field, fields, cut, lowered⟩ := splitText_lowerFrom [] cs
  rw [lowered, cut, List.map_cons]

end Promptline.Text
