import Promptline.Moment.Layout
import Promptline.Proofs.Text.Run

/-!
# The year in a layout

A layout is cut into pieces from left to right, so a part of the reference moment is cut in two if
a spelling ends in it that begins before it.  No spelling does that to the year, except the one of
the day with a blank before it.
-/

namespace Promptline.Moment.Layout

/-- Characters of a text, each with the one behind it. -/
def neighbours (cs : List Char) : List (Char × Char) :=
  cs.zip cs.tail

/-- A spelling has the first character right before the second one. -/
def Adjoins (c d : Char) : Prop :=
  ∃ entry ∈ spellings, (c, d) ∈ neighbours entry.1.toList

theorem neighbours_cons {pair : Char × Char} {cs : List Char} (member : pair ∈ neighbours cs)
    (c : Char) : pair ∈ neighbours (c :: cs) := by
  cases cs with
  | nil => cases member
  | cons d cs => exact List.mem_cons_of_mem _ member

/-! ## Pieces at the end of a text -/

section End

variable {front : List Char} {d : Char}

/-- A text goes on to start with the same spellings if none of them goes on behind its end. -/
theorem startsWith_append {lead : List Char} (filled : front ≠ [])
    (apart : ∀ c ∈ front.getLast?, (c, d) ∉ neighbours lead) (rest : List Char) :
    Text.startsWith lead (front ++ d :: rest) = Text.startsWith lead front := by
  induction front generalizing lead with
  | nil => exact absurd rfl filled
  | cons c front ih =>
      cases lead with
      | nil => rfl
      | cons p lead =>
          by_cases same : p = c
          · subst same
            simp only [Text.startsWith, Text.afterPrefix?, List.cons_append, if_true]
            cases front with
            | nil =>
                cases lead with
                | nil => rfl
                | cons q lead =>
                    have differ : q ≠ d := by
                      rintro rfl
                      exact apart p rfl List.mem_cons_self
                    simp [Text.afterPrefix?, differ]
            | cons e front =>
                refine ih (List.cons_ne_nil e front) fun c last member => ?_
                exact apart c last (neighbours_cons member p)
          · simp [Text.startsWith, Text.afterPrefix?, same]

theorem firstPart?_append {parts : List (String × Part)} (filled : front ≠ [])
    (apart : ∀ entry ∈ parts, ∀ c ∈ front.getLast?, (c, d) ∉ neighbours entry.1.toList)
    (rest : List Char) : firstPart? parts (front ++ d :: rest) = firstPart? parts front := by
  rw [firstPart?, firstPart?]
  congr 1
  induction parts with
  | nil => rfl
  | cons entry parts ih =>
      obtain ⟨first, others⟩ := List.forall_mem_cons.mp apart
      rw [List.find?_cons, List.find?_cons, startsWith_append filled first, ih others]

/-- A fraction is written with zeros or with nines alone. -/
theorem fraction?_append (filled : front ≠ []) (plain : d ≠ '0' ∧ d ≠ '9') (before : Option Char)
    (rest : List Char) : fraction? before (front ++ d :: rest) = fraction? before front := by
  match front with
  | [] => exact absurd rfl filled
  | [separator] => simp [fraction?, plain]
  | separator :: c :: front =>
      simp only [List.cons_append, fraction?]
      split
      · next isFraction =>
        obtain ⟨-, -, digit⟩ := isFraction
        have stops : ∀ e ∈ (d :: rest).head?, (e == c) = false := by
          rintro e same
          obtain rfl := Option.some.inj same
          rw [beq_eq_false_iff_ne]
          obtain rfl | rfl := digit
          · exact plain.1
          · exact plain.2
        have digits := Text.extent_append stops (c :: front)
        rw [Text.extent, Text.extent, List.cons_append] at digits
        rw [digits]
      · rfl

theorem piece?_append (filled : front ≠ []) (plain : d ≠ '0' ∧ d ≠ '9')
    (apart : ∀ c ∈ front.getLast?, ¬ Adjoins c d) (before : Option Char) (rest : List Char) :
    piece? before (front ++ d :: rest) = piece? before front := by
  have long : ∀ entry ∈ spellings, ∀ c ∈ front.getLast?, (c, d) ∉ neighbours entry.1.toList :=
    fun entry member c last adjoins => apart c last ⟨entry, member, adjoins⟩
  have alone : ∀ entry ∈ shortSpellings, neighbours entry.1.toList = [] := by decide
  have short : ∀ entry ∈ shortSpellings, ∀ c ∈ front.getLast?,
      (c, d) ∉ neighbours entry.1.toList := by
    intro entry member c _ adjoins
    rw [alone entry member] at adjoins
    cases adjoins
  rw [piece?, piece?, firstPart?_append filled long, fraction?_append filled plain,
    firstPart?_append filled short]

theorem firstPart?_length {parts : List (String × Part)}
    (spelled : ∀ entry ∈ parts, 0 < entry.1.length) {cs : List Char} {piece : Piece} {length : Nat}
    (found : firstPart? parts cs = some (piece, length)) : 0 < length ∧ length ≤ cs.length := by
  obtain ⟨entry, here, same⟩ := Option.map_eq_some_iff.mp found
  obtain ⟨-, rfl⟩ := Prod.mk.inj same
  refine ⟨spelled entry (List.mem_of_find?_eq_some here), ?_⟩
  have starts := List.find?_some here
  obtain ⟨rest, after⟩ := Option.isSome_iff_exists.mp starts
  rw [Text.eq_append_of_afterPrefix? after, List.length_append, String.length_toList]
  exact Nat.le_add_right _ _

theorem fraction?_length {before : Option Char} {cs : List Char} {piece : Piece} {length : Nat}
    (found : fraction? before cs = some (piece, length)) : 0 < length ∧ length ≤ cs.length := by
  unfold fraction? at found
  split at found
  · next separator c cs =>
    split at found
    · obtain ⟨-, rfl⟩ := Prod.mk.inj (Option.some.inj found)
      have bound := Text.extent_le_length (· == c) (c :: cs)
      exact ⟨Nat.succ_pos _, Nat.succ_le_succ bound⟩
    · cases found
  · cases found

/-- A piece is not empty, and it lies in the text. -/
theorem piece?_length {before : Option Char} {cs : List Char} {piece : Piece} {length : Nat}
    (found : piece? before cs = some (piece, length)) : 0 < length ∧ length ≤ cs.length := by
  have spelled : ∀ entry ∈ spellings ++ shortSpellings, 0 < entry.1.length := by decide
  obtain ⟨long, short⟩ := List.forall_mem_append.mp spelled
  unfold piece? at found
  cases first : firstPart? spellings cs with
  | some entry =>
      rw [first] at found
      exact firstPart?_length long (first.trans found)
  | none =>
      cases second : fraction? before cs with
      | some entry =>
          rw [first, second] at found
          exact fraction?_length (second.trans found)
      | none =>
          rw [first, second] at found
          exact firstPart?_length short found

end End

/-! ## Pieces of a layout -/

/-- The character before what follows a text, given the one before the text. -/
def lastOf (before : Option Char) (cs : List Char) : Option Char :=
  cs.foldl (fun _ c => some c) before

/-- A text is cut into the same pieces, whatever follows it, if no spelling and no fraction goes on
behind its end. -/
theorem piecesFrom_append {front : List Char} {d : Char} (plain : d ≠ '0' ∧ d ≠ '9')
    (apart : ∀ c ∈ front.getLast?, ¬ Adjoins c d) (before : Option Char) {skip : Nat}
    (inside : skip ≤ front.length) (rest : List Char) :
    piecesFrom before skip (front ++ d :: rest) =
      piecesFrom before skip front ++ piecesFrom (lastOf before front) 0 (d :: rest) := by
  induction front generalizing before skip with
  | nil =>
      obtain rfl := Nat.le_zero.mp inside
      rfl
  | cons c front ih =>
      have later : ∀ e ∈ front.getLast?, ¬ Adjoins e d := by
        intro e last
        refine apart e ?_
        cases front with
        | nil => cases last
        | cons f front => exact last
      have go (skip : Nat) (inside : skip ≤ front.length) := ih later (some c) inside
      cases skip with
      | succ skip => exact go skip (Nat.le_of_succ_le_succ inside)
      | zero =>
          have same := piece?_append (List.cons_ne_nil c front) plain apart before rest
          rw [List.cons_append] at same
          rw [List.cons_append, piecesFrom, piecesFrom, same]
          cases found : piece? before (c :: front) with
          | none => exact congrArg (Piece.literal c :: ·) (go 0 (Nat.zero_le _))
          | some entry =>
              obtain ⟨piece, length⟩ := entry
              obtain ⟨positive, bound⟩ := piece?_length found
              rw [List.length_cons] at bound
              exact congrArg (piece :: ·) (go (length - 1) (by omega))

/-- Only a five is remembered, for the fraction that may follow it. -/
theorem piecesFrom_congr {first second : Option Char}
    (same : first = some '5' ↔ second = some '5') (cs : List Char) :
    piecesFrom first 0 cs = piecesFrom second 0 cs := by
  cases cs with
  | nil => rfl
  | cons c cs =>
      have fractions : fraction? first (c :: cs) = fraction? second (c :: cs) := by
        cases cs <;> simp only [fraction?, same]
      rw [piecesFrom, piecesFrom, piece?, piece?, fractions]

theorem piecesFrom_year (before : Option Char) (back : List Char) :
    piecesFrom before 0 ('2' :: '0' :: '0' :: '6' :: back) =
      .part .year :: piecesFrom none 0 back :=
  congrArg (Piece.part .year :: ·) (piecesFrom_congr (by decide) back)

/-- Behind an underscore, the first digit of the year is taken for a day, and the last two digits
for a year of their own. -/
theorem piecesFrom_blankDay (before : Option Char) (back : List Char) :
    piecesFrom before 0 ('_' :: '2' :: '0' :: '0' :: '6' :: back) =
      .part .dayBlank :: .literal '0' :: .part .yearShort :: piecesFrom none 0 back :=
  congrArg (Piece.part .dayBlank :: .literal '0' :: .part .yearShort :: ·)
    (piecesFrom_congr (by decide) back)

/-- A two in a spelling is its first character, or it stands behind a zero or an underscore. -/
theorem eq_of_adjoins_two {c : Char} (adjoins : Adjoins c '2') : c = '0' ∨ c = '_' := by
  have table : ∀ entry ∈ spellings, ∀ pair ∈ neighbours entry.1.toList,
      pair.2 = '2' → pair.1 = '0' ∨ pair.1 = '_' := by decide +kernel
  obtain ⟨entry, member, inside⟩ := adjoins
  exact table entry member _ inside rfl

/-- An underscore in a spelling is its first character. -/
theorem not_adjoins_underscore (c : Char) : ¬ Adjoins c '_' := by
  have table : ∀ entry ∈ spellings, ∀ pair ∈ neighbours entry.1.toList, pair.2 ≠ '_' := by
    decide +kernel
  rintro ⟨entry, member, inside⟩
  exact table entry member _ inside rfl

/-! ## What a layout shows -/

/-- What pieces show one after the other. -/
def shown (m : Moment) (pieces : List Piece) : String :=
  String.join (pieces.map (·.text m))

theorem shown_append (m : Moment) (front back : List Piece) :
    shown m (front ++ back) = shown m front ++ shown m back := by
  simp [shown]

theorem shown_cons (m : Moment) (piece : Piece) (pieces : List Piece) :
    shown m (piece :: pieces) = piece.text m ++ shown m pieces := by
  simp [shown]

theorem format_eq (m : Moment) (layout : String) :
    format m layout = shown m (piecesFrom none 0 layout.toList) := rfl

/-- The text of a day begins, and not with an underscore. -/
theorem exists_dayBlank (m : Moment) :
    ∃ c cs, (Part.dayBlank.text m).toList = c :: cs ∧ c ≠ '_' := by
  rw [Part.text, String.toList_ofList]
  have filled : Text.padLeft 2 ' ' (Nat.toDigits 10 m.day) ≠ [] := by
    rw [Text.padLeft]
    exact List.append_ne_nil_of_right_ne_nil _ Nat.toDigits_ne_nil
  obtain ⟨c, cs, shape⟩ := List.exists_cons_of_ne_nil filled
  refine ⟨c, cs, shape, ?_⟩
  rintro rfl
  have member : '_' ∈ Text.padLeft 2 ' ' (Nat.toDigits 10 m.day) := shape ▸ List.mem_cons_self
  obtain padding | digit := List.mem_append.mp member
  · exact absurd (List.eq_of_mem_replicate padding) (by decide)
  · exact absurd (Nat.isDigit_of_mem_toDigits (by decide) (by decide) digit) (by decide)

theorem format_year (m : Moment) {front : String}
    (ends : ∀ c ∈ front.toList.getLast?, c.isDigit = false)
    (other : front.toList.getLast? ≠ some '_') (back : String) :
    format m (front ++ "2006" ++ back) =
      format m front ++ Text.zeroPadded 4 m.year ++ format m back := by
  have apart : ∀ c ∈ front.toList.getLast?, ¬ Adjoins c '2' := by
    rintro c last adjoins
    obtain rfl | rfl := eq_of_adjoins_two adjoins
    · cases ends '0' last
    · exact other last
  have whole : (front ++ "2006" ++ back).toList =
      front.toList ++ '2' :: '0' :: '0' :: '6' :: back.toList := by simp
  rw [format_eq, whole, piecesFrom_append (by decide) apart none (Nat.zero_le _), piecesFrom_year,
    shown_append, shown_cons, ← String.append_assoc]
  rfl

theorem format_behind_underscore (m : Moment) (front back : String) :
    format m (front ++ "_" ++ "2006" ++ back) =
      format m front ++ (Part.dayBlank.text m ++ "0" ++ Part.yearShort.text m) ++
        format m back := by
  have apart : ∀ c ∈ front.toList.getLast?, ¬ Adjoins c '_' := fun c _ => not_adjoins_underscore c
  have whole : (front ++ "_" ++ "2006" ++ back).toList =
      front.toList ++ '_' :: '2' :: '0' :: '0' :: '6' :: back.toList := by simp
  rw [format_eq, whole, piecesFrom_append (by decide) apart none (Nat.zero_le _),
    piecesFrom_blankDay, shown_append, shown_cons, shown_cons, shown_cons]
  simp only [String.append_assoc]
  rfl

theorem format_underscore (m : Moment) (front : String) :
    format m (front ++ "_") = format m front ++ "_" := by
  have apart : ∀ c ∈ front.toList.getLast?, ¬ Adjoins c '_' := fun c _ => not_adjoins_underscore c
  have whole : (front ++ "_").toList = front.toList ++ ['_'] := by simp
  rw [format_eq, whole, piecesFrom_append (by decide) apart none (Nat.zero_le _), shown_append]
  rfl

/-- Behind anything but a digit, the year in a layout is shown as the year, and what stands before
and behind it is shown as if alone, just if there is no underscore before it.  An underscore and the
first digit of the year make up a day, and then the year is cut in two. -/
theorem year_stands_alone_iff (m : Moment) {front : String}
    (ends : ∀ c ∈ front.toList.getLast?, c.isDigit = false) (back : String) :
    (format m (front ++ "2006" ++ back) =
        format m front ++ Text.zeroPadded 4 m.year ++ format m back ↔
      front.toList.getLast? ≠ some '_') ∧
    ∀ rest, front = rest ++ "_" → format m (front ++ "2006" ++ back) =
      format m rest ++ (Part.dayBlank.text m ++ "0" ++ Part.yearShort.text m) ++ format m back := by
  refine ⟨⟨fun same last => ?_, fun other => format_year m ends other back⟩, ?_⟩
  · obtain ⟨cs, split⟩ := List.getLast?_eq_some_iff.mp last
    obtain rfl : front = String.ofList cs ++ "_" := by
      rw [← String.toList_inj, split]
      simp
    rw [format_behind_underscore, format_underscore] at same
    simp only [← String.toList_inj, String.toList_append, List.append_assoc,
      List.append_cancel_left_eq] at same
    -- Behind the front a day is shown where the underscore would have to be.
    obtain ⟨c, day, shape, differ⟩ := exists_dayBlank m
    rw [shape] at same
    exact differ (List.cons.inj same).1
  · rintro rest rfl
    exact format_behind_underscore m rest back

/-- Neither the seconds before the year nor the zeros behind it are taken for a fraction. -/
theorem year_between_seconds_and_zeros :
    let m : Moment := { year := 824, month := 3, day := 9, second := 7 }
    let front := "Jan 05."
    (∀ c ∈ front.toList.getLast?, c.isDigit = false) ∧ front.toList.getLast? ≠ some '_' ∧
      format m (front ++ "2006" ++ ".000") = "Mar 07." ++ "0824" ++ ".000" := by
  intro m front
  have last : front.toList.getLast? = some '.' := by decide
  have ends : ∀ c ∈ front.toList.getLast?, c.isDigit = false := by
    rw [last]
    rintro c ⟨⟩
    rfl
  have other : front.toList.getLast? ≠ some '_' := by
    rw [last]
    decide
  have before : format m front = "Mar 07." := by decide +kernel
  have year : Text.zeroPadded 4 m.year = "0824" := by decide +kernel
  have behind : format m ".000" = ".000" := by decide +kernel
  have whole := (year_stands_alone_iff m ends ".000").1.mpr other
  rw [before, year, behind] at whole
  exact ⟨ends, other, whole⟩

theorem year_is_not_always_whole :
    ¬ ∀ (m : Moment) (front back : String),
      (∀ c ∈ front.toList.getLast?, c.isDigit = false) →
      format m (front ++ "2006" ++ back) =
        format m front ++ Text.zeroPadded 4 m.year ++ format m back := by
  intro always
  have ends : ∀ c ∈ "_".toList.getLast?, c.isDigit = false := by
    rintro c ⟨⟩
    rfl
  have same := always { year := 2024, month := 3, day := 9 } "_" "" ends
  revert same
  decide

end Promptline.Moment.Layout
