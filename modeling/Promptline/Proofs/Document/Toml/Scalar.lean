import Promptline.Document.Toml.Scalar
import Promptline.Proofs.Document.Merge
import Promptline.Proofs.Document.Toml.Text
import Promptline.Proofs.Text.Run

/-!
# What readers of scalars leave

A scalar is never a table.  Of the numbers only a decimal integer may be too long, and then its
digits stand in the text one after the other, with nothing but underscores between them.
-/

namespace Promptline

namespace Number

theorem length_moreDigits_le (cs : List Char) :
    (moreDigits cs).1.length ≤ cs.countP Text.isDigit := by
  fun_induction moreDigits cs with
  | case1 => exact Nat.le_refl _
  | case2 c cs digit value digits rest taken ih =>
      have isDigit : Text.isDigit c = true := by rw [Text.isDigit, value]; rfl
      simp only [taken] at ih
      rw [List.countP_cons, List.countP_cons_of_pos isDigit, List.length_cons]
      omega
  | case3 => exact Nat.zero_le _
  | case4 c cs _ digit value digits rest taken ih =>
      have isDigit : Text.isDigit c = true := by rw [Text.isDigit, value]; rfl
      simp only [taken] at ih
      rw [List.countP_cons_of_pos isDigit, List.length_cons]
      omega
  | case5 => exact Nat.zero_le _

/-- No more digits are taken than the text has. -/
theorem length_takeDigits_le (cs : List Char) :
    (takeDigits cs).1.length ≤ cs.countP Text.isDigit := by
  cases cs with
  | nil => exact Nat.le_refl _
  | cons c cs =>
      rw [takeDigits]
      cases value : Text.digitValue? c with
      | none => exact Nat.zero_le _
      | some digit =>
          have isDigit : Text.isDigit c = true := by rw [Text.isDigit, value]; rfl
          have later := length_moreDigits_le cs
          rw [List.countP_cons_of_pos isDigit]
          exact Nat.succ_le_succ later

theorem takeSign_suffix (cs : List Char) : (takeSign cs).2 <:+ cs := by
  unfold takeSign
  split
  · exact List.suffix_cons _ _
  · exact List.suffix_cons _ _
  · exact List.suffix_refl _

/-- A text that is too long for an integer has more digits than the limit. -/
theorem limit_lt_of_tooLong {cs : List Char} {digits : Nat}
    (tooLong : readInteger cs = .error (.tooLong digits)) :
    digitLimit < cs.countP Text.isDigit := by
  have inside : (takeSign (Text.trimPadding cs)).2 <:+: cs := by
    obtain ⟨front, back, split, -, -⟩ := Text.exists_margins Text.isPadding cs
    exact (takeSign_suffix _).isInfix.trans ⟨front, back, split.symm⟩
  have taken := length_takeDigits_le (takeSign (Text.trimPadding cs)).2
  have within := inside.sublist.countP_le (p := Text.isDigit)
  simp only [readInteger] at tooLong
  split at tooLong
  · cases tooLong
  · next digits _ found =>
      rw [found] at taken
      split at tooLong
      · next long => exact Nat.lt_of_lt_of_le long (taken.trans within)
      · cases tooLong
  · cases tooLong

end Number

namespace Toml

/-! ## Dates and times -/

/-- What an optional reader leaves, if it reads anything. -/
def Takes {α : Type} (cs : List Char) (reading : Option (α × List Char)) : Prop :=
  ∀ result rest, reading = some (result, rest) → rest <:+ cs

section Takes

variable {α β : Type} {cs : List Char}

theorem Takes.some {result : α} {rest : List Char} (left : rest <:+ cs) :
    Takes cs (some (result, rest)) := by
  intro _ _ same
  obtain ⟨-, rfl⟩ := Prod.mk.inj (Option.some.inj same)
  exact left

theorem Takes.of_suffix {rest : List Char} {reading : Option (α × List Char)}
    (takes : Takes rest reading) (left : rest <:+ cs) : Takes cs reading :=
  fun result after found => (takes result after found).trans left

theorem Takes.bind {reading : Option (α × List Char)}
    {next : α × List Char → Option (β × List Char)} (takes : Takes cs reading)
    (continues : ∀ result rest, Takes rest (next (result, rest))) :
    Takes cs (reading >>= next) := by
  intro result rest found
  obtain ⟨⟨first, middle⟩, here, later⟩ := Option.bind_eq_some_iff.mp found
  exact (continues first middle result rest later).trans (takes first middle here)

end Takes

theorem field?_takes (width low high : Nat) (cs : List Char) :
    Takes cs (field? width low high cs) := by
  unfold field?
  simp only
  split
  · split
    · exact .some (List.drop_suffix _ _)
    · exact nofun
  · exact nofun

/-- After a fixed character the reading goes on with what is left. -/
theorem mark?_takes {β : Type} (p : Char → Bool) (cs : List Char)
    {next : List Char → Option (β × List Char)} (continues : ∀ rest, Takes rest (next rest)) :
    Takes cs (mark? p cs >>= next) := by
  intro result rest found
  obtain ⟨middle, here, later⟩ := Option.bind_eq_some_iff.mp found
  refine (continues middle result rest later).trans ?_
  unfold mark? at here
  split at here
  · split at here
    · obtain rfl := Option.some.inj here
      exact List.suffix_cons _ _
    · cases here
  · cases here

theorem fraction_suffix (cs : List Char) : (fraction cs).2 <:+ cs := by
  unfold fraction
  split
  · simp only
    split
    · exact List.suffix_refl _
    · exact (List.drop_suffix _ _).trans (List.suffix_cons _ _)
  · exact List.suffix_refl _

theorem time?_takes (cs : List Char) : Takes cs (time? cs) := by
  refine (field?_takes 2 0 23 cs).bind fun hour rest => ?_
  refine mark?_takes _ rest fun rest => ?_
  refine (field?_takes 2 0 59 rest).bind fun minute rest => ?_
  refine mark?_takes _ rest fun rest => ?_
  refine (field?_takes 2 0 59 rest).bind fun second rest => ?_
  exact .some (fraction_suffix rest)

theorem offset?_takes (cs : List Char) : Takes cs (offset? cs) := by
  cases cs with
  | nil => exact nofun
  | cons c cs =>
      rw [offset?]
      split
      · exact .some (List.suffix_cons _ _)
      · split
        · refine Takes.of_suffix ?_ (List.suffix_cons c cs)
          refine (field?_takes 2 0 23 cs).bind fun hours rest => ?_
          refine mark?_takes _ rest fun rest => ?_
          refine (field?_takes 2 0 59 rest).bind fun minutes rest => ?_
          exact .some (List.suffix_refl _)
        · exact nofun

theorem date?_takes (cs : List Char) : Takes cs (date? cs) := by
  refine (field?_takes 4 0 9999 cs).bind fun year rest => ?_
  refine mark?_takes _ rest fun rest => ?_
  refine (field?_takes 2 1 12 rest).bind fun month rest => ?_
  refine mark?_takes _ rest fun rest => ?_
  refine (field?_takes 2 1 31 rest).bind fun day rest => ?_
  exact .some (List.suffix_refl _)

/-! ## Scalars -/

/-- What one of several readers of values gives, if it reads anything. -/
def Offers (room : Nat) (cs : List Char)
    (reading : Option (Except DecodeFault (Document × List Char))) : Prop :=
  ∀ result, reading = some result → Gives room Document.Keyed cs result

variable {room : Nat}

theorem Offers.none (cs : List Char) : Offers room cs none :=
  nofun

theorem Offers.some {cs : List Char} {result : Except DecodeFault (Document × List Char)}
    (gives : Gives room Document.Keyed cs result) : Offers room cs (some result) := by
  intro _ same
  rwa [← Option.some.inj same]

theorem Offers.orElse {cs : List Char}
    {first second : Option (Except DecodeFault (Document × List Char))}
    (offers : Offers room cs first) (others : Offers room cs second) :
    Offers room cs (first.orElse fun _ => second) := by
  cases first with
  | none => exact others
  | some result => exact offers

theorem Offers.of_suffix {cs rest : List Char}
    {reading : Option (Except DecodeFault (Document × List Char))}
    (offers : Offers room rest reading) (left : rest <:+ cs) : Offers room cs reading :=
  fun result found => (offers result found).of_suffix left

/-- A text that no reader reads is malformed. -/
theorem Offers.gives {cs : List Char}
    {reading : Option (Except DecodeFault (Document × List Char))}
    (offers : Offers room cs reading) :
    Gives room Document.Keyed cs (reading.getD malformed) := by
  cases reading with
  | none => exact .malformed
  | some result => exact offers result rfl

/-- A value that is no table is read. -/
theorem gives_plain {d : Document} {cs rest : List Char} (left : rest <:+ cs)
    (other : d.isTable = false) (once : d.NamesOnce) :
    Gives room Document.Keyed cs (.ok (d, rest)) :=
  .ok (Document.keyed_of_not_isTable other once) left

theorem moment?_offers (cs : List Char) : Offers room cs (moment? cs) := by
  intro result found
  obtain ⟨⟨⟨year, month, day⟩, afterDate⟩, date, found⟩ := Option.bind_eq_some_iff.mp found
  have left := date?_takes cs _ _ date
  simp only at found
  split at found
  · obtain rfl := Option.some.inj found
    split
    · exact gives_plain left rfl trivial
    · exact .malformed
  · next t afterTime time =>
      have leftTime : afterTime <:+ afterDate := mark?_takes _ afterDate time?_takes _ _ time
      obtain rfl := Option.some.inj found
      cases offset : offset? afterTime with
      | none =>
          split
          · exact gives_plain (leftTime.trans left) rfl trivial
          · exact .malformed
      | some reading =>
          have leftZone := offset?_takes afterTime reading.1 reading.2 offset
          split
          · exact gives_plain (leftZone.trans (leftTime.trans left)) rfl trivial
          · exact .malformed

theorem clock?_offers (cs : List Char) : Offers room cs (clock? cs) := by
  intro result found
  obtain ⟨⟨t, rest⟩, time, rfl⟩ := Option.map_eq_some_iff.mp found
  exact gives_plain (time?_takes cs t rest time) rfl trivial

/-- Digits are read with single underscores between them. -/
theorem mem_take_digitsLength {p : Char → Bool} {cs : List Char} {c : Char}
    (member : c ∈ cs.take (digitsLength p cs)) : p c = true ∨ c = '_' := by
  induction cs using digitsLength.induct p with
  | case1 => cases member
  | case2 tail => cases member
  | case3 d apart digit =>
      rw [digitsLength.eq_3 _ _ apart, if_pos digit] at member
      obtain rfl := List.mem_singleton.mp member
      exact .inl digit
  | case4 d apart other =>
      rw [digitsLength.eq_3 _ _ apart, if_neg other] at member
      cases member
  | case5 d e cs apart first second ih =>
      rw [digitsLength.eq_4 _ _ _ _ apart, if_pos first, if_pos second, Nat.add_comm] at member
      obtain rfl | rfl | later := by simpa using member
      · exact .inl first
      · exact .inr rfl
      · exact ih later
  | case6 d e cs apart first second =>
      rw [digitsLength.eq_4 _ _ _ _ apart, if_pos first, if_neg second] at member
      obtain rfl := List.mem_singleton.mp member
      exact .inl first
  | case7 d e cs apart other =>
      rw [digitsLength.eq_4 _ _ _ _ apart, if_neg other] at member
      cases member
  | case8 d cs apart more plain digit ih =>
      rw [digitsLength.eq_5 _ _ _ apart more plain, if_pos digit, Nat.add_comm] at member
      obtain rfl | later := List.mem_cons.mp member
      · exact .inl digit
      · exact ih later
  | case9 d cs apart more plain other =>
      rw [digitsLength.eq_5 _ _ _ apart more plain, if_neg other] at member
      cases member

theorem mem_take_wholeLength {cs : List Char} {c : Char} (member : c ∈ cs.take (wholeLength cs)) :
    c.isDigit = true ∨ c = '_' := by
  unfold wholeLength at member
  split at member
  · obtain rfl := List.mem_singleton.mp member
    exact .inl rfl
  · exact mem_take_digitsLength member

theorem not_isDigit_of_mem_sign {cs : List Char} {c : Char}
    (member : c ∈ cs.take (Text.signLength cs)) : Text.isDigit c = false := by
  unfold Text.signLength at member
  split at member
  · obtain rfl := List.mem_singleton.mp member
    rfl
  · obtain rfl := List.mem_singleton.mp member
    rfl
  · cases member

/-- A decimal integer that is too long shows as its digits. -/
theorem hasLongRun_of_tooLong {cs : List Char} {digits : Nat}
    (tooLong : Number.readInteger
      (cs.take (Text.signLength cs + wholeLength (cs.drop (Text.signLength cs)))) =
        .error (.tooLong digits)) : HasLongRun cs := by
  let sign := Text.signLength cs
  let run := (cs.drop sign).take (wholeLength (cs.drop sign))
  have long := Number.limit_lt_of_tooLong tooLong
  have unsigned : (cs.take sign).countP Text.isDigit = 0 := by
    rw [List.countP_eq_zero]
    intro c member
    rw [not_isDigit_of_mem_sign member]
    exact Bool.false_ne_true
  rw [List.take_add, List.countP_append, unsigned, Nat.zero_add] at long
  have shape : ∀ c ∈ run, c.isDigit = true ∨ c = '_' := fun c member => mem_take_wholeLength member
  have ascii : run.countP Text.isDigit ≤ run.countP Char.isDigit := by
    apply List.countP_mono_left
    intro c member digit
    obtain here | rfl := shape c member
    · exact here
    · cases digit
  have within : run <:+: cs :=
    (List.take_prefix _ _).isInfix.trans (List.drop_suffix _ _).isInfix
  exact ⟨run, within, shape, Nat.lt_of_lt_of_le long ascii⟩

theorem decimal?_offers (cs : List Char) : Offers room cs (decimal? cs) := by
  unfold decimal?
  extract_lets sign whole fraction exponent length text rest
  have left : rest <:+ cs := List.drop_suffix _ _
  split
  · exact .none cs
  · split
    · refine .some ?_
      split
      · exact gives_plain left rfl trivial
      · exact .malformed
    · next plain =>
        refine .some ?_
        have short : length = sign + whole := by omega
        split
        · exact gives_plain left rfl trivial
        · next digits tooLong =>
            rw [show text = cs.take (sign + whole) from congrArg cs.take short] at tooLong
            exact .tooLong (hasLongRun_of_tooLong tooLong)
        · exact .malformed

theorem based?_offers (base : Nat) (p : Char → Bool) (cs : List Char) :
    Offers room cs (based? base p cs) := by
  unfold based?
  simp only
  split
  · exact .none cs
  · exact .some (gives_plain (List.drop_suffix _ _) rfl trivial)

theorem number?_offers (cs : List Char) : Offers room cs (number? cs) := by
  unfold number?
  split
  · next c cs =>
      have left : cs <:+ '0' :: c :: cs := ⟨['0', c], rfl⟩
      simp only
      refine Offers.orElse ?_ (decimal?_offers _)
      split
      · exact (based?_offers _ _ _).of_suffix left
      · exact (based?_offers _ _ _).of_suffix left
      · exact (based?_offers _ _ _).of_suffix left
      · exact .none _
  · exact decimal?_offers cs

theorem special?_offers (cs : List Char) : Offers room cs (special? cs) := by
  unfold special?
  simp only
  split
  · intro result found
    obtain ⟨x, -, rfl⟩ := Option.map_eq_some_iff.mp found
    exact gives_plain (List.drop_suffix _ _) rfl trivial
  · exact .none cs

theorem truth?_offers (cs : List Char) : Offers room cs (truth? cs) := by
  unfold truth?
  split
  · exact .some (gives_plain ⟨['t', 'r', 'u', 'e'], rfl⟩ rfl trivial)
  · exact .some (gives_plain ⟨['f', 'a', 'l', 's', 'e'], rfl⟩ rfl trivial)
  · exact .none _

theorem scalar_gives (cs : List Char) : Gives room Document.Keyed cs (scalar cs) := by
  have text : Offers room cs ((string? cs).map fun reading => reading.map fun piece =>
      (Document.string (String.ofList piece.1), piece.2)) := by
    intro result found
    obtain ⟨reading, here, rfl⟩ := Option.map_eq_some_iff.mp found
    exact (string?_gives here).map
      (fun s _ _ => Document.keyed_of_not_isTable rfl trivial) fun _ _ => rfl
  exact (((((text.orElse (truth?_offers cs)).orElse (moment?_offers cs)).orElse
    (clock?_offers cs)).orElse (number?_offers cs)).orElse (special?_offers cs)).gives

end Toml

end Promptline
