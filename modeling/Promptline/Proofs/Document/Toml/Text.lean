import Promptline.Document.Toml

/-!
# What readers of TOML leave

Every reader takes a piece off the front of a text and leaves the rest.  Apart from malformed text
there are two faults only, an integer with more digits than the limit and more nested calls than
there is room for, and both show in the text.
-/

namespace Promptline.Toml

/-- A piece of the text consists of digits and underscores, with more digits than the limit. -/
def HasLongRun (cs : List Char) : Prop :=
  ∃ run, run <:+: cs ∧ (∀ c ∈ run, c.isDigit = true ∨ c = '_') ∧
    Number.digitLimit < run.countP Char.isDigit

theorem HasLongRun.of_infix {cs piece : List Char} (long : HasLongRun piece)
    (within : piece <:+: cs) : HasLongRun cs := by
  obtain ⟨run, inside, digits, count⟩ := long
  exact ⟨run, inside.trans within, digits, count⟩

theorem calls_le_of_sublist {cs piece : List Char} (within : piece.Sublist cs) :
    calls piece ≤ calls cs := by
  have lists := within.count_le '['
  have tables := within.count_le '\x7b'
  exact Nat.add_le_add (Nat.mul_le_mul_left _ lists) (Nat.mul_le_mul_left _ tables)

theorem calls_list (cs : List Char) : calls ('[' :: cs) = listCalls + calls cs := by
  simp [calls, Nat.mul_succ, Nat.add_assoc, Nat.add_comm]

theorem calls_table (cs : List Char) : calls ('\x7b' :: cs) = tableCalls + calls cs := by
  simp [calls, Nat.mul_succ, Nat.add_comm, Nat.add_left_comm]

/-- What reading a text with some room comes to: a result, or a fault, which other than malformed
text only an integer that is too long makes, or a lack of room. -/
inductive Reads (room : Nat) {α : Type} (Holds : α → Prop) (cs : List Char) :
    Except DecodeFault α → Prop
  /-- A result. -/
  | ok {result : α} (holds : Holds result) : Reads room Holds cs (.ok result)
  /-- Malformed text. -/
  | malformed : Reads room Holds cs malformed
  /-- A text with an integer that is too long. -/
  | tooLong {limit : DigitLimit} (long : HasLongRun cs) :
      Reads room Holds cs (.error (.tooLong limit))
  /-- A text whose lists and tables need more room. -/
  | tooDeep (deep : room < calls cs) : Reads room Holds cs (.error .tooDeep)

/-- What a reader gives that takes a piece off the front of a text. -/
abbrev Gives (room : Nat) {α : Type} (Holds : α → Prop) (cs : List Char) :
    Except DecodeFault (α × List Char) → Prop :=
  Reads room (fun reading => Holds reading.1 ∧ reading.2 <:+ cs) cs

/-- What a reader leaves that has no result of its own. -/
abbrev Leaves (room : Nat) (cs : List Char) : Except DecodeFault (List Char) → Prop :=
  Reads room (· <:+ cs) cs

section Composition

variable {α β : Type} {P : α → Prop} {Q : β → Prop} {cs rest : List Char} {room : Nat}

theorem Reads.imp {R : α → Prop} {reading : Except DecodeFault α}
    (reads : Reads room P rest reading) (left : rest <:+ cs)
    (weaker : ∀ result, P result → R result) : Reads room R cs reading := by
  cases reads with
  | ok holds => exact .ok (weaker _ holds)
  | malformed => exact .malformed
  | tooLong long => exact .tooLong (long.of_infix left.isInfix)
  | tooDeep deep => exact .tooDeep (Nat.lt_of_lt_of_le deep (calls_le_of_sublist left.sublist))

theorem Reads.bind {reading : Except DecodeFault α} {next : α → Except DecodeFault β}
    (reads : Reads room P cs reading)
    (continues : ∀ result, P result → Reads room Q cs (next result)) :
    Reads room Q cs (reading >>= next) := by
  cases reads with
  | ok holds => exact continues _ holds
  | malformed => exact .malformed
  | tooLong long => exact .tooLong long
  | tooDeep deep => exact .tooDeep deep

theorem Reads.map {f : α → β} {reading : Except DecodeFault α} (reads : Reads room P cs reading)
    (keeps : ∀ result, P result → Q (f result)) : Reads room Q cs (reading.map f) := by
  cases reads with
  | ok holds => exact .ok (keeps _ holds)
  | malformed => exact .malformed
  | tooLong long => exact .tooLong long
  | tooDeep deep => exact .tooDeep deep

theorem Gives.ok {result : α} (holds : P result) (left : rest <:+ cs) :
    Gives room P cs (.ok (result, rest)) :=
  Reads.ok ⟨holds, left⟩

theorem Gives.of_suffix {reading : Except DecodeFault (α × List Char)}
    (gives : Gives room P rest reading) (left : rest <:+ cs) : Gives room P cs reading :=
  Reads.imp gives left fun _ ⟨holds, later⟩ => ⟨holds, later.trans left⟩

theorem Leaves.of_suffix {reading : Except DecodeFault (List Char)}
    (leaves : Leaves room rest reading) (left : rest <:+ cs) : Leaves room cs reading :=
  Reads.imp leaves left fun _ later => later.trans left

/-- A reader is followed by one that starts where it ends. -/
theorem Gives.bind {reading : Except DecodeFault (α × List Char)}
    {next : α × List Char → Except DecodeFault (β × List Char)} (gives : Gives room P cs reading)
    (continues : ∀ result rest, P result → rest <:+ cs → Gives room Q rest (next (result, rest))) :
    Gives room Q cs (reading >>= next) :=
  Reads.bind gives fun (result, rest) ⟨holds, left⟩ =>
    (continues result rest holds left).of_suffix left

theorem Leaves.bind {reading : Except DecodeFault (List Char)}
    {next : List Char → Except DecodeFault (β × List Char)} (leaves : Leaves room cs reading)
    (continues : ∀ rest, rest <:+ cs → Gives room Q rest (next rest)) :
    Gives room Q cs (reading >>= next) :=
  Reads.bind leaves fun rest left => (continues rest left).of_suffix left

theorem Leaves.chain {reading : Except DecodeFault (List Char)}
    {next : List Char → Except DecodeFault (List Char)} (leaves : Leaves room cs reading)
    (continues : ∀ rest, rest <:+ cs → Leaves room rest (next rest)) :
    Leaves room cs (reading >>= next) :=
  Reads.bind leaves fun rest left => (continues rest left).of_suffix left

theorem Gives.map {f : α × List Char → β × List Char}
    {reading : Except DecodeFault (α × List Char)} (gives : Gives room P cs reading)
    (keeps : ∀ result rest, P result → Q (f (result, rest)).1)
    (leaves : ∀ result rest, (f (result, rest)).2 = rest) : Gives room Q cs (reading.map f) :=
  Reads.map gives fun (result, rest) ⟨holds, left⟩ =>
    ⟨keeps result rest holds, (leaves result rest).symm ▸ left⟩

/-- A reader that goes on in a nested call needs the room for it as well. -/
theorem Gives.of_enter {reading : Nat → Except DecodeFault (α × List Char)} {spent : Nat}
    (more : spent + calls rest ≤ calls cs) (left : rest <:+ cs)
    (gives : ∀ room, Gives room P rest (reading room)) :
    Gives room P cs (enter spent room >>= reading) := by
  unfold enter
  split
  · next enough =>
      have inner := gives (room - spent)
      change Gives room P cs (reading (room - spent))
      generalize reading (room - spent) = outcome at inner ⊢
      cases inner with
      | ok holds => exact Reads.ok ⟨holds.1, holds.2.trans left⟩
      | malformed => exact .malformed
      | tooLong long => exact .tooLong (long.of_infix left.isInfix)
      | tooDeep deep => exact .tooDeep (by omega)
  · next lacking => exact .tooDeep (by omega)

end Composition

/-- Nothing is asked of a result. -/
abbrev Anything {α : Type} (_ : α) : Prop := True

theorem Gives.map_anything {α β : Type} {cs : List Char}
    {f : α × List Char → β × List Char} {reading : Except DecodeFault (α × List Char)}
    (gives : Gives room Anything cs reading) (leaves : ∀ result rest, (f (result, rest)).2 = rest) :
    Gives room Anything cs (reading.map f) :=
  gives.map (fun _ _ _ => trivial) leaves

variable {room : Nat}

theorem skip_suffix (cs : List Char) : skip cs <:+ cs :=
  List.dropWhile_suffix _

theorem skipComment_leaves (cs : List Char) : Leaves room cs (skipComment cs) := by
  unfold skipComment
  split
  · split
    · exact .malformed
    · exact .ok ((List.dropWhile_suffix _).trans (List.suffix_cons _ _))
  · exact .ok (List.suffix_refl _)

theorem hexChar_gives (width : Nat) (cs : List Char) :
    Gives room Anything cs (hexChar width cs) := by
  unfold hexChar
  simp only
  split
  · exact .ok trivial (List.drop_suffix _ _)
  · exact .malformed

theorem afterContinuation_leaves (cs : List Char) : Leaves room cs (afterContinuation cs) := by
  unfold afterContinuation
  have left := skip_suffix cs
  split
  · exact .ok (List.nil_suffix)
  · next rest found =>
      rw [found] at left
      exact .ok ((List.dropWhile_suffix _).trans ((List.suffix_cons _ _).trans left))
  · exact .malformed

theorem escape_gives (multiline : Bool) (cs : List Char) :
    Gives room Anything cs (escape multiline cs) := by
  unfold escape
  split
  · exact ((hexChar_gives 4 _).map_anything fun _ _ => rfl).of_suffix (List.suffix_cons _ _)
  · exact ((hexChar_gives 8 _).map_anything fun _ _ => rfl).of_suffix (List.suffix_cons _ _)
  · next c cs _ _ =>
      split
      · exact (afterContinuation_leaves (c :: cs)).map fun _ left => ⟨trivial, left⟩
      · split
        · exact .ok trivial (List.suffix_cons _ _)
        · exact .malformed
  · exact .malformed

theorem basicFrom_gives (multiline : Bool) (fuel : Nat) (cs : List Char) :
    Gives room Anything cs (basicFrom multiline fuel cs) := by
  induction fuel generalizing cs with
  | zero => exact .malformed
  | succ fuel ih =>
      unfold basicFrom
      split
      · next impossible => cases impossible
      · exact .malformed
      · next fuel cs same =>
          obtain rfl := Nat.succ.inj same
          refine (Gives.bind (escape_gives multiline cs) fun escaped rest _ _ => ?_).of_suffix
            (List.suffix_cons _ _)
          exact (ih rest).bind fun more after _ _ => .ok trivial (List.suffix_refl _)
      · next fuel c cs _ same =>
          obtain rfl := Nat.succ.inj same
          have proceed : Gives room Anything (c :: cs)
              ((basicFrom multiline fuel cs).map fun reading => (c :: reading.1, reading.2)) :=
            ((ih cs).map_anything fun _ _ => rfl).of_suffix (List.suffix_cons _ _)
          simp only
          split
          · split
            · exact .ok trivial (List.suffix_cons _ _)
            · split
              · exact .ok trivial ⟨[c, '"', '"'], rfl⟩
              · exact proceed
          · split
            · exact .malformed
            · exact proceed

theorem literal_gives (cs : List Char) : Gives room Anything cs (literal cs) := by
  unfold literal
  have left : cs.dropWhile (· != '\'') <:+ cs := List.dropWhile_suffix _
  simp only
  split
  · exact .malformed
  · next found =>
      rw [found] at left
      split
      · exact .malformed
      · exact .ok trivial ((List.suffix_cons _ _).trans left)

theorem untilThree_suffix {quote : Char} {cs inner after : List Char}
    (found : untilThree quote cs = some (inner, after)) : after <:+ cs := by
  induction cs generalizing inner with
  | nil => cases found
  | cons c cs ih =>
      rw [untilThree] at found
      split at found
      · next rest closes =>
          obtain ⟨rfl, rfl⟩ := Prod.mk.inj (Option.some.inj found)
          rw [Text.eq_append_of_afterPrefix? closes]
          exact List.suffix_append _ _
      · obtain ⟨⟨more, rest⟩, later, same⟩ := Option.map_eq_some_iff.mp found
        obtain ⟨-, rfl⟩ := Prod.mk.inj same
        exact (ih later).trans (List.suffix_cons _ _)

theorem withExtraQuotes_suffix (quote : Char) (inner after : List Char) :
    (withExtraQuotes quote inner after).2 <:+ after :=
  List.drop_suffix _ _

theorem dropBreak_suffix (cs : List Char) : dropBreak cs <:+ cs := by
  unfold dropBreak
  split
  · exact List.suffix_cons _ _
  · exact List.suffix_refl _

theorem longBasic_gives (cs : List Char) : Gives room Anything cs (longBasic cs) := by
  have inner : Gives room Anything cs (basicFrom true (cs.length + 1) (dropBreak cs)) :=
    (basicFrom_gives true _ _).of_suffix (dropBreak_suffix cs)
  exact inner.bind fun text after _ _ => .ok trivial (withExtraQuotes_suffix '"' text after)

theorem longLiteral_gives (cs : List Char) : Gives room Anything cs (longLiteral cs) := by
  unfold longLiteral
  split
  · exact .malformed
  · next inner after found =>
      have left := (untilThree_suffix found).trans (dropBreak_suffix cs)
      split
      · exact .malformed
      · exact .ok trivial ((withExtraQuotes_suffix '\'' inner after).trans left)

theorem string?_gives {cs : List Char} {reading : Except DecodeFault (List Char × List Char)}
    (found : string? cs = some reading) : Gives room Anything cs reading := by
  unfold string? at found
  have three (a b c : Char) (rest : List Char) : rest <:+ a :: b :: c :: rest :=
    ⟨[a, b, c], rfl⟩
  split at found
  · obtain rfl := Option.some.inj found
    exact (longBasic_gives _).of_suffix (three _ _ _ _)
  · obtain rfl := Option.some.inj found
    exact (basicFrom_gives _ _ _).of_suffix (List.suffix_cons _ _)
  · obtain rfl := Option.some.inj found
    exact (longLiteral_gives _).of_suffix (three _ _ _ _)
  · obtain rfl := Option.some.inj found
    exact (literal_gives _).of_suffix (List.suffix_cons _ _)
  · cases found

theorem keyPart_gives (cs : List Char) : Gives room Anything cs (keyPart cs) := by
  unfold keyPart
  split
  · exact ((basicFrom_gives _ _ _).map_anything fun _ _ => rfl).of_suffix (List.suffix_cons _ _)
  · exact ((literal_gives _).map_anything fun _ _ => rfl).of_suffix (List.suffix_cons _ _)
  · simp only
    split
    · exact .malformed
    · exact .ok trivial (List.drop_suffix _ _)

theorem moreKey_gives (fuel : Nat) (cs : List Char) : Gives room Anything cs (moreKey fuel cs) := by
  induction fuel generalizing cs with
  | zero => exact .ok trivial (List.suffix_refl _)
  | succ fuel ih =>
      unfold moreKey
      split
      · next fuel cs same =>
          obtain rfl := Nat.succ.inj same
          refine Gives.of_suffix ?_ (List.suffix_cons '.' cs)
          refine ((keyPart_gives (skip cs)).of_suffix (skip_suffix cs)).bind fun part rest _ _ => ?_
          refine ((ih (skip rest)).of_suffix (skip_suffix rest)).bind fun parts after _ _ => ?_
          exact .ok trivial (List.suffix_refl _)
      · exact .ok trivial (List.suffix_refl _)

theorem key_gives (cs : List Char) : Gives room Anything cs (key cs) := by
  refine (keyPart_gives cs).bind fun part rest _ _ => ?_
  refine ((moreKey_gives cs.length (skip rest)).of_suffix (skip_suffix rest)).bind
    fun parts after _ _ => ?_
  exact .ok trivial (List.suffix_refl _)

end Promptline.Toml
