import Mathlib.Data.List.Basic
import Promptline.Compose
import Promptline.Proofs.Text.Run

/-!
# Texts without tags

Stripping removes every tag that stands in a text, and nothing else.  A tag has its brackets at its
ends only, so two tags never overlap; but what is left on both sides of a removed tag moves
together, and can make up a tag that was not there before.  Stripping once is stripping for good
unless that happens.
-/

namespace Promptline.Compose

/-- A tag: tag characters between angle brackets, possibly behind a slash. -/
def IsTag (tag : List Char) : Prop :=
  ∃ slash name, tag = '<' :: (slash ++ name ++ ['>']) ∧ (slash = [] ∨ slash = ['/']) ∧
    ∀ c ∈ name, isTagChar c = true

/-- A text begins with a tag. -/
def Opens (text : List Char) : Prop :=
  ∃ tag, IsTag tag ∧ tag <+: text

/-- A tag stands somewhere in a text. -/
def HasTag (text : List Char) : Prop :=
  ∃ tag, IsTag tag ∧ tag <:+: text

/-- A text and what is left of it without its tags. -/
inductive Strips : List Char → List Char → Prop
  /-- Nothing is left of nothing. -/
  | nil : Strips [] []
  /-- A tag is removed. -/
  | tag {tag text kept : List Char} (isTag : IsTag tag) (rest : Strips text kept) :
      Strips (tag ++ text) kept
  /-- A character is kept if no tag begins with it. -/
  | char {c : Char} {text kept : List Char} (plain : ¬ Opens (c :: text))
      (rest : Strips text kept) : Strips (c :: text) (c :: kept)

/-- Two brackets enclose tags, and are the ends of a tag without them. -/
def HidesTag (text : List Char) : Prop :=
  ∃ front inner name back, text = front ++ '<' :: (inner ++ '>' :: back) ∧ HasTag inner ∧
    Strips inner name ∧ IsTag ('<' :: (name ++ ['>']))

/-! ## Tags -/

theorem isTagChar_mark : isTagChar '<' = false ∧ isTagChar '>' = false ∧ isTagChar '/' = false := by
  decide

theorem IsTag.exists_inner {tag : List Char} (isTag : IsTag tag) :
    ∃ inner, tag = '<' :: (inner ++ ['>']) ∧ '<' ∉ inner ∧ '>' ∉ inner := by
  obtain ⟨slash, name, rfl, slashed, named⟩ := isTag
  have outside (mark : Char) (other : isTagChar mark = false) : mark ∉ name := fun member => by
    rw [named mark member] at other
    cases other
  have unopened := outside '<' isTagChar_mark.1
  have unclosed := outside '>' isTagChar_mark.2.1
  refine ⟨slash ++ name, rfl, ?_, ?_⟩ <;> obtain rfl | rfl := slashed <;> simpa

/-- Only the first character of a tag is an opening bracket. -/
theorem IsTag.eq_nil_of_open {front back : List Char} (isTag : IsTag (front ++ '<' :: back)) :
    front = [] := by
  obtain ⟨inner, same, unopened, -⟩ := isTag.exists_inner
  have single : '<' ∉ inner ++ ['>'] := by simp [unopened]
  have split : [] ++ '<' :: (inner ++ ['>']) = front ++ '<' :: back := same.symm
  exact ((List.append_cons_inj_of_notMem List.not_mem_nil single).mp split).1.symm

/-- Before the closing bracket of a tag there is its opening bracket, and no other closing one. -/
theorem IsTag.exists_of_close {front back : List Char} (isTag : IsTag (front ++ '>' :: back)) :
    ∃ inner, front = '<' :: inner ∧ '<' ∉ inner ∧ '>' ∉ inner := by
  obtain ⟨inner, same, unopened, unclosed⟩ := isTag.exists_inner
  have once : '>' ∉ '<' :: inner := by simp [unclosed]
  have split : '<' :: inner ++ '>' :: [] = front ++ '>' :: back := same.symm
  obtain ⟨rfl, -⟩ := (List.append_cons_inj_of_notMem once List.not_mem_nil).mp split
  exact ⟨inner, rfl, unopened, unclosed⟩

/-- A tag ends with its closing bracket. -/
theorem IsTag.close_mem {front back : List Char} (isTag : IsTag (front ++ back))
    (nonempty : back ≠ []) : '>' ∈ back := by
  obtain ⟨inner, same, -⟩ := isTag.exists_inner
  obtain ⟨others, last, rfl⟩ := List.eq_nil_or_concat' back |>.resolve_left nonempty
  have split : front ++ others ++ [last] = '<' :: inner ++ ['>'] := by simpa using same
  obtain ⟨-, single⟩ := List.append_inj' split rfl
  simp [single]

/-- Behind an opening bracket and its slash, a tag is what the tag characters lead to. -/
theorem tagLength?_eq {slash inner : List Char}
    (cut : slash = ['/'] ∨ slash = [] ∧ inner.head? ≠ some '/') :
    tagLength? ('<' :: (slash ++ inner)) =
      if (inner.dropWhile isTagChar).head? = some '>' then
        some (2 + slash.length + (inner.takeWhile isTagChar).length) else none := by
  rw [← Text.drop_extent, ← Text.extent]
  have unclosed {tail : List Char} (other : ∀ rest, tail = '>' :: rest → False) :
      ¬ tail.head? = some '>' := by
    intro head
    obtain ⟨rest, closed⟩ := List.head?_eq_some_iff.mp head
    exact other rest closed
  obtain rfl | ⟨rfl, unslashed⟩ := cut
  · rw [List.cons_append, List.nil_append, tagLength?]
    split
    · next closed =>
      rw [closed]
      rfl
    · next other => rw [if_neg (unclosed other)]
  · rw [List.nil_append, tagLength?]
    · split
      · next closed =>
        rw [closed]
        rfl
      · next other => rw [if_neg (unclosed other)]
    · rintro rest rfl
      exact unslashed rfl

theorem IsTag.cut {slash name : List Char} (slashed : slash = [] ∨ slash = ['/'])
    (named : ∀ c ∈ name, isTagChar c = true) (rest : List Char) :
    slash = ['/'] ∨ slash = [] ∧ (name ++ '>' :: rest).head? ≠ some '/' := by
  refine slashed.symm.imp_right fun empty => ⟨empty, ?_⟩
  cases name with
  | nil => simp
  | cons c name =>
      intro head
      obtain rfl := Option.some.inj head
      have slashTag := named '/' List.mem_cons_self
      simp [isTagChar_mark.2.2] at slashTag

/-- A tag at the front of a text is measured by its length. -/
theorem tagLength?_of_isTag {tag : List Char} (isTag : IsTag tag) (rest : List Char) :
    tagLength? (tag ++ rest) = some tag.length := by
  obtain ⟨slash, name, rfl, slashed, named⟩ := isTag
  have closed : ¬ isTagChar '>' = true := by simp [isTagChar_mark.2.1]
  have measured := tagLength?_eq (IsTag.cut slashed named rest)
  rw [List.dropWhile_append_of_pos named, List.dropWhile_cons_of_neg closed,
    List.takeWhile_append_of_pos named, List.takeWhile_cons_of_neg closed] at measured
  simp only [List.cons_append, List.append_assoc, List.nil_append] at measured ⊢
  rw [measured]
  simp
  omega

/-- What is measured is a tag. -/
theorem exists_of_tagLength? {text : List Char} {length : Nat}
    (found : tagLength? text = some length) :
    ∃ tag rest, text = tag ++ rest ∧ IsTag tag ∧ tag.length = length := by
  obtain ⟨cs, rfl⟩ : ∃ cs, text = '<' :: cs := by
    unfold tagLength? at found
    split at found
    · exact ⟨_, rfl⟩
    · cases found
  obtain ⟨slash, inner, rfl, cut⟩ : ∃ slash inner, cs = slash ++ inner ∧
      (slash = ['/'] ∨ slash = [] ∧ inner.head? ≠ some '/') := by
    by_cases slashed : cs.head? = some '/'
    · obtain ⟨inner, rfl⟩ := List.head?_eq_some_iff.mp slashed
      exact ⟨['/'], inner, rfl, .inl rfl⟩
    · exact ⟨[], cs, rfl, .inr ⟨rfl, slashed⟩⟩
  rw [tagLength?_eq cut] at found
  split at found
  · next closed =>
    obtain ⟨rest, ends⟩ := List.head?_eq_some_iff.mp closed
    have split := @List.takeWhile_append_dropWhile _ isTagChar inner
    rw [ends] at split
    refine ⟨'<' :: (slash ++ inner.takeWhile isTagChar ++ ['>']), rest, ?_, ⟨slash, _, rfl, ?_,
      fun c member => List.mem_takeWhile_imp member⟩, ?_⟩
    · conv_lhs => rw [← split]
      simp
    · exact cut.symm.imp_left And.left
    · rw [← Option.some.inj found]
      simp
      omega
  · cases found

/-! ## Stripping -/

theorem stripFrom_eq_drop (skip : Nat) (text : List Char) :
    stripFrom skip text = stripFrom 0 (text.drop skip) := by
  induction text generalizing skip with
  | nil => cases skip <;> rfl
  | cons c text ih =>
      cases skip with
      | zero => rfl
      | succ skip => exact ih skip

theorem stripFrom_tag {tag : List Char} (isTag : IsTag tag) (text : List Char) :
    stripFrom 0 (tag ++ text) = stripFrom 0 text := by
  have measured := tagLength?_of_isTag isTag text
  obtain ⟨inner, rfl, -⟩ := isTag.exists_inner
  rw [List.cons_append] at measured ⊢
  simp only [stripFrom, measured]
  rw [stripFrom_eq_drop, List.length_cons, Nat.add_sub_cancel, List.drop_left]

theorem stripFrom_char {c : Char} {text : List Char} (plain : ¬ Opens (c :: text)) :
    stripFrom 0 (c :: text) = c :: stripFrom 0 text := by
  cases measured : tagLength? (c :: text) with
  | none => simp only [stripFrom, measured]
  | some length =>
      obtain ⟨tag, rest, split, isTag, -⟩ := exists_of_tagLength? measured
      exact absurd ⟨tag, isTag, rest, split.symm⟩ plain

theorem Strips.eq {text kept : List Char} (strips : Strips text kept) :
    stripFrom 0 text = kept := by
  induction strips with
  | nil => rfl
  | tag isTag _ ih => rw [stripFrom_tag isTag, ih]
  | char plain _ ih => rw [stripFrom_char plain, ih]

/-- Every text is stripped. -/
theorem strips (text : List Char) : Strips text (stripFrom 0 text) := by
  match text with
  | [] => exact .nil
  | c :: text =>
    by_cases opens : Opens (c :: text)
    · obtain ⟨tag, isTag, rest, split⟩ := opens
      have shorter : rest.length < (c :: text).length := by
        obtain ⟨inner, rfl, -⟩ := isTag.exists_inner
        rw [← split]
        simp
        omega
      rw [← split, stripFrom_tag isTag]
      exact .tag isTag (strips rest)
    · rw [stripFrom_char opens]
      exact .char opens (strips text)
termination_by text.length
decreasing_by
  · exact shorter
  · exact Nat.lt_succ_self text.length

/-! ## What is kept -/

/-- A kept character stands in the text, in front of what is kept behind it. -/
theorem Strips.exists_split {text front back : List Char} {c : Char}
    (strips : Strips text (front ++ c :: back)) :
    ∃ before after, text = before ++ c :: after ∧ Strips before front ∧ Strips after back ∧
      ¬ Opens (c :: after) := by
  generalize whole : front ++ c :: back = kept at strips
  induction strips generalizing front with
  | nil => simp at whole
  | tag isTag _ ih =>
      obtain ⟨before, after, rfl, ahead, behind, plain⟩ := ih whole
      exact ⟨_ ++ before, after, by rw [List.append_assoc], .tag isTag ahead, behind, plain⟩
  | @char d text kept plain rest ih =>
      cases front with
      | nil =>
          obtain ⟨rfl, rfl⟩ := List.cons.inj whole
          exact ⟨[], text, rfl, .nil, rest, plain⟩
      | cons e front =>
          obtain ⟨rfl, tail⟩ := List.cons.inj whole
          obtain ⟨before, after, rfl, ahead, behind, unopened⟩ := ih tail
          have alone : ¬ Opens (e :: before) := by
            rintro ⟨tag, isTag, begins⟩
            exact plain ⟨tag, isTag, begins.trans (List.prefix_append (e :: before) _)⟩
          exact ⟨e :: before, after, rfl, .char alone ahead, behind, unopened⟩

/-- Two texts are stripped one after the other if no tag begins in the first and ends in the
second. -/
theorem Strips.append {front back kept others : List Char} (ahead : Strips front kept)
    (behind : Strips back others)
    (apart : ∀ left right, left ≠ [] → left <:+ front → right ≠ [] → right <+: back →
      ¬ IsTag (left ++ right)) : Strips (front ++ back) (kept ++ others) := by
  induction ahead with
  | nil => exact behind
  | @tag tag text kept isTag _ ih =>
      rw [List.append_assoc]
      exact .tag isTag (ih fun left right nonempty ends =>
        apart left right nonempty (ends.trans (List.suffix_append tag text)))
  | @char c text kept plain _ ih =>
      refine .char ?_ (ih fun left right nonempty ends =>
        apart left right nonempty (ends.trans (List.suffix_cons c text)))
      rintro ⟨tag, isTag, rest, split⟩
      have split : tag ++ rest = c :: text ++ back := split
      obtain ⟨later, whole, -⟩ | ⟨later, rfl, whole⟩ := List.append_eq_append_iff.mp split
      · exact plain ⟨tag, isTag, later, whole.symm⟩
      · by_cases nothing : later = []
        · subst nothing
          exact plain ⟨_, isTag, [], by simp⟩
        · exact apart (c :: text) later (List.cons_ne_nil c text) List.suffix_rfl nothing
            ⟨rest, whole.symm⟩ isTag

/-- An opening bracket that nothing closes is kept. -/
theorem Strips.open_mem {front back kept : List Char} (strips : Strips (front ++ '<' :: back) kept)
    (unclosed : '>' ∉ back) : '<' ∈ kept := by
  generalize whole : front ++ '<' :: back = text at strips
  induction strips generalizing front with
  | nil => simp at whole
  | @tag tag text kept isTag _ ih =>
      obtain ⟨later, rfl, rest⟩ | ⟨later, rfl, rest⟩ := List.append_eq_append_iff.mp whole
      · by_cases nothing : later = []
        · subst nothing
          exact @ih [] rest
        · have member := isTag.close_mem nothing
          have closed : '>' ∈ '<' :: back := rest ▸ List.mem_append_left text member
          simp [unclosed] at closed
      · exact ih rest.symm
  | @char c text kept plain _ ih =>
      cases front with
      | nil =>
          obtain ⟨rfl, -⟩ := List.cons.inj whole
          exact List.mem_cons_self
      | cons d front => exact List.mem_cons_of_mem _ (ih (List.cons.inj whole).2)

/-- A closing bracket that nothing opens is kept. -/
theorem Strips.close_mem {front back kept : List Char}
    (strips : Strips (front ++ '>' :: back) kept) (unopened : '<' ∉ front) : '>' ∈ kept := by
  generalize whole : front ++ '>' :: back = text at strips
  induction strips generalizing front with
  | nil => simp at whole
  | @tag tag text kept isTag _ _ =>
      obtain ⟨inner, rfl, -⟩ := isTag.exists_inner
      cases front with
      | nil => cases (List.cons.inj whole).1
      | cons c front =>
          obtain ⟨rfl, -⟩ := List.cons.inj whole
          exact absurd List.mem_cons_self unopened
  | @char c text kept plain _ ih =>
      cases front with
      | nil =>
          obtain ⟨rfl, -⟩ := List.cons.inj whole
          exact List.mem_cons_self
      | cons d front =>
          have later : '<' ∉ front := fun member => unopened (List.mem_cons_of_mem d member)
          exact List.mem_cons_of_mem _ (ih later (List.cons.inj whole).2)

/-! ## Texts that stay as they are -/

theorem Strips.length_le {text kept : List Char} (strips : Strips text kept) :
    kept.length ≤ text.length := by
  induction strips with
  | nil => exact Nat.le_refl 0
  | tag _ _ ih =>
      rw [List.length_append]
      omega
  | char _ _ ih => exact Nat.succ_le_succ ih

theorem hasTag_cons_iff {c : Char} {text : List Char} :
    HasTag (c :: text) ↔ Opens (c :: text) ∨ HasTag text := by
  simp only [HasTag, Opens, List.infix_cons_iff, and_or_left, exists_or]

/-- A text without tags is kept as it is. -/
theorem Strips.eq_self {text kept : List Char} (strips : Strips text kept)
    (tagless : ¬ HasTag text) : kept = text := by
  induction strips with
  | nil => rfl
  | @tag tag text kept isTag _ _ => exact absurd ⟨tag, isTag, [], text, rfl⟩ tagless
  | char _ _ ih => rw [ih fun inside => tagless (hasTag_cons_iff.mpr (.inr inside))]

/-- A text with a tag gets shorter. -/
theorem Strips.length_lt {text kept : List Char} (strips : Strips text kept)
    (hasTag : HasTag text) : kept.length < text.length := by
  induction strips with
  | nil =>
      obtain ⟨tag, isTag, inside⟩ := hasTag
      obtain ⟨inner, rfl, -⟩ := isTag.exists_inner
      simp at inside
  | @tag tag text kept isTag rest _ =>
      obtain ⟨inner, rfl, -⟩ := isTag.exists_inner
      have shorter := rest.length_le
      simp
      omega
  | char plain _ ih =>
      obtain opens | inside := hasTag_cons_iff.mp hasTag
      · exact absurd opens plain
      · exact Nat.succ_lt_succ (ih inside)

/-- A text stays as it is just if no tag stands in it. -/
theorem stripFrom_eq_self_iff {text : List Char} : stripFrom 0 text = text ↔ ¬ HasTag text := by
  constructor
  · intro same hasTag
    have shorter := (strips text).length_lt hasTag
    rw [same] at shorter
    exact Nat.lt_irrefl _ shorter
  · exact (strips text).eq_self

/-! ## Tags that come together -/

theorem HidesTag.of_strips {text kept : List Char} (strips : Strips text kept)
    (hasTag : HasTag kept) : HidesTag text := by
  obtain ⟨tag, isTag, front, back, rfl⟩ := hasTag
  obtain ⟨name, rfl, -⟩ := isTag.exists_inner
  simp only [List.append_assoc, List.cons_append, List.nil_append] at strips
  obtain ⟨before, after, rfl, -, rest, plain⟩ := strips.exists_split
  obtain ⟨inner, behind, rfl, inside, -, -⟩ := rest.exists_split
  refine ⟨before, inner, name, behind, rfl, ?_, inside, isTag⟩
  by_contra tagless
  -- Nothing is removed between the brackets, so the tag begins with the first of them.
  obtain rfl := inside.eq_self tagless
  exact plain ⟨_, isTag, behind, by simp⟩

theorem HasTag.open_mem {text : List Char} (hasTag : HasTag text) : '<' ∈ text := by
  obtain ⟨tag, isTag, inside⟩ := hasTag
  obtain ⟨inner, rfl, -⟩ := isTag.exists_inner
  exact inside.subset List.mem_cons_self

/-- A text goes on as it is behind a closing bracket if it leaves none open. -/
theorem Strips.append_close {inner name back kept : List Char} (inside : Strips inner name)
    (unopened : '<' ∉ name) (behind : Strips back kept) :
    Strips (inner ++ '>' :: back) (name ++ '>' :: kept) := by
  have closing : Strips ('>' :: back) ('>' :: kept) := by
    refine .char ?_ behind
    rintro ⟨tag, isTag, begins⟩
    obtain ⟨word, rfl, -⟩ := isTag.exists_inner
    simp at begins
  refine inside.append closing fun left right nonempty ends further begins isTag => ?_
  obtain ⟨c, right, rfl⟩ := List.exists_cons_of_ne_nil further
  obtain ⟨rfl, -⟩ := List.cons_prefix_cons.mp begins
  obtain ⟨word, rfl, -, unclosed⟩ := isTag.exists_of_close
  obtain ⟨before, rfl⟩ := ends
  exact unopened (inside.open_mem unclosed)

/-- A text goes on as it is at an opening bracket. -/
theorem Strips.append_open {front kept back others : List Char} (ahead : Strips front kept)
    (behind : Strips ('<' :: back) others) :
    Strips (front ++ '<' :: back) (kept ++ others) := by
  refine ahead.append behind fun left right nonempty ends further begins isTag => ?_
  obtain ⟨c, right, rfl⟩ := List.exists_cons_of_ne_nil further
  obtain ⟨rfl, -⟩ := List.cons_prefix_cons.mp begins
  exact nonempty isTag.eq_nil_of_open

/-- No tag begins in front of what has tags and leaves no bracket closed. -/
theorem Strips.not_opens {inner name : List Char} (inside : Strips inner name)
    (unclosed : '>' ∉ name) (hasTag : HasTag inner) (back : List Char) :
    ¬ Opens ('<' :: (inner ++ '>' :: back)) := by
  rintro ⟨tag, isTag, rest, split⟩
  obtain ⟨word, rfl, unopened, -⟩ := isTag.exists_inner
  have tail : word ++ '>' :: rest = inner ++ '>' :: back := by simpa using split
  obtain ⟨later, rfl, whole⟩ | ⟨later, rfl, -⟩ := List.append_eq_append_iff.mp tail
  · cases later with
    | nil => exact unopened (by simpa using hasTag.open_mem)
    | cons c later =>
        obtain ⟨rfl, -⟩ := List.cons.inj whole
        exact unclosed (inside.close_mem unopened)
  · exact unopened (List.mem_append_left later hasTag.open_mem)

theorem HidesTag.hasTag {text : List Char} (hides : HidesTag text) :
    HasTag (stripFrom 0 text) := by
  obtain ⟨front, inner, name, back, rfl, hasTag, inside, isTag⟩ := hides
  obtain ⟨word, same, unopened, unclosed⟩ := isTag.exists_inner
  obtain rfl : name = word := by simpa using same
  have closed := inside.append_close unopened (strips back)
  have whole := (strips front).append_open (.char (inside.not_opens unclosed hasTag back) closed)
  rw [whole.eq]
  exact ⟨_, isTag, stripFrom 0 front, stripFrom 0 back, by simp⟩

theorem toList_strip (text : String) : (strip text).toList = stripFrom 0 text.toList := by
  rw [strip, String.toList_ofList]

/-- Stripping a stripped text changes nothing just if no tag is left in it, and a tag is left just
if the text hides one: if two of its brackets enclose tags and are the ends of a tag without
them. -/
theorem strip_strip_eq_iff (text : String) :
    (strip (strip text) = strip text ↔ ¬ HasTag (strip text).toList) ∧
      (HasTag (strip text).toList ↔ HidesTag text.toList) := by
  constructor
  · rw [← String.toList_inj, toList_strip (strip text)]
    exact stripFrom_eq_self_iff
  · rw [toList_strip]
    exact ⟨HidesTag.of_strips (strips text.toList), HidesTag.hasTag⟩

theorem stripping_is_not_idempotent : ¬ ∀ text, strip (strip text) = strip text := by
  intro idempotent
  have same := idempotent "<<b>b>"
  revert same
  decide

end Promptline.Compose
