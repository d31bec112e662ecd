import Mathlib.Data.List.SplitBy
import Promptline.Compose

/-!
# Lines of blocks

Line breaks cut blocks into groups in one way only, and every group has one line: what its
left-aligned blocks show, and behind a blank what its right-aligned ones show.  The lines come out
the same if the blocks are laid out one by one, on a page that knows nothing but the two sides of
the line that has begun.
-/

namespace Promptline.Compose

/-- Blocks cut into groups: the first block and every later block with a line break begin one. -/
structure Cut (blocks : List ResolvedBlock) (groups : List (List ResolvedBlock)) : Prop where
  /-- The groups make up the blocks, in order. -/
  whole : groups.flatten = blocks
  /-- Every group has a first block. -/
  nonempty : ∀ group ∈ groups, group ≠ []
  /-- No later block of a group has a line break. -/
  inside : ∀ group ∈ groups, ∀ block ∈ group.tail, block.newline = false
  /-- The first block of every later group has a line break. -/
  begins : ∀ group ∈ groups.tail, ∀ block ∈ group.head?, block.newline = true

/-- What the segments of the blocks with an alignment show, in order and without tags. -/
def shownTexts (alignment : Alignment) (group : List ResolvedBlock) : List String :=
  ((group.filter (·.alignment = alignment)).flatMap (·.segments)).map fun segment =>
    strip segment.displayText

/-- The line of a group: its left side and its right side, those that show anything, with a blank
between them. -/
def groupLine (group : List ResolvedBlock) : String :=
  " ".intercalate (([.left, .right].map fun side => String.join (shownTexts side group)).filter
    (· ≠ ""))

/-- A page on which blocks are laid out one by one. -/
structure Page where
  /-- The lines that are finished. -/
  finished : List String := []
  /-- What the left-aligned blocks of the line that has begun show. -/
  left : String := ""
  /-- What the right-aligned blocks of the line that has begun show. -/
  right : String := ""
  /-- Whether a line has begun. -/
  begun : Bool := false

/-- Two sides on one line, with a blank between them if both show anything. -/
def joinSides (left right : String) : String :=
  if left ≠ "" ∧ right ≠ "" then left ++ " " ++ right else if left ≠ "" then left else right

namespace Page

/-- Finish the line that has begun. -/
def finish (page : Page) : Page where
  finished := page.finished ++ [joinSides page.left page.right]
  begun := page.begun

/-- Lay out one more block; one with a line break finishes the line before it. -/
def add (page : Page) (block : ResolvedBlock) : Page :=
  let page := if block.newline && page.begun then page.finish else page
  match block.alignment with
  | .left => { page with left := page.left ++ blockText block, begun := true }
  | .right => { page with right := page.right ++ blockText block, begun := true }

/-- All lines, the one that has begun included. -/
def lines (page : Page) : List String :=
  if page.begun then page.finish.finished else page.finished

end Page

/-! ## Groups -/

theorem isChain_of_forall_tail {α : Type} {R : α → α → Prop} {l : List α}
    (later : ∀ a ∈ l, ∀ b ∈ l.tail, R a b) : l.IsChain R := by
  have pairs : l.Pairwise fun _ _ => True := List.pairwise_of_forall fun _ _ => trivial
  exact pairs.isChain.imp_of_mem_tail_imp fun a b member behind _ => later a member b behind

/-- There is one way to cut blocks into groups. -/
theorem Cut.eq_splitBy {blocks : List ResolvedBlock} {groups : List (List ResolvedBlock)}
    (cut : Cut blocks groups) : blocks.splitBy (fun _ next => !next.newline) = groups := by
  rw [List.splitBy_eq_iff]
  refine ⟨cut.whole.symm, fun empty => cut.nonempty [] empty rfl, ?_, ?_⟩
  · intro group member
    refine isChain_of_forall_tail fun _ _ next behind => ?_
    simp [cut.inside group member next behind]
  · refine isChain_of_forall_tail fun group member next behind => ?_
    have filled := cut.nonempty next (List.mem_of_mem_tail behind)
    refine ⟨cut.nonempty group member, filled, ?_⟩
    simp [cut.begins next behind _ (List.head?_eq_some_head filled)]

theorem Cut.unique {blocks : List ResolvedBlock} {groups others : List (List ResolvedBlock)}
    (cut : Cut blocks groups) (other : Cut blocks others) : others = groups :=
  other.eq_splitBy.symm.trans cut.eq_splitBy

theorem cut_singleton (block : ResolvedBlock) : Cut [block] [[block]] := by
  constructor <;> simp

/-- A block in front begins a group of its own, or it joins the first group. -/
theorem Cut.cons {block next : ResolvedBlock} {rest line : List ResolvedBlock}
    {others : List (List ResolvedBlock)} (cut : Cut (next :: rest) (line :: others)) :
    Cut (block :: next :: rest)
      (if next.newline then [block] :: line :: others else (block :: line) :: others) := by
  obtain ⟨filled, -⟩ := List.forall_mem_cons.mp cut.nonempty
  obtain ⟨first, line, rfl⟩ := List.exists_cons_of_ne_nil filled
  obtain ⟨rfl, whole⟩ := List.cons.inj cut.whole
  split
  · next breaks =>
    refine ⟨?_, ?_, ?_, ?_⟩
    · simp [← whole]
    · exact List.forall_mem_cons.mpr ⟨List.cons_ne_nil block [], cut.nonempty⟩
    · exact List.forall_mem_cons.mpr ⟨nofun, cut.inside⟩
    · refine List.forall_mem_cons.mpr ⟨?_, cut.begins⟩
      simpa using breaks
  · next goes =>
    obtain ⟨inside, later⟩ := List.forall_mem_cons.mp cut.inside
    refine ⟨?_, ?_, ?_, cut.begins⟩
    · simp [← whole]
    · exact List.forall_mem_cons.mpr ⟨List.cons_ne_nil block _,
        (List.forall_mem_cons.mp cut.nonempty).2⟩
    · refine List.forall_mem_cons.mpr ⟨?_, later⟩
      exact List.forall_mem_cons.mpr ⟨Bool.not_eq_true _ ▸ goes, inside⟩

theorem cut_lines (blocks : List ResolvedBlock) : Cut blocks (lines blocks) := by
  fun_induction lines blocks with
  | case1 => constructor <;> simp
  | case2 block => exact cut_singleton block
  | case3 block next rest line others found breaks ih =>
      rw [found] at ih
      simpa [breaks] using ih.cons
  | case4 block next rest line others found goes ih =>
      rw [found] at ih
      simpa [goes] using ih.cons
  | case5 block next rest found ih =>
      have lost := ih.whole
      rw [found] at lost
      cases lost

/-- One more block begins a group of its own, or it joins the last group. -/
theorem Cut.concat {blocks line : List ResolvedBlock} {others : List (List ResolvedBlock)}
    (cut : Cut blocks (others ++ [line])) (block : ResolvedBlock) :
    Cut (blocks ++ [block])
      (if block.newline then others ++ [line] ++ [[block]] else others ++ [line ++ [block]]) := by
  have filled : line ≠ [] := cut.nonempty line (by simp)
  have earlier (group : List ResolvedBlock) (member : group ∈ others) :
      group ∈ others ++ [line] := List.mem_append_left [line] member
  split
  · next breaks =>
    have tail : (others ++ [line] ++ [[block]]).tail = (others ++ [line]).tail ++ [[block]] :=
      List.tail_append_of_ne_nil (by simp)
    refine ⟨by simp [← cut.whole], ?_, ?_, ?_⟩
    · exact List.forall_mem_append.mpr ⟨cut.nonempty, by simp⟩
    · exact List.forall_mem_append.mpr ⟨cut.inside, by simp⟩
    · rw [tail]
      exact List.forall_mem_append.mpr ⟨cut.begins, by simpa using breaks⟩
  · next goes =>
    have tail : (line ++ [block]).tail = line.tail ++ [block] := List.tail_append_of_ne_nil filled
    have head : (line ++ [block]).head? = line.head? := List.head?_append_of_ne_nil line filled
    refine ⟨by simp [← cut.whole], ?_, ?_, ?_⟩
    · exact List.forall_mem_append.mpr ⟨fun group member => cut.nonempty group (earlier _ member),
        by simp⟩
    · refine List.forall_mem_append.mpr
        ⟨fun group member => cut.inside group (earlier _ member), ?_⟩
      rw [List.forall_mem_singleton, tail]
      refine List.forall_mem_append.mpr ⟨cut.inside line (by simp), ?_⟩
      simpa using goes
    · cases others with
      | nil => simp
      | cons first others =>
        refine List.forall_mem_append.mpr ⟨fun group member => cut.begins group ?_, ?_⟩
        · exact List.mem_append_left [line] member
        · rw [List.forall_mem_singleton, head]
          exact cut.begins line (by simp)

/-! ## Lines -/

theorem join_flatMap {α : Type} (f : α → List String) (l : List α) :
    String.join (l.flatMap f) = String.join (l.map fun a => String.join (f a)) := by
  induction l with
  | nil => rfl
  | cons a l ih => simp [ih]

theorem sideText_eq (alignment : Alignment) (group : List ResolvedBlock) :
    sideText alignment group = String.join (shownTexts alignment group) := by
  rw [shownTexts, List.map_flatMap, join_flatMap]
  rfl

theorem sideText_concat (alignment : Alignment) (line : List ResolvedBlock)
    (block : ResolvedBlock) :
    sideText alignment (line ++ [block]) =
      if block.alignment = alignment then sideText alignment line ++ blockText block
      else sideText alignment line := by
  by_cases same : block.alignment = alignment <;> simp [sideText, same]

theorem groupLine_eq (group : List ResolvedBlock) :
    groupLine group = joinSides (sideText .left group) (sideText .right group) := by
  rw [groupLine, List.map_cons, List.map_cons, List.map_nil, ← sideText_eq, ← sideText_eq,
    joinSides]
  by_cases left : sideText .left group = "" <;> by_cases right : sideText .right group = "" <;>
    simp [left, right]

theorem lineText_eq (group : List ResolvedBlock) : lineText group = groupLine group := by
  rw [groupLine_eq, lineText, joinSides]
  by_cases left : sideText .left group = "" <;> by_cases right : sideText .right group = "" <;>
    simp [left, right]

/-! ## Pages -/

namespace Page

/-- A page holds the lines of the groups that are finished, and both sides of one that has begun. -/
structure Shows (page : Page) (groups : List (List ResolvedBlock)) (line : List ResolvedBlock) :
    Prop where
  /-- The finished lines are those of the finished groups. -/
  finished : page.finished = groups.map groupLine
  /-- The left side is that of the group that has begun. -/
  left : page.left = sideText .left line
  /-- The right side is that of the group that has begun. -/
  right : page.right = sideText .right line
  /-- A line has begun. -/
  begun : page.begun = true

theorem shows_add_of_empty (block : ResolvedBlock) : (add {} block).Shows [] [block] := by
  cases side : block.alignment <;>
    constructor <;> simp [add, side, sideText]

namespace Shows

variable {page : Page} {groups : List (List ResolvedBlock)} {line : List ResolvedBlock}

theorem lines_eq (shows : page.Shows groups line) :
    page.lines = (groups ++ [line]).map groupLine := by
  rw [Page.lines, if_pos shows.begun, finish, List.map_append, List.map_singleton, groupLine_eq,
    shows.finished, shows.left, shows.right]

theorem finish (shows : page.Shows groups line) : page.finish.Shows (groups ++ [line]) [] where
  finished := by
    rw [Page.finish, List.map_append, List.map_singleton, groupLine_eq, shows.finished, shows.left,
      shows.right]
  left := rfl
  right := rfl
  begun := shows.begun

/-- Without a line break, the side of the block grows. -/
theorem add_of_goes (shows : page.Shows groups line) {block : ResolvedBlock}
    (goes : block.newline = false) : (page.add block).Shows groups (line ++ [block]) := by
  obtain ⟨finished, left, right, begun⟩ := shows
  cases side : block.alignment <;>
    constructor <;> simp [add, goes, side, sideText_concat, finished, left, right]

/-- A line break finishes the line that has begun. -/
theorem add_of_breaks (shows : page.Shows groups line) {block : ResolvedBlock}
    (breaks : block.newline = true) : (page.add block).Shows (groups ++ [line]) [block] := by
  obtain ⟨finished, left, right, begun⟩ := shows.finish
  cases side : block.alignment <;>
    constructor <;> simp [add, breaks, side, shows.begun, finished, left, right, sideText]

/-- What a page holds after more blocks have been laid out. -/
theorem foldl_add {done : List ResolvedBlock} (cut : Cut done (groups ++ [line]))
    (shows : page.Shows groups line) (rest : List ResolvedBlock) :
    ∃ others last, Cut (done ++ rest) (others ++ [last]) ∧
      (rest.foldl Page.add page).Shows others last := by
  induction rest generalizing page groups line done with
  | nil => exact ⟨groups, line, by rwa [List.append_nil], shows⟩
  | cons block rest ih =>
      have longer := cut.concat block
      rw [List.foldl_cons, List.append_cons]
      cases starts : block.newline with
      | true =>
          rw [if_pos starts] at longer
          exact ih longer (shows.add_of_breaks starts)
      | false =>
          rw [if_neg (by simp [starts])] at longer
          exact ih longer (shows.add_of_goes starts)

end Shows

/-- Blocks that are laid out one by one give the lines of their groups. -/
theorem exists_lines_foldl_add (blocks : List ResolvedBlock) :
    ∃ groups, Cut blocks groups ∧ (blocks.foldl add {}).lines = groups.map groupLine := by
  cases blocks with
  | nil => exact ⟨[], cut_lines [], rfl⟩
  | cons block rest =>
      have single : Cut [block] ([] ++ [[block]]) := cut_singleton block
      obtain ⟨others, last, cut, shows⟩ := (shows_add_of_empty block).foldl_add single rest
      exact ⟨others ++ [last], cut, shows.lines_eq⟩

end Page

/-- There is one way to cut blocks into groups at their line breaks, and the plain layout has one
line for each group, in order: what the left-aligned blocks of the group show and what the
right-aligned ones show, with a blank between them if both show anything.  Laying the blocks out
one by one gives the same lines. -/
theorem plain_shows_groups (blocks : List ResolvedBlock) :
    ∃ groups, Cut blocks groups ∧ (∀ others, Cut blocks others → others = groups) ∧
      plain blocks = groups.map groupLine ∧ (blocks.foldl Page.add {}).lines = plain blocks := by
  have shown : plain blocks = (lines blocks).map groupLine :=
    List.map_congr_left fun group _ => lineText_eq group
  obtain ⟨groups, cut, laid⟩ := Page.exists_lines_foldl_add blocks
  have same : lines blocks = groups := cut.unique (cut_lines blocks)
  rw [shown, same]
  exact ⟨groups, cut, fun others other => cut.unique other, rfl, laid⟩

/-- A first line break adds no line, and a block that shows nothing may have a line of its own. -/
example :
    let block (newline : Bool) (alignment : Alignment) (texts : List String) : ResolvedBlock :=
      ⟨"prompt", alignment, newline, texts.map fun text => ⟨⟨"text", .plain, "", "", "", "", none,
        none, []⟩, "", text, "", "", [], []⟩⟩
    plain [block true .right ["r"], block false .left ["<b>l</>", "m"], block true .left [],
      block true .right ["s"]] = ["lm r", "", "s"] := by
  decide

end Promptline.Compose
