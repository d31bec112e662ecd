import Promptline.Proofs.Template.Scanning
import Promptline.Proofs.Text.Run

/-!
# Scanning prefixes

An action is read in the same way from its own text alone.  So a scan can be cut in front of an
action, or in front of the text that it could not read: the text before the cut has exactly the
items before the cut.
-/

namespace Promptline.Template

open Text (extent startsWith)

theorem commentClosing?_marked {blanks : List Char} (given : blanks ≠ [])
    (all : ∀ c ∈ blanks, Text.isBlank c = true) (rest : List Char) :
    commentClosing? ('*' :: '/' :: (blanks ++ '-' :: '}' :: '}' :: rest)) =
      some (blanks.length + 5) := by
  have positive : 0 < blanks.length := List.length_pos_iff.mpr given
  have count : extent Text.isBlank (blanks ++ '-' :: '}' :: '}' :: rest) = blanks.length := by
    have minus : Text.isBlank '-' = false := by decide
    rw [extent, List.takeWhile_append_of_pos all]
    simp [minus]
  have unmarked : startsWith ['}', '}'] (blanks ++ '-' :: '}' :: '}' :: rest) = false := by
    obtain ⟨b, others, rfl⟩ := List.exists_cons_of_ne_nil given
    have other : '}' ≠ b := by
      rintro rfl
      exact absurd (all _ List.mem_cons_self) (by decide)
    simp [startsWith, Text.afterPrefix?, other]
  rw [commentClosing?]
  simp only [unmarked, count, positive, List.drop_left]
  rfl

theorem commentClosing?_take {cs : List Char} {length : Nat}
    (closes : commentClosing? cs = some length) :
    commentClosing? (cs.take length) = some length := by
  unfold commentClosing? at closes
  split at closes
  · next cs =>
      simp only at closes
      split at closes
      · next plain =>
          obtain ⟨more, found⟩ := Option.isSome_iff_exists.mp plain
          obtain rfl := Text.eq_append_of_afterPrefix? found
          obtain rfl := Option.some.inj closes
          rfl
      · split at closes
        · next marked =>
            obtain ⟨positive, starts⟩ := marked
            obtain ⟨more, found⟩ := Option.isSome_iff_exists.mp starts
            have rest := Text.eq_append_of_afterPrefix? found
            obtain rfl := Option.some.inj closes
            have split : cs = cs.takeWhile Text.isBlank ++ '-' :: '}' :: '}' :: more := by
              rw [← Text.take_extent]
              exact (List.take_append_drop _ cs).symm.trans (congrArg _ rest)
            have again := commentClosing?_marked (List.length_pos_iff.mp positive)
              (fun c member => List.mem_takeWhile_imp member) []
            have taken : cs.take (extent Text.isBlank cs + 3) =
                cs.takeWhile Text.isBlank ++ ['-', '}', '}'] := by
              have front := @List.take_length_add_append _ (cs.takeWhile Text.isBlank)
                ('-' :: '}' :: '}' :: more) 3
              rwa [← split] at front
            rw [← Nat.add_assoc _ 3 2, List.take_succ_cons, List.take_succ_cons, taken]
            exact again
        · contradiction
  · contradiction

theorem commentLength?_take {cs : List Char} {length : Nat}
    (closed : commentLength? cs = some length) :
    commentLength? (cs.take length) = some length := by
  induction cs generalizing length with
  | nil => simp [commentLength?] at closed
  | cons c cs ih =>
      rw [commentLength?] at closed
      split at closed
      · next found here =>
          obtain rfl := Option.some.inj closed
          have same := commentClosing?_take here
          have nonempty : (c :: cs).take found ≠ [] := by
            intro empty
            simp [empty, commentClosing?] at same
          obtain ⟨d, ds, taken⟩ := List.exists_cons_of_ne_nil nonempty
          rw [taken] at same ⊢
          rw [commentLength?, same]
      · next unclosed =>
          obtain ⟨before, later, rfl⟩ := Option.map_eq_some_iff.mp closed
          have star := (commentLength?_bounds (ih later)).2.1
          have same := @commentClosing?_append_of_mem c _ star (cs.drop before)
          rw [List.cons_append, List.take_append_drop, unclosed] at same
          rw [List.take_succ_cons, commentLength?, ← same, ih later]
          rfl

theorem insideLength?_take {quote : Option Char} {cs : List Char} {length : Nat}
    (closed : insideLength? quote cs = some length) :
    insideLength? quote (cs.take (length + 2)) = some length := by
  fun_induction insideLength? quote cs generalizing length with
  | case1 => contradiction
  | case2 cs =>
      obtain rfl := Option.some.inj closed
      rfl
  | case3 c cs unclosed ih =>
      obtain ⟨before, later, rfl⟩ := Option.map_eq_some_iff.mp closed
      have shorter : ∀ more, c = '}' → cs.take (before + 2) = '}' :: more → False := by
        intro more brace same
        cases cs with
        | nil => simp at same
        | cons d cs =>
            cases same
            exact unclosed cs brace rfl
      rw [Nat.add_right_comm, List.take_succ_cons, insideLength?.eq_3 _ _ shorter, ih later]
      rfl
  | case4 c cs ih =>
      obtain ⟨before, later, rfl⟩ := Option.map_eq_some_iff.mp closed
      rw [Nat.add_right_comm, List.take_succ_cons, List.take_succ_cons, insideLength?, ih later]
      rfl
  | case5 mark c cs unescaped ih =>
      obtain ⟨before, later, rfl⟩ := Option.map_eq_some_iff.mp closed
      have shorter : ∀ d more, mark = '"' → c = '\\' → cs.take (before + 2) = d :: more →
          False := by
        intro d more quoted escape same
        cases cs with
        | nil => simp at same
        | cons e cs => exact unescaped e cs quoted escape rfl
      rw [Nat.add_right_comm, List.take_succ_cons, insideLength?.eq_5 _ _ _ shorter, ih later]
      rfl

theorem commentOpening?_take {cs : List Char} {size : Nat} (closed : '}' ∈ cs.take size) :
    commentOpening? (cs.take size) = commentOpening? cs := by
  have same := commentOpening?_append closed (cs.drop size)
  rw [List.take_append_drop] at same
  exact same.symm

/-- An action is the front of a text, delimiters included, and is read from that front alone. -/
structure ReadFrom (start : Nat) (cs : List Char) (action : Action) : Prop where
  /-- It is read from its own text. -/
  alone : scanAction start action.source = .ok action
  /-- It stands where the text does. -/
  start_eq : action.start = start
  /-- Its text is in front. -/
  source_eq : action.source = cs.take action.source.length
  /-- It has an opening delimiter. -/
  long : 2 ≤ action.source.length

theorem readFrom_of_comment {start opening : Nat} {cs : List Char} {action : Action}
    (opened : commentOpening? (cs.drop 2) = some opening)
    (read : scanComment start opening cs = .ok action) : ReadFrom start cs action := by
  obtain ⟨length, closed, rfl⟩ := scanComment_eq_ok_iff.mp read
  have again := commentLength?_take closed
  obtain ⟨bound, -, -⟩ := commentLength?_bounds closed
  obtain ⟨-, -, brace⟩ := commentLength?_bounds again
  have positive := List.length_pos_of_mem brace
  rw [List.length_take, List.length_drop] at positive
  rw [List.length_drop] at bound
  have inner : (cs.take (2 + opening + length)).drop 2 =
      (cs.drop 2).take (opening + length) := by
    rw [List.drop_take, Nat.add_assoc, Nat.add_sub_cancel_left]
  have comment : (cs.take (2 + opening + length)).drop (2 + opening) =
      (cs.drop (2 + opening)).take length := by
    rw [List.drop_take, Nat.add_sub_cancel_left]
  have inside : '}' ∈ (cs.drop 2).take (opening + length) := by
    rw [← comment, ← List.drop_drop, inner] at brace
    exact List.mem_of_mem_drop brace
  have whole : (cs.take (2 + opening + length)).length = 2 + opening + length := by
    rw [List.length_take, Nat.min_eq_left (by omega)]
  refine ⟨?_, rfl, by rw [whole], by rw [whole]; omega⟩
  rw [scanAction, inner, commentOpening?_take inside, opened]
  refine scanComment_eq_ok_iff.mpr ⟨length, ?_, ?_⟩
  · rw [comment, again]
  · rw [List.take_take, Nat.min_self]

theorem readFrom_of_inside {start length : Nat} {cs : List Char}
    (opened : commentOpening? (cs.drop 2) = none)
    (closed : insideLength? none (cs.drop 2) = some length) :
    ReadFrom start cs (actionOf start (cs.take (length + 4)) ((cs.drop 2).take length)) := by
  have again := insideLength?_take closed
  obtain ⟨bound, -⟩ := insideLength?_bounds closed
  obtain ⟨-, brace⟩ := insideLength?_bounds again
  rw [List.length_drop] at bound
  have inner : (cs.take (length + 4)).drop 2 = (cs.drop 2).take (length + 2) := List.drop_take
  have whole : (cs.take (length + 4)).length = length + 4 := by
    rw [List.length_take, Nat.min_eq_left (by omega)]
  refine ⟨?_, rfl, congrArg cs.take whole.symm, by rw [actionOf, whole]; omega⟩
  change scanAction start (cs.take (length + 4)) = _
  rw [scanAction, inner, commentOpening?_take brace, opened, again]
  simp only [List.take_take, Nat.min_self]
  rw [Nat.min_eq_left (by omega)]

/-- An action is read in the same way from its own text. -/
theorem readFrom_of_scanAction {start : Nat} {cs : List Char} {action : Action}
    (read : scanAction start cs = .ok action) : ReadFrom start cs action := by
  rw [scanAction] at read
  split at read
  · next opening opened => exact readFrom_of_comment opened read
  · next opened =>
      split at read
      · contradiction
      · next length closed =>
          obtain rfl := Except.ok.inj read
          exact readFrom_of_inside opened closed

theorem splitAtOpen_open {cs : List Char} (opened : (splitAtOpen cs).2 ≠ []) :
    ∃ rest, (splitAtOpen cs).2 = '{' :: '{' :: rest := by
  fun_induction splitAtOpen cs with
  | case1 => contradiction
  | case2 cs => exact ⟨cs, rfl⟩
  | case3 c cs _ text rest split ih =>
      rw [split] at ih
      exact ih opened

/-- The text before an opening delimiter has none, and is followed by any that comes next. -/
theorem splitAtOpen_text {cs : List Char} (opened : (splitAtOpen cs).2 ≠ []) :
    splitAtOpen (splitAtOpen cs).1 = ((splitAtOpen cs).1, []) ∧
      ∀ rest, splitAtOpen ((splitAtOpen cs).1 ++ '{' :: '{' :: rest) =
        ((splitAtOpen cs).1, '{' :: '{' :: rest) := by
  fun_induction splitAtOpen cs with
  | case1 => contradiction
  | case2 cs => exact ⟨rfl, fun rest => rfl⟩
  | case3 c cs single text tail split ih =>
      rw [split] at ih
      obtain ⟨alone, followed⟩ := ih opened
      obtain ⟨rest, opens⟩ := @splitAtOpen_open cs (by rw [split]; exact opened)
      have pieces := splitAtOpen_append cs
      rw [split] at opens pieces
      have apart (later : List Char) : ∀ more, c = '{' → text ++ later = '{' :: more → False := by
        intro more brace same
        rw [opens] at pieces
        cases text with
        | nil => exact single _ brace pieces.symm
        | cons d text =>
            cases same
            exact single _ brace pieces.symm
      constructor
      · have alone_apart := apart []
        rw [List.append_nil] at alone_apart
        rw [splitAtOpen.eq_3 _ _ alone_apart, alone]
      · intro rest
        rw [List.cons_append, splitAtOpen.eq_3 _ _ (apart _), followed]

theorem scanOpen_source {start : Nat} {cs : List Char} {action : Action}
    (read : scanAction start cs = .ok action) (rest : List Char) :
    scanOpen start (action.source ++ rest) =
      Scan.cons (.action action) (scanFrom (start + action.source.length) rest) := by
  have again := (readFrom_of_scanAction read).alone
  cases source : action.source with
  | nil =>
      have long := (readFrom_of_scanAction read).long
      rw [source] at long
      contradiction
  | cons c others =>
      rw [source] at again
      rw [scanOpen_append again, source, List.length_cons, Nat.add_sub_cancel, List.drop_length,
        List.nil_append]

theorem scanOpen_of_nil {start : Nat} {cs : List Char} (empty : (scanOpen start cs).items = []) :
    (scanOpen start cs).stop = start := by
  unfold scanOpen at empty ⊢
  split at empty
  · rfl
  · split at empty
    · rfl
    · contradiction

theorem scanOpen_of_cons {start : Nat} {cs : List Char} {item : Item} {items : List Item}
    (found : (scanOpen start cs).items = item :: items) :
    ∃ action, item = .action action ∧ scanAction start cs = .ok action ∧
      scanOpen start cs =
        Scan.cons (.action action)
          (scanFrom (start + action.source.length) (cs.drop action.source.length)) := by
  cases cs with
  | nil => contradiction
  | cons c cs =>
      cases read : scanAction start (c :: cs) with
      | error fault => simp [scanOpen, read] at found
      | ok action =>
          have positive := (scanAction_append read []).2.1
          rw [scanOpen, read] at found ⊢
          obtain ⟨rfl, -⟩ := List.cons.inj found
          exact ⟨action, rfl, rfl, by rw [List.drop_cons positive]⟩

/-- Literal text as items. -/
def literal (chars : List Char) (start : Nat) : List Item :=
  if chars.isEmpty then [] else [.text chars start]

theorem consText_eq (chars : List Char) (start : Nat) (scan : Scan) :
    Scan.consText chars start scan = { scan with items := literal chars start ++ scan.items } := by
  cases chars <;> rfl

theorem eq_text_of_mem_literal {chars : List Char} {start : Nat} {item : Item}
    (member : item ∈ literal chars start) : item = .text chars start := by
  rw [literal] at member
  split at member
  · contradiction
  · exact List.mem_singleton.mp member

/-- Items that do not start with text come after the literal text in front. -/
theorem literal_append_eq {chars : List Char} {start : Nat} {items front back : List Item}
    (split : literal chars start ++ items = front ++ back)
    (head : ∀ more place, back.head? ≠ some (.text more place)) :
    ∃ later, front = literal chars start ++ later ∧ items = later ++ back := by
  rcases List.append_eq_append_iff.mp split with ⟨later, rfl, rfl⟩ | ⟨middle, whole, rfl⟩
  · exact ⟨later, rfl, rfl⟩
  · cases middle with
    | nil => exact ⟨[], by simpa using whole.symm, rfl⟩
    | cons item middle =>
        have member : item ∈ literal chars start := by simp [whole]
        rw [eq_text_of_mem_literal member] at head
        exact absurd rfl (head chars start)

theorem scanFrom_text (offset : Nat) {cs : List Char} (opened : (splitAtOpen cs).2 ≠ []) :
    scanFrom offset (splitAtOpen cs).1 =
      ⟨literal (splitAtOpen cs).1 offset, none, offset + (splitAtOpen cs).1.length⟩ := by
  rw [scanFrom_eq, (splitAtOpen_text opened).1, consText_eq, scanOpen, List.append_nil]

/-- A scan can be cut before an action and before its defect.  By induction on the length of the
text: each action is passed together with the literal text in front of it. -/
theorem scanFrom_cut {offset : Nat} {cs : List Char} {front back : List Item}
    (split : (scanFrom offset cs).items = front ++ back)
    (head : ∀ more place, back.head? ≠ some (.text more place))
    (stops : back = [] → (scanFrom offset cs).error ≠ none) :
    ∃ size, (∃ rest, cs.drop size = '{' :: '{' :: rest) ∧
      scanFrom offset (cs.take size) = ⟨front, none, offset + size⟩ ∧
      (scanOpen (offset + size) (cs.drop size)).items = back ∧
      (back = [] → (scanFrom offset cs).stop = offset + size) := by
  induction bound : cs.length using Nat.strongRecOn generalizing offset cs front with
  | ind length ih =>
      subst bound
      have pieces := splitAtOpen_append cs
      rw [scanFrom_eq, consText_eq] at split stops ⊢
      obtain ⟨later, rfl, items⟩ := literal_append_eq split head
      have opened : (splitAtOpen cs).2 ≠ [] := by
        intro unopened
        rw [unopened, scanOpen] at items stops
        obtain ⟨-, rfl⟩ := List.append_eq_nil_iff.mp items.symm
        exact stops rfl rfl
      have text := scanFrom_text offset opened
      have followed := (splitAtOpen_text opened).2
      obtain ⟨rest, opens⟩ := splitAtOpen_open opened
      generalize (splitAtOpen cs).1 = chars at *
      generalize (splitAtOpen cs).2 = tail at *
      subst pieces
      cases later with
      | nil =>
          -- The cut is right behind the literal text.
          refine ⟨chars.length, ⟨rest, ?_⟩, ?_, ?_, ?_⟩
          · rw [List.drop_left, opens]
          · rw [List.take_left, text, List.append_nil]
          · rw [List.drop_left, items, List.nil_append]
          · intro none
            rw [none] at items
            exact scanOpen_of_nil items
      | cons item later =>
          -- An action is passed; the cut is in what follows it, which the induction covers.
          obtain ⟨action, rfl, read, whole⟩ := scanOpen_of_cons items
          obtain ⟨-, -, source, long⟩ := readFrom_of_scanAction read
          have taken := scanOpen_source read
          rw [whole] at items stops ⊢
          have shorter : (tail.drop action.source.length).length < (chars ++ tail).length := by
            have size := congrArg List.length source
            rw [List.length_take] at size
            rw [List.length_drop, List.length_append]
            omega
          obtain ⟨size, opens_later, again, same, stop⟩ :=
            ih _ shorter (List.cons.inj items).2 stops rfl
          have starts : ∃ more, action.source = '{' :: '{' :: more := by
            rw [source, opens, ← Nat.sub_add_cancel long, List.take_succ_cons,
              List.take_succ_cons]
            exact ⟨_, rfl⟩
          have cut : (chars ++ tail).take (chars.length + (action.source.length + size)) =
              chars ++ (action.source ++ (tail.drop action.source.length).take size) := by
            rw [List.take_length_add_append, List.take_add, ← source]
          have place : offset + (chars.length + (action.source.length + size)) =
              offset + chars.length + action.source.length + size := by omega
          have rest_eq : (chars ++ tail).drop (chars.length + (action.source.length + size)) =
              (tail.drop action.source.length).drop size := by
            rw [List.drop_length_add_append, List.drop_drop]
          refine ⟨chars.length + (action.source.length + size), ?_, ?_, ?_, ?_⟩
          · rw [rest_eq]
            exact opens_later
          · obtain ⟨more, starts⟩ := starts
            have behind := followed (more ++ (tail.drop action.source.length).take size)
            rw [← List.cons_append, ← List.cons_append, ← starts] at behind
            rw [cut, scanFrom_eq, behind, taken, again, consText_eq, place]
            rfl
          · rw [rest_eq, place, same]
          · rw [place]
            exact stop

end Promptline.Template
