import Promptline.Proofs.Template.Literal

/-!
# Items tile their source

The items of a scan make up the template up to where the scan stopped: literal texts without opening
delimiters, never two in a row, and actions with both of their delimiters.  Trimming takes nothing
from them but white space at the ends of texts.
-/

namespace Promptline.Template

open Text (extent isMargin startsWith)

/-! ## Delimiters -/

/-- A text with both delimiters of an action. -/
def Delimited (text : List Char) : Prop :=
  ∃ inner, text = '{' :: '{' :: (inner ++ ['}', '}'])

theorem commentClosing?_ends {cs : List Char} {length : Nat}
    (closes : commentClosing? cs = some length) :
    ∃ inner, cs.take length = inner ++ ['}', '}'] := by
  unfold commentClosing? at closes
  split at closes
  · next cs =>
      simp only at closes
      split at closes
      · next plain =>
          obtain ⟨more, found⟩ := Option.isSome_iff_exists.mp plain
          obtain rfl := Text.eq_append_of_afterPrefix? found
          obtain rfl := Option.some.inj closes
          exact ⟨['*', '/'], rfl⟩
      · split at closes
        · next marked =>
            obtain ⟨more, found⟩ := Option.isSome_iff_exists.mp marked.2
            have rest := Text.eq_append_of_afterPrefix? found
            obtain rfl := Option.some.inj closes
            refine ⟨'*' :: '/' :: (cs.take (extent Text.isBlank cs) ++ ['-']), ?_⟩
            have split : extent Text.isBlank cs + 5 = extent Text.isBlank cs + 3 + 2 := rfl
            rw [split, List.take_succ_cons, List.take_succ_cons, List.take_add, rest]
            simp
        · contradiction
  · contradiction

theorem commentLength?_ends {cs : List Char} {length : Nat}
    (closed : commentLength? cs = some length) :
    ∃ inner, cs.take length = inner ++ ['}', '}'] := by
  induction cs generalizing length with
  | nil => simp [commentLength?] at closed
  | cons c cs ih =>
      rw [commentLength?] at closed
      split at closed
      · next here =>
          cases closed
          exact commentClosing?_ends here
      · obtain ⟨before, later, rfl⟩ := Option.map_eq_some_iff.mp closed
        obtain ⟨inner, ends⟩ := ih later
        exact ⟨c :: inner, by rw [List.take_succ_cons, ends, List.cons_append]⟩

theorem insideLength?_ends {quote : Option Char} {cs : List Char} {length : Nat}
    (closed : insideLength? quote cs = some length) :
    ∃ inner, cs.take (length + 2) = inner ++ ['}', '}'] := by
  fun_induction insideLength? quote cs generalizing length with
  | case1 => contradiction
  | case2 cs =>
      cases closed
      exact ⟨[], rfl⟩
  | case3 c cs _ ih =>
      obtain ⟨before, later, rfl⟩ := Option.map_eq_some_iff.mp closed
      obtain ⟨inner, ends⟩ := ih later
      exact ⟨c :: inner, by rw [Nat.add_right_comm, List.take_succ_cons, ends, List.cons_append]⟩
  | case4 c cs ih =>
      obtain ⟨before, later, rfl⟩ := Option.map_eq_some_iff.mp closed
      obtain ⟨inner, ends⟩ := ih later
      refine ⟨'\\' :: c :: inner, ?_⟩
      rw [Nat.add_right_comm, List.take_succ_cons, List.take_succ_cons, ends, List.cons_append,
        List.cons_append]
  | case5 mark c cs _ ih =>
      obtain ⟨before, later, rfl⟩ := Option.map_eq_some_iff.mp closed
      obtain ⟨inner, ends⟩ := ih later
      exact ⟨c :: inner, by rw [Nat.add_right_comm, List.take_succ_cons, ends, List.cons_append]⟩

/-- What is read at an opening delimiter has that delimiter and a closing one. -/
theorem delimited_of_scanAction {start : Nat} {cs : List Char} {action : Action}
    (read : scanAction start ('{' :: '{' :: cs) = .ok action) : Delimited action.source := by
  rw [scanAction] at read
  split at read
  · next opening opened =>
      obtain ⟨length, closed, rfl⟩ := scanComment_eq_ok_iff.mp read
      rw [Nat.add_comm, List.drop_succ_cons, List.drop_succ_cons] at closed
      obtain ⟨inner, ends⟩ := commentLength?_ends closed
      refine ⟨cs.take opening ++ inner, ?_⟩
      rw [Nat.add_assoc, Nat.add_comm, List.take_succ_cons, List.take_succ_cons, List.take_add,
        ends, List.append_assoc]
  · split at read
    · contradiction
    · next length closed =>
        obtain rfl := Except.ok.inj read
        obtain ⟨inner, ends⟩ := insideLength?_ends closed
        exact ⟨inner, congrArg (fun text => '{' :: '{' :: text) ends⟩

/-! ## Tiles -/

/-- Items in order that make up a text, which stands at an offset, up to a rest of it. -/
inductive Tiles : Nat → List Char → List Item → List Char → Prop
  /-- No item: the whole text is the rest. -/
  | rest (offset : Nat) (cs : List Char) : Tiles offset cs [] cs
  /-- Literal text, and an action behind it or the rest. -/
  | text {offset : Nat} {chars cs rest : List Char} {items : List Item} (nonempty : chars ≠ [])
      (plain : ¬ Opened chars) (apart : ∀ more place, items.head? ≠ some (.text more place))
      (later : Tiles (offset + chars.length) cs items rest) :
      Tiles offset (chars ++ cs) (.text chars offset :: items) rest
  /-- An action. -/
  | action {offset : Nat} {action : Action} {cs rest : List Char} {items : List Item}
      (start_eq : action.start = offset) (delimited : Delimited action.source)
      (later : Tiles (offset + action.source.length) cs items rest) :
      Tiles offset (action.source ++ cs) (.action action :: items) rest

namespace Tiles

variable {offset : Nat} {cs rest : List Char} {items : List Item}

/-- No character is lost. -/
theorem source_eq (tiles : Tiles offset cs items rest) :
    items.flatMap Item.source ++ rest = cs := by
  induction tiles with
  | rest => rfl
  | text _ _ _ _ ih => rw [List.flatMap_cons, List.append_assoc, ih]; rfl
  | action _ _ _ ih => rw [List.flatMap_cons, List.append_assoc, ih]; rfl

/-- Items behind others stand where those end. -/
theorem behind {before : List Item} (tiles : Tiles offset cs (before ++ items) rest) :
    ∃ more, Tiles (offset + (before.flatMap Item.source).length) more items rest := by
  induction before generalizing offset cs with
  | nil => exact ⟨cs, tiles⟩
  | cons item before ih =>
      have further {here : Nat} {more : List Char} (size : Nat)
          (later : Tiles (here + size) more (before ++ items) rest)
          (first : item.source.length = size) :
          ∃ more, Tiles (here + ((item :: before).flatMap Item.source).length) more items rest := by
        rw [List.flatMap_cons, List.length_append, first, ← Nat.add_assoc]
        exact ih later
      cases tiles with
      | text _ _ _ later => exact further _ later rfl
      | action _ _ later => exact further _ later rfl

/-- An item starts where those before it end. -/
theorem start_eq {before behind : List Item} {item : Item}
    (tiles : Tiles offset cs (before ++ item :: behind) rest) :
    item.start = offset + (before.flatMap Item.source).length := by
  obtain ⟨more, later⟩ := tiles.behind
  cases later with
  | text => rfl
  | action start_eq => exact start_eq

/-- Literal texts are not empty, have no opening delimiter and do not meet. -/
theorem text_cases {before behind : List Item} {chars : List Char} {start : Nat}
    (tiles : Tiles offset cs (before ++ .text chars start :: behind) rest) :
    chars ≠ [] ∧ ¬ Opened chars ∧ ∀ more place, behind.head? ≠ some (.text more place) := by
  obtain ⟨more, later⟩ := tiles.behind
  cases later with
  | text nonempty plain apart => exact ⟨nonempty, plain, apart⟩

theorem delimited {action : Action} (tiles : Tiles offset cs items rest)
    (member : .action action ∈ items) : Delimited action.source := by
  obtain ⟨before, behind, rfl⟩ := List.append_of_mem member
  obtain ⟨more, later⟩ := tiles.behind
  cases later with
  | action _ delimited => exact delimited

end Tiles

theorem tiles_literal {offset : Nat} {chars cs rest : List Char} {items : List Item}
    (plain : ¬ Opened chars) (apart : ∀ more place, items.head? ≠ some (.text more place))
    (later : Tiles (offset + chars.length) cs items rest) :
    Tiles offset (chars ++ cs) (literal chars offset ++ items) rest := by
  cases chars with
  | nil => exact later
  | cons c chars => exact .text (List.cons_ne_nil c chars) plain apart later

/-- What a scan leaves: nothing without a defect, and otherwise a text that starts with an opening
delimiter and that the defect shows. -/
def Leaves (scan : Scan) (rest : List Char) : Prop :=
  match scan.error with
  | none => rest = []
  | some error => ['{', '{'] <+: rest ∧ error.expression = String.ofList rest

/-- By induction on the length of the text: the literal text in front, the action behind it, and
what is scanned behind that. -/
theorem exists_tiles_scanFrom (offset : Nat) (cs : List Char) :
    ∃ rest, Tiles offset cs (scanFrom offset cs).items rest ∧
      (scanFrom offset cs).stop + rest.length = offset + cs.length ∧
      Leaves (scanFrom offset cs) rest := by
  induction bound : cs.length using Nat.strongRecOn generalizing offset cs with
  | ind length ih =>
      subst bound
      have pieces := splitAtOpen_append cs
      have plain := not_opened_splitAtOpen cs
      have opened := @splitAtOpen_open cs
      rw [scanFrom_eq, consText_eq]
      generalize (splitAtOpen cs).1 = chars at *
      generalize (splitAtOpen cs).2 = tail at *
      subst pieces
      have apart := scanOpen_head (offset + chars.length) tail
      suffices behind : ∃ rest, Tiles (offset + chars.length) tail
          (scanOpen (offset + chars.length) tail).items rest ∧
          (scanOpen (offset + chars.length) tail).stop + rest.length =
            offset + chars.length + tail.length ∧
          Leaves (scanOpen (offset + chars.length) tail) rest by
        obtain ⟨rest, tiles, size, leaves⟩ := behind
        refine ⟨rest, tiles_literal plain apart tiles, ?_, leaves⟩
        rw [List.length_append, ← Nat.add_assoc]
        exact size
      cases tail with
      | nil => exact ⟨[], .rest _ _, rfl, rfl⟩
      | cons c more =>
          obtain ⟨others, shape⟩ := opened (List.cons_ne_nil c more)
          rw [shape]
          cases read : scanAction (offset + chars.length) ('{' :: '{' :: others) with
          | error fault =>
              refine ⟨'{' :: '{' :: others, ?_⟩
              rw [scanOpen, read]
              exact ⟨.rest _ _, rfl, ⟨others, rfl⟩, rfl⟩
          | ok action =>
              obtain ⟨-, start_eq, source_eq, long⟩ := readFrom_of_scanAction read
              obtain ⟨back, split⟩ : ∃ back, '{' :: '{' :: others = action.source ++ back := by
                rw [source_eq]
                exact ⟨_, (List.take_append_drop _ _).symm⟩
              have shorter : back.length < (chars ++ c :: more).length := by
                rw [shape, split, List.length_append, List.length_append]
                omega
              obtain ⟨rest, tiles, size, leaves⟩ :=
                ih _ shorter (offset + chars.length + action.source.length) back rfl
              refine ⟨rest, ?_⟩
              rw [split, scanOpen_source read back, List.length_append, ← Nat.add_assoc]
              exact ⟨.action start_eq (delimited_of_scanAction read) tiles, size, leaves⟩

/-! ## Trimming -/

/-- What trimming may do to an item: texts lose white space at their ends. -/
inductive Trims : Item → Item → Prop
  /-- Actions stay. -/
  | action (action : Action) : Trims (.action action) (.action action)
  /-- Texts stay where they are. -/
  | text {lead kept trail : List Char} {start : Nat} (before : ∀ c ∈ lead, isMargin c = true)
      (behind : ∀ c ∈ trail, isMargin c = true) :
      Trims (.text (lead ++ kept ++ trail) start) (.text kept start)

theorem exists_lead (drops : Bool) (chars : List Char) :
    ∃ lead, chars = lead ++ (if drops then chars.dropWhile isMargin else chars) ∧
      ∀ c ∈ lead, isMargin c = true := by
  cases drops with
  | false => exact ⟨[], rfl, by simp⟩
  | true =>
      refine ⟨chars.takeWhile isMargin, ?_, fun c member => List.mem_takeWhile_imp member⟩
      exact List.takeWhile_append_dropWhile.symm

theorem exists_trail (drops : Bool) (chars : List Char) :
    ∃ trail, chars = (if drops then Text.dropEndWhile isMargin chars else chars) ++ trail ∧
      ∀ c ∈ trail, isMargin c = true := by
  cases drops with
  | false => exact ⟨[], (List.append_nil chars).symm, by simp⟩
  | true =>
      refine ⟨chars.rtakeWhile isMargin, ?_, fun c member => List.mem_rtakeWhile_imp member⟩
      exact List.rdropWhile_append_rtakeWhile.symm

/-- Trimming keeps every item in its place. -/
theorem forall₂_trims_trimItems (after : Bool) (items : List Item) :
    List.Forall₂ Trims items (trimItems after items) := by
  induction items generalizing after with
  | nil => exact .nil
  | cons item items ih =>
      cases item with
      | action a => exact .cons (.action a) (ih a.trimRight)
      | text chars start =>
          obtain ⟨lead, front, before⟩ := exists_lead after chars
          obtain ⟨trail, back, behind⟩ := exists_trail (nextTrimsLeft items)
            (if after then chars.dropWhile isMargin else chars)
          rw [trimItems]
          refine .cons ?_ (ih false)
          conv_lhs => rw [front, back, ← List.append_assoc]
          exact .text before behind

/-- Scanning loses nothing and goes on: the items and what stands behind the place where the scan
stopped are the template, every item starts where the ones before it end, literal texts are not
empty, have no opening delimiter and do not meet, and actions have both of their delimiters.
Without a defect the scan stops at the end, and otherwise where the defect starts.  Trimming takes
only white space from the ends of texts. -/
theorem scan_lossless (source : String) :
    (scan source).items.flatMap Item.source ++ source.toList.drop (scan source).stop =
        source.toList ∧
      (scan source).stop ≤ source.length ∧
      ((scan source).error = none → (scan source).stop = source.length) ∧
      Leaves (scan source) (source.toList.drop (scan source).stop) ∧
      (∀ before item behind, (scan source).items = before ++ item :: behind →
        item.start = (before.flatMap Item.source).length) ∧
      (∀ before chars start behind, (scan source).items = before ++ .text chars start :: behind →
        chars ≠ [] ∧ ¬ Opened chars ∧ ∀ more place, behind.head? ≠ some (.text more place)) ∧
      (∀ action, .action action ∈ (scan source).items → Delimited action.source) ∧
      List.Forall₂ Trims (scan source).items (trimItems false (scan source).items) := by
  obtain ⟨rest, tiles, size, leaves⟩ := exists_tiles_scanFrom 0 source.toList
  rw [← scan] at tiles size leaves
  rw [Nat.zero_add, String.length_toList] at size
  have left : source.toList.drop (scan source).stop = rest := by
    have whole := congrArg List.length tiles.source_eq
    rw [List.length_append, String.length_toList] at whole
    rw [← tiles.source_eq]
    exact List.drop_left' (by omega)
  rw [left]
  refine ⟨tiles.source_eq, by omega, ?_, leaves, ?_, ?_, ?_, forall₂_trims_trimItems false _⟩
  · intro complete
    rw [Leaves, complete] at leaves
    rw [leaves, List.length_nil] at size
    exact size
  · intro before item behind split
    rw [split] at tiles
    rw [tiles.start_eq, Nat.zero_add]
  · intro before chars start behind split
    rw [split] at tiles
    exact tiles.text_cases
  · exact fun action => tiles.delimited

/-- A text, and an action that drops the white space at its end. -/
theorem scan_lossless_around_action :
    let action : Action := ⟨"\x7b\x7b- .B \x7d\x7d".toList, ['.', 'B'], 2, true, false, false⟩
    (scan "a \x7b\x7b- .B \x7d\x7d").items = [.text ['a', ' '] 0, .action action] ∧
      (scan "a \x7b\x7b- .B \x7d\x7d").stop = "a \x7b\x7b- .B \x7d\x7d".length ∧
      action.start = ([.text ['a', ' '] 0].flatMap Item.source).length ∧
      ['a', ' '] ≠ [] ∧ ¬ Opened ['a', ' '] ∧ Delimited action.source ∧
      List.Forall₂ Trims [.text ['a', ' '] 0, .action action]
        [.text ['a'] 0, .action action] := by
  intro action
  have scanned : scan "a \x7b\x7b- .B \x7d\x7d" =
      ⟨[.text ['a', ' '] 0, .action action], none, 11⟩ := by decide +kernel
  obtain ⟨-, -, complete, -, starts, texts, actions, trims⟩ :=
    scan_lossless "a \x7b\x7b- .B \x7d\x7d"
  rw [scanned] at complete starts texts actions trims
  obtain ⟨some, plain, -⟩ := texts [] ['a', ' '] 0 [.action action] rfl
  refine ⟨congrArg Scan.items scanned, ?_, ?_, some, plain, ?_, trims⟩
  · rw [scanned]
    exact complete rfl
  · exact starts [.text ['a', ' '] 0] (.action action) [] rfl
  · exact actions action (by simp)

end Promptline.Template
