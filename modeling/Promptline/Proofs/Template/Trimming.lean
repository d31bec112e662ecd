import Promptline.Proofs.Template.Bare
import Promptline.Proofs.Template.Spaced

/-!
# Trim markers and white space

Trim markers on both sides of an action undo white space that is put around it: what is left of the
neighbouring texts is what was there before, or an empty text where nothing was.
-/

namespace Promptline.Template

open Text (isMargin)

/-- The meanings of items, empty texts left out. -/
def Item.allBare (items : List Item) : List Item :=
  items.filterMap Item.bare?

theorem Item.allBare_action (a : Action) (items : List Item) :
    allBare (action a :: items) = action a.bare :: allBare items :=
  rfl

theorem Item.allBare_text_cons (chars : List Char) {here there : Nat} {items others : List Item}
    (same : allBare items = allBare others) :
    allBare (text chars here :: items) = allBare (text chars there :: others) := by
  rw [allBare, allBare] at *
  rw [List.filterMap_cons, List.filterMap_cons, same]
  rfl

theorem Item.allBare_text_nil (start : Nat) (items : List Item) :
    allBare (text [] start :: items) = allBare items :=
  rfl

/-! ## White space before an action -/

section Before

variable {margin : List Char} (white : ∀ c ∈ margin, isMargin c = true)

include white

theorem dropEndWhile_margin {chars : List Char}
    (settled : ∀ c ∈ chars.getLast?, isMargin c = false) :
    Text.dropEndWhile isMargin (chars ++ margin) = chars := by
  rw [Text.dropEndWhile_append settled, Text.dropEndWhile_of_forall white, List.append_nil]

theorem dropEndWhile_dropWhile_margin {chars : List Char}
    (settled : ∀ c ∈ chars.getLast?, isMargin c = false) :
    Text.dropEndWhile isMargin ((chars ++ margin).dropWhile isMargin) =
      chars.dropWhile isMargin := by
  rw [List.dropWhile_append]
  split
  · next nothing =>
      rw [List.isEmpty_iff.mp nothing, List.dropWhile_eq_nil_iff.mpr white]
      rfl
  · next something =>
      have split : chars.takeWhile isMargin ++ chars.dropWhile isMargin = chars :=
        List.takeWhile_append_dropWhile
      refine dropEndWhile_margin white fun c last => settled c ?_
      rw [← split, List.getLast?_append, Option.mem_def.mp last, Option.some_or]
      rfl

theorem trimItems_text_drops {a : Action} (drops : a.trimLeft = true) {chars : List Char}
    (settled : ∀ c ∈ chars.getLast?, isMargin c = false) (after : Bool) (start : Nat)
    (rest : List Item) :
    trimItems after (.text (chars ++ margin) start :: .action a :: rest) =
      .text (if after then chars.dropWhile isMargin else chars) start :: .action a ::
        trimItems a.trimRight rest := by
  rw [trimItems, trimItems]
  simp only [nextTrimsLeft, drops, if_true]
  cases after with
  | false => simp [dropEndWhile_margin white settled]
  | true => simp [dropEndWhile_dropWhile_margin white settled]

omit white in
theorem trimItems_text_keeps {b : Action} (keeps : b.trimLeft = false) (after : Bool)
    (chars : List Char) (start : Nat) (rest : List Item) :
    trimItems after (.text chars start :: .action b :: rest) =
      .text (if after then chars.dropWhile isMargin else chars) start :: .action b ::
        trimItems b.trimRight rest := by
  rw [trimItems, trimItems]
  simp only [nextTrimsLeft, keeps, Bool.false_eq_true, if_false]

omit white in
theorem joinItems_text_literal (chars margin : List Char) (start place : Nat) :
    joinItems [.text chars start] (literal margin place) = [.text (chars ++ margin) start] := by
  cases margin <;> simp [literal, joinItems]

omit white in
theorem joinItems_action (c : Action) (items later : List Item) :
    joinItems (.action c :: items) later = .action c :: joinItems items later :=
  joinItems.eq_3 _ _ _ (by simp)

omit white in
theorem nextTrimsLeft_join (next : Item) (items back others : List Item) (margin : List Char)
    (place : Nat) :
    nextTrimsLeft (joinItems (next :: items) (literal margin place) ++ back) =
      nextTrimsLeft (next :: items ++ others) := by
  cases next with
  | action c => rfl
  | text chars start =>
      cases items with
      | nil => rw [joinItems_text_literal]; rfl
      | cons item items => rfl

/-- White space before an action that drops it makes no difference, if there was none before.  By
induction on the items before it: only the last one is next to the white space. -/
theorem allBare_trimItems_join {items rest others : List Item} {a b : Action}
    (settled : ∀ chars start, items.getLast? = some (.text chars start) →
      ∀ c ∈ chars.getLast?, isMargin c = false)
    (drops : a.trimLeft = true) (keeps : b.trimLeft = false) (bare : a.bare = b.bare)
    (same : Item.allBare (trimItems a.trimRight rest) =
      Item.allBare (trimItems b.trimRight others)) (after : Bool) (place : Nat) :
    Item.allBare (trimItems after (joinItems items (literal margin place) ++ .action a :: rest)) =
      Item.allBare (trimItems after (items ++ .action b :: others)) := by
  have actions : Item.allBare (.action a :: trimItems a.trimRight rest) =
      Item.allBare (.action b :: trimItems b.trimRight others) := by
    rw [Item.allBare_action, Item.allBare_action, bare, same]
  induction items generalizing after with
  | nil =>
      cases margin with
      | nil => exact actions
      | cons c margin =>
          have dropped := @trimItems_text_drops (c :: margin) white a drops [] (by simp) after place
            rest
          have nothing : (if after then [].dropWhile isMargin else []) = ([] : List Char) := by
            cases after <;> rfl
          rw [nothing, List.nil_append] at dropped
          exact (congrArg Item.allBare dropped).trans actions
  | cons item items ih =>
      have later : ∀ chars start, items.getLast? = some (.text chars start) →
          ∀ c ∈ chars.getLast?, isMargin c = false := by
        intro chars start last
        exact settled chars start (by rw [List.getLast?_cons, last, Option.getD_some])
      cases item with
      | action c =>
          rw [joinItems_action, List.cons_append, List.cons_append, trimItems, trimItems,
            Item.allBare_action, Item.allBare_action, ih later]
      | text chars start =>
          cases items with
          | nil =>
              rw [joinItems_text_literal, List.singleton_append, List.singleton_append,
                trimItems_text_drops white drops (settled chars start rfl),
                trimItems_text_keeps keeps]
              exact Item.allBare_text_cons _ actions
          | cons next items =>
              have joined : joinItems (.text chars start :: next :: items) (literal margin place) =
                  .text chars start :: joinItems (next :: items) (literal margin place) := rfl
              rw [joined, List.cons_append, List.cons_append, trimItems, trimItems,
                nextTrimsLeft_join next items _ (.action b :: others)]
              exact Item.allBare_text_cons _ (ih later false)

end Before

/-- A complete scan loses no character. -/
theorem flatMap_source_scanFrom {offset : Nat} {cs : List Char}
    (complete : (scanFrom offset cs).error = none) :
    (scanFrom offset cs).items.flatMap Item.source = cs := by
  induction bound : cs.length using Nat.strongRecOn generalizing offset cs with
  | ind length ih =>
      subst bound
      have pieces := splitAtOpen_append cs
      rw [scanFrom_eq, consText_eq] at complete ⊢
      generalize (splitAtOpen cs).1 = chars at *
      generalize (splitAtOpen cs).2 = tail at *
      subst pieces
      have text : (literal chars offset).flatMap Item.source = chars := by
        cases chars with
        | nil => rfl
        | cons c chars => exact List.append_nil _
      rw [List.flatMap_append, text]
      cases tail with
      | nil => simp [scanOpen]
      | cons c rest =>
          cases read : scanAction (offset + chars.length) (c :: rest) with
          | error fault => simp [scanOpen, read] at complete
          | ok action =>
              obtain ⟨-, -, source, long⟩ := readFrom_of_scanAction read
              have split := List.take_append_drop action.source.length (c :: rest)
              rw [← source] at split
              have shorter : ((c :: rest).drop action.source.length).length <
                  (chars ++ c :: rest).length := by
                have size := congrArg List.length split
                rw [List.length_append] at size
                rw [List.length_append]
                omega
              have whole := scanOpen_source read ((c :: rest).drop action.source.length)
              rw [split] at whole
              simp only [whole, cons_error] at complete ⊢
              rw [Scan.cons, List.flatMap_cons, ih _ shorter complete rfl, Item.source, split]

/-- The last text of a scan is the end of what was scanned. -/
theorem settled_of_scan {source : String} (complete : (scan source).error = none)
    {p : Char → Bool} (ends : ∀ c ∈ source.toList.getLast?, p c = false) :
    ∀ chars start, (scan source).items.getLast? = some (.text chars start) →
      ∀ c ∈ chars.getLast?, p c = false := by
  intro chars start last c member
  obtain ⟨front, split⟩ := List.getLast?_eq_some_iff.mp last
  have whole := flatMap_source_scanFrom complete
  rw [← scan, split, List.flatMap_append, List.flatMap_singleton, Item.source] at whole
  refine ends c ?_
  rw [← whole, List.getLast?_append, Option.mem_def.mp member, Option.some_or]
  rfl

/-! ## White space behind an action -/

theorem splitAtOpen_of_not_mem {cs : List Char} (absent : '{' ∉ cs) :
    splitAtOpen cs = (cs, []) := by
  refine splitAtOpen_eq_self_iff.mpr fun opened => absent ?_
  exact opened.subset List.mem_cons_self

theorem recorded_literal (chars : List Char) (start : Nat) :
    (literal chars start).flatMap Item.recorded = [] := by
  rw [literal]
  split <;> rfl

section Behind

variable {margin : List Char} (white : ∀ c ∈ margin, isMargin c = true)

include white

theorem not_mem_margin : '{' ∉ margin :=
  fun member => absurd (white _ member) (by decide)

theorem scanFrom_margin_append (offset : Nat) (cs : List Char) :
    scanFrom offset (margin ++ cs) =
      let later := scanOpen (offset + margin.length + (splitAtOpen cs).1.length) (splitAtOpen cs).2
      { later with items := literal (margin ++ (splitAtOpen cs).1) offset ++ later.items } := by
  have absent := not_mem_margin white
  have apart : ¬ (margin.getLast? = some '{' ∧ cs.head? = some '{') :=
    fun both => absent (List.mem_of_getLast? both.1)
  have unopened := splitAtOpen_of_not_mem absent
  rw [scanFrom_eq, splitAtOpen_append_of_none (congrArg Prod.snd unopened) apart, consText_eq,
    List.length_append, Nat.add_assoc]

theorem error_scanFrom_margin (offset : Nat) (cs : List Char) :
    (scanFrom offset (margin ++ cs)).error = (scanFrom (offset + margin.length) cs).error := by
  rw [scanFrom_margin_append white, scanFrom_eq (offset + margin.length), consText_error]

theorem recorded_scanFrom_margin (offset : Nat) (cs : List Char) :
    (scanFrom offset (margin ++ cs)).items.flatMap Item.recorded =
      (scanFrom (offset + margin.length) cs).items.flatMap Item.recorded := by
  rw [scanFrom_margin_append white, scanFrom_eq (offset + margin.length), consText_eq]
  simp only [List.flatMap_append, recorded_literal]

/-- White space behind an action that drops it makes no difference, if there was none before. -/
theorem allBare_trimItems_margin {cs : List Char} (starts : ∀ c ∈ cs.head?, isMargin c = false)
    (offset : Nat) :
    Item.allBare (trimItems true (scanFrom offset (margin ++ cs)).items) =
      Item.allBare (trimItems false (scanFrom (offset + margin.length) cs).items) := by
  have pieces := splitAtOpen_append cs
  have actions := scanOpen_head (offset + margin.length + (splitAtOpen cs).1.length)
    (splitAtOpen cs).2
  rw [scanFrom_margin_append white, scanFrom_eq (offset + margin.length), consText_eq]
  simp only
  generalize (scanOpen _ _).items = opened at *
  generalize (splitAtOpen cs).1 = chars at *
  have unflagged : trimItems true opened = trimItems false opened := by
    cases opened with
    | nil => rfl
    | cons item rest =>
        cases item with
        | text chars start => exact absurd rfl (actions chars start)
        | action a => rfl
  cases chars with
  | nil =>
      rw [List.append_nil, literal, literal]
      split
      · exact congrArg Item.allBare unflagged
      · have nothing : margin.dropWhile isMargin = [] := List.dropWhile_eq_nil_iff.mpr white
        have dropped : (if nextTrimsLeft opened then Text.dropEndWhile isMargin [] else []) =
            ([] : List Char) := by
          split <;> rfl
        simp only [List.singleton_append, trimItems, if_true, nothing, dropped]
        exact Item.allBare_text_nil _ _
  | cons c chars =>
      have solid : isMargin c = false := starts c (by rw [← pieces]; rfl)
      have kept : (margin ++ c :: chars).dropWhile isMargin = c :: chars := by
        rw [List.dropWhile_append_of_pos white, List.dropWhile_cons_of_neg (by simp [solid])]
      have text (front : List Char) (start : Nat) :
          literal (front ++ c :: chars) start = [.text (front ++ c :: chars) start] :=
        if_neg (by simp)
      have alone := text [] (offset + margin.length)
      rw [List.nil_append] at alone
      rw [text, alone, List.singleton_append, List.singleton_append, trimItems, trimItems, kept]
      exact Item.allBare_text_cons _ rfl

end Behind

/-! ## Places -/

theorem Item.bare?_moved (distance : Nat) (item : Item) :
    (item.moved distance).bare? = item.bare? := by
  cases item <;> rfl

/-- Where a text stands does not matter for the meanings of its items. -/
theorem allBare_trimItems_scanFrom (here there : Nat) (after : Bool) (cs : List Char) :
    Item.allBare (trimItems after (scanFrom here cs).items) =
      Item.allBare (trimItems after (scanFrom there cs).items) := by
  have same (offset : Nat) : Item.allBare (trimItems after (scanFrom offset cs).items) =
      Item.allBare (trimItems after (scanFrom 0 cs).items) := by
    rw [scanFrom_eq_moved, Scan.moved, trimItems_moved, Item.allBare, Item.allBare,
      List.filterMap_map]
    exact congrArg (List.filterMap · _) (funext (Item.bare?_moved offset))
  rw [same here, same there]

theorem error_scanFrom {here there : Nat} {cs : List Char}
    (complete : (scanFrom here cs).error = none) : (scanFrom there cs).error = none := by
  rw [scanFrom_eq_moved, Scan.moved, Option.map_eq_none_iff] at complete
  rw [scanFrom_eq_moved, Scan.moved, complete, Option.map_none]

theorem recorded_scanFrom (here there : Nat) (cs : List Char) :
    (scanFrom here cs).items.flatMap Item.recorded =
      (scanFrom there cs).items.flatMap Item.recorded := by
  have recorded (offset : Nat) : Item.recorded ∘ Item.moved offset = Item.recorded := by
    funext item
    cases item <;> rfl
  have same (offset : Nat) : (scanFrom offset cs).items.flatMap Item.recorded =
      (scanFrom 0 cs).items.flatMap Item.recorded := by
    rw [scanFrom_eq_moved, Scan.moved, List.flatMap_map]
    exact congrArg (List.flatMap · _) (recorded offset)
  rw [same here, same there]

theorem recorded_joinItems (items later : List Item) :
    (joinItems items later).flatMap Item.recorded =
      items.flatMap Item.recorded ++ later.flatMap Item.recorded := by
  rcases joinItems_cases items later with
    apart | ⟨front, chars, start, more, place, back, rfl, rfl, joined⟩
  · rw [apart, List.flatMap_append]
  · rw [joined]
    simp [Item.recorded]

/-! ## Trim markers -/

section Marked

variable {before behind body left right : String}

/-- White space behind a complete template is joined with the text before it. -/
theorem scan_append_margin (white : ∀ c ∈ left.toList, isMargin c = true)
    (complete : (scan before).error = none) :
    (scan (before ++ left)).error = none ∧
      (scan (before ++ left)).items =
        joinItems (scan before).items (literal left.toList before.length) := by
  have absent := not_mem_margin white
  have apart : ¬ (before.toList.getLast? = some '{' ∧ left.toList.head? = some '{') :=
    fun both => absent (List.mem_of_head? both.2)
  have whole := scanFrom_append 0 complete apart
  rw [scanFrom_eq (0 + _), splitAtOpen_of_not_mem absent, scanOpen, consText_eq, Nat.zero_add,
    String.length_toList, List.append_nil] at whole
  rw [scan, String.toList_append, whole]
  exact ⟨rfl, rfl⟩

/-- What is recorded of an action is the action as written, with or without trim markers. -/
theorem recorded_trimmingAction (body : String) :
    (Item.action (trimmingAction body)).recorded = [trimming body] ∧
        (Item.action (placeholderAction body)).recorded = [placeholder body] ∨
      (Item.action (trimmingAction body)).recorded = [] ∧
        (Item.action (placeholderAction body)).recorded = [] := by
  have keyword : (trimmingAction body).keyword = (placeholderAction body).keyword := rfl
  have text : (placeholderAction body).text = placeholder body := String.ofList_toList
  have text_marked : (trimmingAction body).text = trimming body := String.ofList_toList
  simp only [Item.recorded, keyword, text, text_marked]
  cases (placeholderAction body).keyword with
  | error fault => exact .inr ⟨rfl, rfl⟩
  | ok keyword => cases keyword <;> simp [placeholderAction, trimmingAction, Keyword.isRecorded]

section Between

variable (closed : Closed body.toList) (plain : ¬ ['/', '*'] <+: Text.trimBlank body.toList)
  (white_left : ∀ c ∈ left.toList, isMargin c = true)
  (white_right : ∀ c ∈ right.toList, isMargin c = true) (complete : (scan before).error = none)
  (apart : before.toList.getLast? ≠ some '{')

include closed plain white_left complete apart

theorem scan_trimming_between :
    let action := (trimmingAction body).moved (before ++ left).length
    let later := scanFrom ((before ++ left).length + (trimming body).length)
      (right ++ behind).toList
    scan (before ++ left ++ trimming body ++ right ++ behind) =
      { later with items :=
          joinItems (scan before).items (literal left.toList before.length) ++
            .action action :: later.items } := by
  obtain ⟨complete_left, items⟩ := scan_append_margin white_left complete
  have apart_left : (before ++ left).toList.getLast? ≠ some '{' := by
    rw [String.toList_append, List.getLast?_append]
    intro brace
    rcases Option.or_eq_some_iff.mp brace with last | ⟨-, last⟩
    · exact not_mem_margin white_left (List.mem_of_getLast? last)
    · exact apart last
  have behind_eq : before ++ left ++ trimming body ++ right ++ behind =
      before ++ left ++ trimming body ++ (right ++ behind) := String.append_assoc
  rw [← items, behind_eq]
  exact scan_splice (closed.scanAction_trimming plain) rfl ⟨_, toList_trimming body⟩ complete_left
    apart_left

include white_right

theorem complete_trimming_between
    (accepted : (scan (before ++ placeholder body ++ behind)).error = none) :
    (scan (before ++ left ++ trimming body ++ right ++ behind)).error = none := by
  rw [scan_placeholder_between closed complete apart] at accepted
  rw [scan_trimming_between closed plain white_left complete apart, String.toList_append,
    error_scanFrom_margin white_right]
  exact error_scanFrom accepted

/-- Once trimmed, the items mean the same with white space and markers as without. -/
theorem allBare_trimming_between
    (settled : ∀ chars start, (scan before).items.getLast? = some (.text chars start) →
      ∀ c ∈ chars.getLast?, isMargin c = false)
    (starts : ∀ c ∈ behind.toList.head?, isMargin c = false) :
    Item.allBare (trimItems false
        (scan (before ++ left ++ trimming body ++ right ++ behind)).items) =
      Item.allBare (trimItems false (scan (before ++ placeholder body ++ behind)).items) := by
  rw [scan_placeholder_between closed complete apart,
    scan_trimming_between closed plain white_left complete apart, String.toList_append]
  have drops : ((trimmingAction body).moved (before ++ left).length).trimLeft = true := rfl
  have keeps : ((placeholderAction body).moved before.length).trimLeft = false := rfl
  refine allBare_trimItems_join white_left settled drops keeps rfl ?_ false before.length
  exact (allBare_trimItems_margin white_right starts _).trans
    (allBare_trimItems_scanFrom _ _ false _)

/-- Apart from the action itself, the items record the same with white space and markers as
without. -/
theorem recorded_trimming_between :
    ∃ later,
      (scan (before ++ left ++ trimming body ++ right ++ behind)).items.flatMap Item.recorded =
        (scan before).items.flatMap Item.recorded ++
          (Item.action (trimmingAction body)).recorded ++ later ∧
      (scan (before ++ placeholder body ++ behind)).items.flatMap Item.recorded =
        (scan before).items.flatMap Item.recorded ++
          (Item.action (placeholderAction body)).recorded ++ later := by
  refine ⟨(scan behind).items.flatMap Item.recorded, ?_, ?_⟩
  · rw [scan_trimming_between closed plain white_left complete apart, String.toList_append,
      List.flatMap_append, recorded_joinItems, recorded_literal, List.append_nil,
      List.flatMap_cons, recorded_scanFrom_margin white_right, recorded_scanFrom _ 0,
      ← List.append_assoc]
    rfl
  · rw [scan_placeholder_between closed complete apart, List.flatMap_append, List.flatMap_cons,
      recorded_scanFrom _ 0, ← List.append_assoc]
    rfl

end Between

/-- Trim markers undo white space: if it is put on both sides of an action where there was none, and
the action is marked on both sides, the template has the same parts as before, up to empty texts and
to the marked action as it is written. -/
theorem trim_markers_undo_white_space
    (white : ∀ c ∈ left.toList ++ right.toList, isMargin c = true)
    (plain : ¬ ['/', '*'] <+: (Text.trim body).toList) (single : IsAction (placeholder body))
    (complete : (scan before).error = none)
    (ends : ∀ c ∈ before.toList.getLast?, isMargin c = false ∧ c ≠ '{')
    (starts : ∀ c ∈ behind.toList.head?, isMargin c = false)
    (accepted : (parse (before ++ placeholder body ++ behind)).error = none) :
    let marked := parse (before ++ left ++ trimming body ++ right ++ behind)
    let unmarked := parse (before ++ placeholder body ++ behind)
    marked.error = none ∧
      Part.allBare marked.parts = Part.allBare unmarked.parts ∧
      ∃ written unwritten later,
        Part.allSources marked.parts =
          (scan before).items.flatMap Item.recorded ++ written ++ later ∧
        Part.allSources unmarked.parts =
          (scan before).items.flatMap Item.recorded ++ unwritten ++ later ∧
        (written = [trimming body] ∧ unwritten = [placeholder body] ∨
          written = [] ∧ unwritten = []) := by
  obtain ⟨white_left, white_right⟩ := List.forall_mem_append.mp white
  have closed := isAction_placeholder_iff.mp single
  have apart : before.toList.getLast? ≠ some '{' := fun brace => (ends _ brace).2 rfl
  have settled := settled_of_scan complete fun c last => (ends c last).1
  rw [Text.trim, String.toList_ofList] at plain
  have scanned := complete_trimming_between closed plain white_left white_right complete apart
    (State.through_of_complete accepted).1
  have same := allBare_trimming_between closed plain white_left white_right complete apart settled
    starts
  obtain ⟨accepted_marked, parts⟩ := parse_of_bare accepted scanned same.symm
  obtain ⟨later, marked, unmarked⟩ := @recorded_trimming_between before behind body left right
    closed plain white_left white_right complete apart
  refine ⟨accepted_marked, parts, _, _, later, ?_, ?_, recorded_trimmingAction body⟩
  · rw [sources_of_complete accepted_marked, marked]
  · rw [sources_of_complete accepted, unmarked]

/-- A guard between white space, marked on both sides, is the guard without either. -/
theorem marked_guard_is_guard :
    let marked := parse ("a" ++ " \n" ++ trimming "if x" ++ "\t" ++ "b\x7b\x7b end \x7d\x7d")
    marked.error = none ∧
      Part.allBare marked.parts = [.text "a", .conditional [.mk "" "x" [.text "b"]] []] ∧
      Part.allSources marked.parts = [trimming "if x"] := by
  have undone := @trim_markers_undo_white_space "a" "b\x7b\x7b end \x7d\x7d" "if x" " \n" "\t"
    (by simp [isMargin]) (by decide +kernel) (isAction_placeholder_iff.mpr (by decide +kernel))
    (by cbv) (by simp [isMargin]) (by simp [isMargin]) (by cbv)
  obtain ⟨accepted, parts, -⟩ := undone
  refine ⟨accepted, parts.trans ?_, ?_⟩
  · cbv
  · cbv

end Marked

end Promptline.Template
