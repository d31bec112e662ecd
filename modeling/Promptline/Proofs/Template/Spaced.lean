import Promptline.Proofs.Template.Placeholder
import Promptline.Proofs.Template.Prefix

/-!
# Actions with blanks inside their delimiters

Between blanks and delimiters, whether a text is one action depends on the text alone: the search
for the closing delimiter comes to the blank behind the text outside any string.  So the same text
is one action with trim markers too, and behind any words.
-/

namespace Promptline.Template

open Lexer (Inert)

/-- A text that, followed by a blank and the closing delimiter, is closed only at its end. -/
def Closed (body : List Char) : Prop :=
  insideLength? none (body ++ [' ', '}', '}']) = some (body.length + 1)

instance (body : List Char) : Decidable (Closed body) :=
  inferInstanceAs (Decidable (_ = _))

/-- By induction along the search, with the string that is open: a search that gets to the delimiter
behind the blank has come to the blank outside any string. -/
theorem insideLength?_spaced {quote : Option Char} {body : List Char}
    (quoted : ∀ mark ∈ quote, isQuote mark = true)
    (closed : insideLength? quote (body ++ [' ', '}', '}']) = some (body.length + 1))
    (rest : List Char) :
    insideLength? quote (body ++ ' ' :: rest) =
      (insideLength? none (' ' :: rest)).map (· + body.length) := by
  fun_induction insideLength? quote body with
  | case1 quote =>
      cases quote with
      | none => simp
      | some mark =>
          have unclosed : insideLength? (some mark) [' ', '}', '}'] = none := by
            have listed : mark = '"' ∨ mark = Lexer.rawMark := by
              simpa [isQuote] using quoted mark rfl
            rcases listed with rfl | rfl <;> rfl
          rw [List.nil_append, unclosed] at closed
          contradiction
  | case2 cs => simp [insideLength?] at closed
  | case3 c cs unclosed ih =>
      have later (more : List Char) :
          ∀ tail, c = '}' → cs ++ ' ' :: more = '}' :: tail → False := by
        intro tail brace same
        cases cs with
        | nil => simp at same
        | cons d cs =>
            cases same
            exact unclosed cs brace rfl
      rw [List.cons_append, insideLength?.eq_3 _ _ (later _), Option.map_eq_some_iff] at closed
      obtain ⟨length, found, size⟩ := closed
      obtain rfl : length = cs.length + 1 := by simpa using size
      have opened : ∀ mark ∈ (if isQuote c then some c else none), isQuote mark = true := by
        intro mark member
        split at member
        · next quote =>
            obtain rfl := Option.some.inj member
            exact quote
        · exact absurd member (Option.not_mem_none mark)
      rw [List.cons_append, insideLength?.eq_3 _ _ (later _), ih opened found, Option.map_map]
      congr 1
  | case4 c cs ih =>
      rw [List.cons_append, List.cons_append, insideLength?, Option.map_eq_some_iff] at closed
      obtain ⟨length, found, size⟩ := closed
      obtain rfl : length = cs.length + 1 := by simpa using size
      rw [List.cons_append, List.cons_append, insideLength?.eq_4, ih quoted found, Option.map_map]
      congr 1
  | case5 mark c cs unescaped ih =>
      by_cases escape : mark = '"' ∧ c = '\\' ∧ cs = []
      · obtain ⟨rfl, rfl, rfl⟩ := escape
        simp [insideLength?] at closed
      · have later (more : List Char) :
            ∀ d tail, mark = '"' → c = '\\' → cs ++ ' ' :: more = d :: tail → False := by
          intro d tail quote backslash same
          cases cs with
          | nil => exact escape ⟨quote, backslash, rfl⟩
          | cons e cs => exact unescaped e cs quote backslash rfl
        rw [List.cons_append, insideLength?.eq_5 _ _ _ (later _), Option.map_eq_some_iff] at closed
        obtain ⟨length, found, size⟩ := closed
        obtain rfl : length = cs.length + 1 := by simpa using size
        have still : ∀ other ∈ (if c = mark then none else some mark), isQuote other = true := by
          intro other member
          split at member
          · exact absurd member (Option.not_mem_none other)
          · exact quoted other member
        rw [List.cons_append, insideLength?.eq_5 _ _ _ (later _), ih still found, Option.map_map]
        congr 1

theorem insideLength?_blank (cs : List Char) :
    insideLength? none (' ' :: cs) = (insideLength? none cs).map (· + 1) :=
  insideLength?_of_not_mem (by decide) cs

namespace Closed

variable {body : List Char}

theorem insideLength?_eq (closed : Closed body) (rest : List Char) :
    insideLength? none (body ++ ' ' :: rest) =
      (insideLength? none rest).map (· + (body.length + 1)) := by
  rw [insideLength?_spaced (by simp) closed, insideLength?_blank, Option.map_map]
  congr 1
  funext length
  simp only [Function.comp_apply]
  omega

/-- Words in front make no difference. -/
theorem append_iff {front : List Char} (passes : Passes front) :
    Closed (front ++ body) ↔ Closed body := by
  rw [Closed, List.append_assoc, passes, Option.map_eq_some_iff, List.length_append]
  constructor
  · rintro ⟨length, found, size⟩
    rw [Closed, found, Option.some.injEq]
    omega
  · intro closed
    exact ⟨body.length + 1, closed, by omega⟩

end Closed

/-! ## What is read between delimiters and blanks -/

/-- A text with trim markers on both sides. -/
def trimming (body : String) : String :=
  "\x7b\x7b- " ++ body ++ " -\x7d\x7d"

/-- The action that a text with trim markers on both sides is. -/
def trimmingAction (body : String) : Action where
  source := (trimming body).toList
  body := Text.trimBlank body.toList
  start := 0
  trimLeft := true
  trimRight := true

/-- A text is scanned as one action. -/
def IsAction (source : String) : Prop :=
  ∃ action, (scan source).items = [.action action] ∧ (scan source).error = none

theorem toList_trimming (body : String) :
    (trimming body).toList =
      '{' :: '{' :: (('-' :: ' ' :: (body.toList ++ [' ', '-'])) ++ ['}', '}']) := by
  simp [trimming]

/-- Behind a trim marker a comment opens only if the text does, white space apart. -/
theorem commentOpening?_marked {body : List Char} (plain : ¬ ['/', '*'] <+: Text.trimBlank body)
    (rest : List Char) : commentOpening? ('-' :: ' ' :: (body ++ ' ' :: '-' :: rest)) = none := by
  have space : Text.isBlank ' ' = true := by decide
  have minus : Text.isBlank '-' = false := by decide
  have unopened : Text.startsWith ['/', '*']
      ((' ' :: (body ++ ' ' :: '-' :: rest)).dropWhile Text.isBlank) = false := by
    rw [List.dropWhile_cons_of_pos space, List.dropWhile_append]
    split
    · simp [space, minus, Text.startsWith, Text.afterPrefix?]
    · rw [Bool.eq_false_iff]
      intro opened
      obtain ⟨more, found⟩ := Option.isSome_iff_exists.mp opened
      have split := Text.eq_append_of_afterPrefix? found
      refine plain ?_
      cases kept : body.dropWhile Text.isBlank with
      | nil => simp [kept] at split
      | cons c others =>
          cases others with
          | nil => simp [kept] at split
          | cons d others =>
              obtain ⟨rfl, rfl, -⟩ : c = '/' ∧ d = '*' ∧ others ++ ' ' :: '-' :: rest = more := by
                simpa [kept] using split
              have star : Text.isBlank '*' = false := by decide
              have front := @Text.dropEndWhile_append Text.isBlank ['/', '*'] (by simpa using star)
              rw [Text.trimBlank, Text.trimWhile, kept]
              exact ⟨_, (front others).symm⟩
  rw [commentOpening?, Text.drop_extent]
  simp [unopened]

namespace Closed

variable {body : String}

theorem scanAction_placeholder (closed : Closed body.toList) :
    scanAction 0 (placeholder body).toList = .ok (placeholderAction body) := by
  have length : insideLength? none (' ' :: (body.toList ++ [' ']) ++ ['}', '}']) =
      some (' ' :: (body.toList ++ [' '])).length := by
    rw [Closed] at closed
    rw [List.cons_append, List.append_assoc, insideLength?_blank]
    simpa using closed
  have space : ∀ c ∈ [' '], Text.isBlank c = true := List.forall_mem_singleton.mpr (by decide)
  have kept : Text.trimBlank (' ' :: (body.toList ++ [' '])) = Text.trimBlank body.toList :=
    Text.trimWhile_margins space space body.toList
  have whole : (placeholder body).toList =
      '{' :: '{' :: (' ' :: (body.toList ++ [' ']) ++ ['}', '}']) := by
    simp [toList_placeholder]
  rw [placeholderAction, whole, scanAction_of_length length rfl]
  simp [actionOf, kept, opensWithMarker]

theorem scanAction_trimming (closed : Closed body.toList)
    (plain : ¬ ['/', '*'] <+: Text.trimBlank body.toList) :
    scanAction 0 (trimming body).toList = .ok (trimmingAction body) := by
  have length : insideLength? none ('-' :: ' ' :: (body.toList ++ [' ', '-']) ++ ['}', '}']) =
      some ('-' :: ' ' :: (body.toList ++ [' ', '-'])).length := by
    have inside := closed.insideLength?_eq ['-', '}', '}']
    rw [insideLength?_of_not_mem (by decide), insideLength?, Option.map_some] at inside
    have whole : '-' :: ' ' :: (body.toList ++ [' ', '-']) ++ ['}', '}'] =
        '-' :: ' ' :: (body.toList ++ ' ' :: ['-', '}', '}']) := by
      simp
    rw [whole, insideLength?_of_not_mem (by decide), insideLength?_blank, inside]
    simp only [Option.map_some, List.length_cons, List.length_append, List.length_nil]
    congr 1
    omega
  have uncommented := commentOpening?_marked plain ['}', '}']
  rw [trimmingAction, toList_trimming, scanAction_of_length length (by simpa using uncommented)]
  have space : Text.isBlank ' ' = true := by decide
  simp [actionOf, opensWithMarker, space]

end Closed

/-! ## Single actions -/

theorem scanFrom_nil (offset : Nat) : scanFrom offset [] = ⟨[], none, offset⟩ := by
  rw [scanFrom_eq]
  rfl

/-- A text without items and defects is empty. -/
theorem eq_nil_of_scanFrom {offset : Nat} {cs : List Char}
    (nothing : (scanFrom offset cs).items = []) (complete : (scanFrom offset cs).error = none) :
    cs = [] := by
  rw [scanFrom_eq, consText_eq] at nothing complete
  obtain ⟨text, actions⟩ := List.append_eq_nil_iff.mp nothing
  have pieces := splitAtOpen_append cs
  cases tail : (splitAtOpen cs).2 with
  | nil =>
      have empty : (splitAtOpen cs).1 = [] := by simpa [literal] using text
      rw [← pieces, empty, tail, List.append_nil]
  | cons c rest =>
      rw [tail, scanOpen] at actions complete
      split at complete
      · contradiction
      · next read =>
          rw [read] at actions
          contradiction

/-- An action is scanned before what follows it. -/
theorem scanFrom_source {start : Nat} {cs : List Char} {action : Action}
    (read : scanAction start cs = .ok action) (opens : ∃ more, cs = '{' :: '{' :: more)
    (rest : List Char) :
    scanFrom start (action.source ++ rest) =
      Scan.cons (.action action) (scanFrom (start + action.source.length) rest) := by
  obtain ⟨-, -, source, long⟩ := readFrom_of_scanAction read
  obtain ⟨more, rfl⟩ := opens
  obtain ⟨others, split⟩ : ∃ others, action.source ++ rest = '{' :: '{' :: others := by
    rw [source, ← Nat.sub_add_cancel long]
    exact ⟨_, rfl⟩
  have front : splitAtOpen (action.source ++ rest) = ([], action.source ++ rest) := by
    rw [split, splitAtOpen]
  rw [scanFrom_eq, front]
  exact scanOpen_source read rest

/-- A text between delimiters and blanks that is read as a whole is closed only at its end. -/
theorem closed_of_scanAction {body : String} {start : Nat} {action : Action}
    (read : scanAction start (placeholder body).toList = .ok action)
    (whole : (placeholder body).toList.length ≤ action.source.length) : Closed body.toList := by
  have uncommented : commentOpening? (' ' :: (body.toList ++ [' ', '}', '}'])) = none := rfl
  rw [toList_placeholder] at read whole
  simp only [scanAction, List.drop_succ_cons, List.drop_zero, uncommented] at read
  split at read
  · contradiction
  · next length found =>
      obtain rfl := Except.ok.inj read
      obtain ⟨bound, -⟩ := insideLength?_bounds found
      rw [insideLength?_blank, Option.map_eq_some_iff] at found
      obtain ⟨inside, found, rfl⟩ := found
      simp only [actionOf, List.length_cons, List.length_append, List.length_nil,
        List.length_take] at bound whole
      rw [Closed, found, Option.some.injEq]
      omega

/-- A text between delimiters and blanks is one action exactly if it is closed only at its end. -/
theorem isAction_placeholder_iff {body : String} :
    IsAction (placeholder body) ↔ Closed body.toList := by
  have opens : ∃ more, (placeholder body).toList = '{' :: '{' :: more :=
    ⟨_, toList_placeholder body⟩
  constructor
  · rintro ⟨action, items, complete⟩
    have front : splitAtOpen (placeholder body).toList = ([], (placeholder body).toList) := by
      rw [toList_placeholder, splitAtOpen]
    rw [scan, scanFrom_eq, front, consText_eq] at items complete
    obtain ⟨first, -, read, whole⟩ := scanOpen_of_cons items
    simp only [whole] at items complete
    have rest := eq_nil_of_scanFrom (List.cons.inj items).2 complete
    exact closed_of_scanAction read (List.drop_eq_nil_iff.mp rest)
  · intro closed
    have alone := scanFrom_source (closed.scanAction_placeholder) opens []
    rw [List.append_nil, scanFrom_nil] at alone
    exact ⟨_, congrArg Scan.items alone, congrArg Scan.error alone⟩

/-! ## Actions between templates -/

theorem scanFrom_eq_moved (offset : Nat) (cs : List Char) :
    scanFrom offset cs = (scanFrom 0 cs).moved offset := by
  have moved := scanFrom_moved 0 offset cs
  rwa [Nat.zero_add] at moved

theorem trimItems_moved (distance : Nat) (after : Bool) (items : List Item) :
    trimItems after (items.map (Item.moved distance)) =
      (trimItems after items).map (Item.moved distance) := by
  induction items generalizing after with
  | nil => rfl
  | cons item items ih =>
      cases item with
      | action a => simp [trimItems, Item.moved, Action.moved, ih]
      | text chars start =>
          have next : nextTrimsLeft (items.map (Item.moved distance)) = nextTrimsLeft items := by
            cases items with
            | nil => rfl
            | cons item items => cases item <;> rfl
          simp [trimItems, Item.moved, next, ih]

/-- A template, an action and what follows them are scanned one after the other, if the template is
complete and no opening delimiter lies across its end. -/
theorem scan_splice {front source back : String} {action : Action}
    (read : scanAction 0 source.toList = .ok action) (whole : action.source = source.toList)
    (opens : ∃ more, source.toList = '{' :: '{' :: more) (complete : (scan front).error = none)
    (apart : front.toList.getLast? ≠ some '{') :
    scan (front ++ source ++ back) =
      let later := scanFrom (front.length + source.length) back.toList
      { later with
        items := (scan front).items ++ .action (action.moved front.length) :: later.items } := by
  have here : scanAction front.length source.toList = .ok (action.moved front.length) := by
    have moved := scanAction_moved 0 front.length source.toList
    rwa [Nat.zero_add, read] at moved
  have behind := scanFrom_source here opens back.toList
  have text : ∀ chars start,
      (Scan.cons (.action (action.moved front.length))
        (scanFrom (front.length + (action.moved front.length).source.length)
          back.toList)).items.head? ≠ some (.text chars start) := by
    simp [Scan.cons]
  have placed : (action.moved front.length).source = source.toList := whole
  rw [placed, String.length_toList] at behind text
  rw [scan, String.toList_append, String.toList_append, List.append_assoc,
    scanFrom_append 0 complete (fun both => apart both.1), String.length_toList, Nat.zero_add,
    behind, Scan.after, joinItems_of_head text]
  rfl

theorem scan_placeholder_between {before body behind : String} (closed : Closed body.toList)
    (complete : (scan before).error = none) (apart : before.toList.getLast? ≠ some '{') :
    let action := (placeholderAction body).moved before.length
    let later := scanFrom (before.length + (placeholder body).length) behind.toList
    scan (before ++ placeholder body ++ behind) =
      { later with items := (scan before).items ++ .action action :: later.items } :=
  scan_splice closed.scanAction_placeholder rfl ⟨_, toList_placeholder body⟩ complete apart

end Promptline.Template
