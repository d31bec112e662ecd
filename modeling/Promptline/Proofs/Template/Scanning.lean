import Promptline.Proofs.Template.Locality

/-!
# Scanning concatenations

Scanning a text does not depend on where it stands, except for the offsets.  Scanning a
concatenation gives the items of the first text and then those of the second one, where literal
texts that meet at the junction become one.
-/

namespace Promptline

/-- A defect where offsets in a template are moved; offsets in an expression stay. -/
def ParseFault.moved (distance : Nat) : ParseFault → ParseFault
  | unclosedComment offset => unclosedComment (offset + distance)
  | unclosedAction offset => unclosedAction (offset + distance)
  | fault => fault

/-- A parse error where offsets in a template are moved. -/
def ParseError.moved (distance : Nat) (error : ParseError) : ParseError :=
  ⟨error.fault.moved distance, error.expression⟩

@[simp]
theorem ParseError.moved_zero : ParseError.moved 0 = id := by
  funext ⟨fault, expression⟩
  cases fault <;> rfl

namespace Template

/-- An action at another place. -/
def Action.moved (distance : Nat) (action : Action) : Action :=
  { action with start := action.start + distance }

/-- An item at another place. -/
def Item.moved (distance : Nat) : Item → Item
  | text chars start => text chars (start + distance)
  | action a => action (a.moved distance)

@[simp]
theorem Item.moved_zero : Item.moved 0 = id := by
  funext item
  cases item <;> rfl

/-- A scan at another place. -/
def Scan.moved (distance : Nat) (scan : Scan) : Scan where
  items := scan.items.map (Item.moved distance)
  error := scan.error.map (ParseError.moved distance)
  stop := scan.stop + distance

/-- Items and then others; literal texts that meet become one. -/
def joinItems : List Item → List Item → List Item
  | [], later => later
  | [.text chars start], .text more _ :: later => .text (chars ++ more) start :: later
  | item :: items, later => item :: joinItems items later

/-- A scan with items before it. -/
def Scan.after (items : List Item) (scan : Scan) : Scan :=
  { scan with items := joinItems items scan.items }

/-- The scan of a text that starts with an action, if it is not empty. -/
def scanOpen (start : Nat) : List Char → Scan
  | [] => ⟨[], none, start⟩
  | c :: cs =>
      match scanAction start (c :: cs) with
      | .error fault => ⟨[], some ⟨fault, String.ofList (c :: cs)⟩, start⟩
      | .ok action =>
          Scan.cons (.action action)
            (scanFrom (start + action.source.length) (cs.drop (action.source.length - 1)))

/-- A scan takes the literal text in front and goes on with an action. -/
theorem scanFrom_eq (offset : Nat) (cs : List Char) :
    scanFrom offset cs =
      Scan.consText (splitAtOpen cs).1 offset
        (scanOpen (offset + (splitAtOpen cs).1.length) (splitAtOpen cs).2) := by
  rw [scanFrom]
  simp only
  split
  · next tail => rw [tail, scanOpen]
  · next c rest tail =>
      rw [tail, scanOpen]
      cases scanAction (offset + (splitAtOpen cs).1.length) (c :: rest) <;> rfl

theorem splitAtOpen_append (cs : List Char) : (splitAtOpen cs).1 ++ (splitAtOpen cs).2 = cs := by
  fun_induction splitAtOpen cs with
  | case1 => rfl
  | case2 => rfl
  | case3 c cs _ text rest split ih =>
      rw [split] at ih
      exact congrArg (c :: ·) ih

/-- A text with an opening delimiter somewhere in it. -/
def Opened (cs : List Char) : Prop :=
  ['{', '{'] <:+: cs

instance (cs : List Char) : Decidable (Opened cs) :=
  inferInstanceAs (Decidable (['{', '{'] <:+: cs))

/-- Nothing is split off a text exactly when it has no opening delimiter. -/
theorem splitAtOpen_eq_self_iff {cs : List Char} : splitAtOpen cs = (cs, []) ↔ ¬ Opened cs := by
  rw [Opened]
  fun_induction splitAtOpen cs with
  | case1 => simp
  | case2 cs =>
      have opened : ['{', '{'] <:+: '{' :: '{' :: cs := ⟨[], cs, rfl⟩
      simp [opened]
  | case3 c cs single text rest split ih =>
      have apart : ¬ ['{', '{'] <+: c :: cs := by
        rintro ⟨more, same⟩
        cases same
        exact single more rfl rfl
      rw [List.infix_cons_iff, or_iff_right apart, ← ih, split]
      simp

theorem splitAtOpen_append_of_open {cs : List Char} (opened : (splitAtOpen cs).2 ≠ [])
    (rest : List Char) :
    splitAtOpen (cs ++ rest) = ((splitAtOpen cs).1, (splitAtOpen cs).2 ++ rest) := by
  fun_induction splitAtOpen cs with
  | case1 => contradiction
  | case2 => simp [splitAtOpen]
  | case3 c cs single text tail split ih =>
      rw [split] at ih
      have longer : ∀ more, c = '{' → cs ++ rest = '{' :: more → False := by
        intro more brace same
        cases cs with
        | nil =>
            cases split
            contradiction
        | cons d cs =>
            cases same
            exact single cs brace rfl
      rw [List.cons_append, splitAtOpen.eq_3 _ _ longer, ih opened]

theorem splitAtOpen_append_of_none {cs rest : List Char} (unopened : (splitAtOpen cs).2 = [])
    (apart : ¬ (cs.getLast? = some '{' ∧ rest.head? = some '{')) :
    splitAtOpen (cs ++ rest) = (cs ++ (splitAtOpen rest).1, (splitAtOpen rest).2) := by
  fun_induction splitAtOpen cs with
  | case1 => simp
  | case2 => contradiction
  | case3 c cs single text tail split ih =>
      rw [split] at ih
      have longer : ∀ more, c = '{' → cs ++ rest = '{' :: more → False := by
        intro more brace same
        cases cs with
        | nil => exact apart ⟨by rw [brace]; rfl, congrArg List.head? same⟩
        | cons d cs =>
            cases same
            exact single cs brace rfl
      have apart_later : ¬ (cs.getLast? = some '{' ∧ rest.head? = some '{') := by
        rintro ⟨last, head⟩
        cases cs with
        | nil => contradiction
        | cons d cs => exact apart ⟨by rw [List.getLast?_cons_cons, last], head⟩
      rw [List.cons_append, splitAtOpen.eq_3 _ _ longer, ih unopened apart_later,
        List.cons_append]

theorem scanOpen_append {start : Nat} {c : Char} {cs : List Char} {action : Action}
    (read : scanAction start (c :: cs) = .ok action) (rest : List Char) :
    scanOpen start (c :: cs ++ rest) =
      Scan.cons (.action action)
        (scanFrom (start + action.source.length)
          (cs.drop (action.source.length - 1) ++ rest)) := by
  obtain ⟨same, positive, bound⟩ := scanAction_append read rest
  rw [List.length_cons] at bound
  rw [List.cons_append] at same ⊢
  rw [scanOpen, same]
  simp only
  rw [List.drop_append_of_le_length (by omega)]

theorem scanOpen_head (start : Nat) (cs : List Char) (chars : List Char) (place : Nat) :
    (scanOpen start cs).items.head? ≠ some (.text chars place) := by
  unfold scanOpen
  split
  · simp
  · split <;> simp [Scan.cons]

theorem joinItems_of_head {later : List Item}
    (head : ∀ chars start, later.head? ≠ some (.text chars start)) (items : List Item) :
    joinItems items later = items ++ later := by
  fun_induction joinItems items later with
  | case1 => rfl
  | case2 chars start more place later => exact absurd rfl (head more place)
  | case3 later item items _ ih => rw [ih head, List.cons_append]

@[simp]
theorem consText_error (chars : List Char) (offset : Nat) (scan : Scan) :
    (Scan.consText chars offset scan).error = scan.error := by
  unfold Scan.consText
  split <;> rfl

@[simp]
theorem cons_error (item : Item) (scan : Scan) : (Scan.cons item scan).error = scan.error :=
  rfl

theorem consText_append (front back : List Char) (offset : Nat) (scan : Scan)
    (error : Option ParseError) (stop : Nat)
    (head : ∀ chars place, scan.items.head? ≠ some (.text chars place)) :
    Scan.consText (front ++ back) offset scan =
      (Scan.consText back (offset + front.length) scan).after
        (Scan.consText front offset ⟨[], error, stop⟩).items := by
  cases front with
  | nil => simp [Scan.consText, Scan.after, joinItems]
  | cons c front =>
      cases back with
      | nil => simp [Scan.consText, Scan.after, Scan.cons, joinItems_of_head head]
      | cons d back => simp [Scan.consText, Scan.after, joinItems, Scan.cons]

theorem consText_after (chars : List Char) (offset : Nat) (action : Action) (before scan : Scan) :
    Scan.consText chars offset (Scan.cons (.action action) (scan.after before.items)) =
      scan.after (Scan.consText chars offset (Scan.cons (.action action) before)).items := by
  cases chars with
  | nil => simp [Scan.consText, Scan.after, joinItems, Scan.cons]
  | cons c chars => simp [Scan.consText, Scan.after, joinItems, Scan.cons]

/-- Scanning a concatenation goes on with the second text where the first one ends, unless an
opening delimiter lies across the junction. -/
theorem scanFrom_append (offset : Nat) {front back : List Char}
    (complete : (scanFrom offset front).error = none)
    (apart : ¬ (front.getLast? = some '{' ∧ back.head? = some '{')) :
    scanFrom offset (front ++ back) =
      (scanFrom (offset + front.length) back).after (scanFrom offset front).items := by
  induction bound : front.length using Nat.strongRecOn generalizing offset front with
  | ind length ih =>
      subst bound
      rw [scanFrom_eq offset front] at complete ⊢
      have pieces := splitAtOpen_append front
      have opened := @splitAtOpen_append_of_open front
      have unopened := @splitAtOpen_append_of_none front back
      rw [scanFrom_eq offset (front ++ back)]
      generalize (splitAtOpen front).1 = text at *
      cases tail : (splitAtOpen front).2 with
      | nil =>
          rw [tail, List.append_nil] at pieces
          subst pieces
          rw [unopened tail apart, scanFrom_eq (offset + text.length) back, List.length_append,
            ← Nat.add_assoc]
          exact consText_append text _ offset _ none _ (scanOpen_head _ _)
      | cons c rest =>
          rw [tail] at pieces complete opened
          rw [opened (by simp) back]
          simp only
          cases read : scanAction (offset + text.length) (c :: rest) with
          | error fault => simp [scanOpen, read] at complete
          | ok action =>
              obtain ⟨-, positive, bound⟩ := scanAction_append read back
              have here := scanOpen_append read []
              simp only [List.append_nil] at here
              rw [scanOpen_append read back]
              rw [here] at complete ⊢
              rw [List.length_cons] at bound
              have cut : front =
                  text ++ c :: rest.take (action.source.length - 1) ++
                    rest.drop (action.source.length - 1) := by
                rw [← pieces, List.append_assoc, List.cons_append, List.take_append_drop]
              have size := congrArg List.length cut
              have later : ¬ ((rest.drop (action.source.length - 1)).getLast? = some '{' ∧
                  back.head? = some '{') := by
                rintro ⟨last, head⟩
                exact apart ⟨by rw [cut, List.getLast?_append, last, Option.some_or], head⟩
              simp only [List.length_append, List.length_cons, List.length_take] at size
              rw [ih _ (by omega) _ (by simpa using complete) later rfl, consText_after]
              congr 2
              omega

theorem scanAction_moved (start distance : Nat) (cs : List Char) :
    scanAction (start + distance) cs =
      match scanAction start cs with
      | .error fault => .error (fault.moved distance)
      | .ok action => .ok (action.moved distance) := by
  simp only [scanAction]
  cases commentOpening? (cs.drop 2) with
  | some opening =>
      simp only [scanComment]
      cases commentLength? (cs.drop (2 + opening)) <;> rfl
  | none =>
      simp only
      cases insideLength? none (cs.drop 2) <;> rfl

theorem consText_moved (chars : List Char) (offset distance : Nat) (scan : Scan) :
    (Scan.consText chars offset scan).moved distance =
      Scan.consText chars (offset + distance) (scan.moved distance) := by
  unfold Scan.consText
  split <;> rfl

/-- Where a text stands moves its scan and changes nothing else. -/
theorem scanFrom_moved (offset distance : Nat) (cs : List Char) :
    scanFrom (offset + distance) cs = (scanFrom offset cs).moved distance := by
  induction bound : cs.length using Nat.strongRecOn generalizing offset cs with
  | ind length ih =>
      subst bound
      have pieces := congrArg List.length (splitAtOpen_append cs)
      rw [scanFrom_eq, scanFrom_eq offset, consText_moved, Nat.add_right_comm]
      congr 1
      generalize offset + (splitAtOpen cs).1.length = start
      cases tail : (splitAtOpen cs).2 with
      | nil => rfl
      | cons c rest =>
          rw [scanOpen, scanOpen, scanAction_moved]
          cases scanAction start (c :: rest) with
          | error fault => rfl
          | ok action =>
              have shorter : (rest.drop (action.source.length - 1)).length < cs.length := by
                rw [tail, List.length_append, List.length_cons] at pieces
                rw [List.length_drop]
                omega
              have later := ih _ shorter (start + action.source.length) _ rfl
              simp only [Action.moved]
              rw [Nat.add_right_comm, later]
              rfl

end Template

end Promptline
