import Promptline.Proofs.Answer
import Promptline.Proofs.Template.Scanning
import Promptline.Template.Parser

/-!
# Parsing concatenations

A template without a structural defect ends outside any conditional, so what is parsed after it is
parsed as if nothing stood before it: the parts are put behind those that are complete already, and
offsets are moved.
-/

namespace Promptline.Template

/-- No action drops the white space next to it. -/
def Unmarked (items : List Item) : Prop :=
  ∀ action, .action action ∈ items → action.trimLeft = false ∧ action.trimRight = false

/-- An open conditional at another place. -/
def OpenIf.moved (distance : Nat) (conditional : OpenIf) : OpenIf :=
  { conditional with opener := conditional.opener.moved distance }

/-- What has been read at another place, behind parts that are complete, the last one first. -/
def State.after (distance : Nat) (before : List Part) (state : State) : State where
  parts := state.parts ++ before
  opened := state.opened.map (OpenIf.moved distance)

/-- A parsed template at another place, behind parts. -/
def Parsed.after (distance : Nat) (before : List Part) (parsed : Parsed) : Parsed where
  parts := before ++ parsed.parts
  error := parsed.error.map (ParseError.moved distance)
  remainder := parsed.remainder

namespace State

variable (distance : Nat) (before : List Part)

theorem push_after (state : State) (part : Part) :
    (state.after distance before).push part = (state.push part).after distance before := by
  obtain ⟨parts, opened⟩ := state
  cases opened <;> rfl

theorem take_after (state : State) (action : Action) (keyword : Keyword) :
    (state.after distance before).take (action.moved distance) keyword =
      (state.take action keyword).map (State.after distance before) := by
  obtain ⟨parts, opened⟩ := state
  cases keyword with
  | expression => exact congrArg Except.ok (push_after distance before _ _)
  | ifGuard condition =>
      simp only [take, State.after, List.length_map]
      split <;> rfl
  | elseGuard condition =>
      cases opened with
      | nil => rfl
      | cons inner outer =>
          obtain ⟨opener, branches, guard, inside⟩ := inner
          cases guard <;> rfl
  | elsePart =>
      cases opened with
      | nil => rfl
      | cons inner outer =>
          obtain ⟨opener, branches, guard, inside⟩ := inner
          cases guard <;> rfl
  | close =>
      cases opened with
      | nil => rfl
      | cons inner outer => exact congrArg Except.ok (push_after distance before ⟨parts, outer⟩ _)

theorem step_after (state : State) (item : Item) :
    (state.after distance before).step (item.moved distance) =
      (state.step item).map (State.after distance before) := by
  cases item with
  | text chars start => exact congrArg Except.ok (push_after distance before _ _)
  | action action =>
      obtain ⟨source, body, start, trimLeft, trimRight, comment⟩ := action
      cases comment with
      | true => rfl
      | false =>
          have same (action : Action) : (action.moved distance).keyword = action.keyword := rfl
          simp only [Item.moved, step]
          rw [same]
          cases Action.keyword _ with
          | error fault => rfl
          | ok keyword =>
              simp only [bind, Except.bind]
              rw [take_after]
              cases take state _ keyword <;> rfl

theorem moved_of_keyword_eq_error {action : Action} {fault : ParseFault}
    (failed : action.keyword = .error fault) : fault.moved distance = fault := by
  unfold Action.keyword at failed
  grind [ParseFault.moved]

theorem moved_of_take_eq_error {state : State} {action : Action} {keyword : Keyword}
    {fault : ParseFault} (failed : state.take action keyword = .error fault) :
    fault.moved distance = fault := by
  unfold take at failed
  grind [ParseFault.moved]

/-- Only the scan finds defects that are at an offset. -/
theorem moved_of_step_eq_error {state : State} {item : Item} {error : ParseError}
    (failed : state.step item = .error error) : error.moved distance = error := by
  cases item with
  | text chars start => contradiction
  | action action =>
      rw [step] at failed
      split at failed
      · contradiction
      · split at failed
        · contradiction
        · next fault faulty =>
            cases failed
            have fixed : fault.moved distance = fault := by
              cases word : action.keyword with
              | error other =>
                  rw [word] at faulty
                  cases faulty
                  exact moved_of_keyword_eq_error distance word
              | ok keyword =>
                  rw [word] at faulty
                  exact moved_of_take_eq_error distance faulty
            rw [ParseError.moved, fixed]

theorem startOr_after (state : State) (offset : Nat) :
    (state.after distance before).startOr (offset + distance) =
      state.startOr offset + distance := by
  simp only [startOr, State.after, List.getLast?_map]
  cases state.opened.getLast? <;> rfl

theorem stop_after (front back : String) (state : State) (error : ParseError) (offset : Nat) :
    (state.after front.length before).stop (front ++ back) (error.moved front.length)
        (offset + front.length) =
      (state.stop back error offset).after front.length before.reverse := by
  have remaining : (front ++ back).toList.drop (state.startOr offset + front.length) =
      back.toList.drop (state.startOr offset) := by
    rw [String.toList_append, Nat.add_comm, ← List.drop_drop, ← String.length_toList,
      List.drop_left]
  simp only [stop, Parsed.after, startOr_after, remaining]
  simp [State.after]

/-- Inside a conditional the place of a defect does not matter. -/
theorem stop_eq_of_opened (state : State) (source : String) (opened : state.opened ≠ [])
    (error : ParseError) (here there : Nat) :
    state.stop source error here = state.stop source error there := by
  have outermost : state.startOr here = state.startOr there := by
    simp only [startOr, List.getLast?_eq_some_getLast opened]
  simp only [stop, outermost]

theorem finish_after (front back : String) {here there : Scan}
    (error : here.error = there.error.map (ParseError.moved front.length))
    (stop : here.stop = there.stop + front.length) (state : State) :
    (state.after front.length before).finish (front ++ back) here =
      (state.finish back there).after front.length before.reverse := by
  have defect := stop_after before front back state
  have inside := stop_eq_of_opened (state.after front.length before) (front ++ back)
  obtain ⟨parts, opened⟩ := state
  simp only [finish, error, stop]
  cases there.error with
  | some fault => exact defect fault there.stop
  | none =>
      cases opened with
      | nil => simp [State.after, Parsed.after]
      | cons inner outer =>
          simp only [State.after, List.map_cons, Option.map_none] at inside ⊢
          rw [inside (by simp) _ 0 (0 + front.length)]
          exact defect ⟨.missingEnd inner.opener.text, inner.opener.text⟩ 0

/-- Items that are taken behind complete parts give what they give alone. -/
theorem run_after (front back : String) {here there : Scan}
    (error : here.error = there.error.map (ParseError.moved front.length))
    (stop : here.stop = there.stop + front.length) (state : State) (items : List Item) :
    run (front ++ back) here (state.after front.length before)
        (items.map (Item.moved front.length)) =
      (run back there state items).after front.length before.reverse := by
  induction items generalizing state with
  | nil => exact finish_after before front back error stop state
  | cons item items ih =>
      rw [List.map_cons, run, run, step_after]
      cases taken : state.step item with
      | ok next => exact ih next
      | error fault =>
          have fixed := moved_of_step_eq_error front.length taken
          have place : (item.moved front.length).start = item.start + front.length := by
            cases item <;> rfl
          simp only [Except.map]
          rw [place, ← stop_after, fixed]

theorem run_behind (source : String) (scan : Scan) (items : List Item) :
    run source scan ⟨before, []⟩ items = (run source scan {} items).after 0 before.reverse := by
  have moved := @run_after before "" source scan scan (by simp) rfl {} items
  simpa [State.after] using moved

theorem run_text (source : String) (scan : Scan) (parts : List Part) (chars : List Char)
    (start : Nat) (items : List Item) :
    run source scan ⟨parts, []⟩ (.text chars start :: items) =
      run source scan ⟨.text (String.ofList chars) :: parts, []⟩ items :=
  rfl

/-- Take items that have no defect. -/
def through (state : State) (items : List Item) : Except ParseError State :=
  items.foldlM step state

theorem run_append_of_through (source : String) (scan : Scan) {state next : State}
    {items : List Item} (taken : state.through items = .ok next) (later : List Item) :
    run source scan state (items ++ later) = run source scan next later := by
  induction items generalizing state with
  | nil =>
      cases taken
      rfl
  | cons item items ih =>
      rw [through, List.foldlM_cons] at taken
      rw [List.cons_append, run]
      obtain ⟨middle, first, later⟩ := bind_eq_ok_iff.mp taken
      rw [first]
      exact ih later

/-- A template without a defect ends outside any conditional. -/
theorem through_of_complete {source : String} {scan : Scan} {state : State} {items : List Item}
    (complete : (run source scan state items).error = none) :
    scan.error = none ∧ ∃ parts,
      state.through items = .ok ⟨parts, []⟩ ∧
        (run source scan state items).parts = parts.reverse := by
  induction items generalizing state with
  | nil =>
      obtain ⟨parts, opened⟩ := state
      rw [run, finish] at complete ⊢
      cases error : scan.error with
      | some fault => simp [error, stop] at complete
      | none =>
          cases opened with
          | nil => exact ⟨rfl, parts, rfl, rfl⟩
          | cons inner outer => simp [error, stop] at complete
  | cons item items ih =>
      rw [run] at complete ⊢
      rw [through, List.foldlM_cons]
      cases first : state.step item with
      | error fault => simp [first, stop] at complete
      | ok next =>
          rw [first] at complete
          exact ih complete

theorem through_concat_text {state : State} {items : List Item} {chars : List Char} {start : Nat}
    {parts : List Part}
    (taken : state.through (items ++ [.text chars start]) = .ok ⟨parts, []⟩) :
    ∃ before, state.through items = .ok ⟨before, []⟩ ∧
      parts = .text (String.ofList chars) :: before := by
  rw [through, List.foldlM_append] at taken
  cases front : items.foldlM step state with
  | error fault => simp [front, bind, Except.bind] at taken
  | ok middle =>
      obtain ⟨before, opened⟩ := middle
      rw [front] at taken
      cases opened with
      | nil =>
          cases taken
          exact ⟨before, front, rfl⟩
      | cons inner outer => cases taken

end State

theorem nextTrimsLeft_eq_false {items : List Item} (unmarked : Unmarked items) :
    nextTrimsLeft items = false := by
  unfold nextTrimsLeft
  split
  · exact (unmarked _ List.mem_cons_self).1
  · rfl

theorem trimItems_of_unmarked {items : List Item} (unmarked : Unmarked items) :
    trimItems false items = items := by
  induction items with
  | nil => rfl
  | cons item items ih =>
      have later : Unmarked items := fun action member =>
        unmarked action (List.mem_cons_of_mem _ member)
      cases item with
      | text chars start => simp [trimItems, nextTrimsLeft_eq_false later, ih later]
      | action action =>
          rw [trimItems, (unmarked action List.mem_cons_self).2, ih later]

theorem joinItems_cases (items later : List Item) :
    joinItems items later = items ++ later ∨
      ∃ front chars start more place back,
        items = front ++ [.text chars start] ∧ later = .text more place :: back ∧
          joinItems items later = front ++ .text (chars ++ more) start :: back := by
  fun_induction joinItems items later with
  | case1 => exact .inl rfl
  | case2 chars start more place later =>
      exact .inr ⟨[], chars, start, more, place, later, rfl, rfl, rfl⟩
  | case3 item items later _ ih =>
      rcases ih with apart | ⟨front, chars, start, more, place, back, rfl, rfl, joined⟩
      · exact .inl (by rw [apart, List.cons_append])
      · exact .inr ⟨item :: front, chars, start, more, place, back, rfl, rfl, by
          rw [joined, List.cons_append]⟩

theorem Unmarked.moved {items : List Item} (unmarked : Unmarked items) (distance : Nat) :
    Unmarked (items.map (Item.moved distance)) := by
  intro action member
  obtain ⟨item, listed, same⟩ := List.mem_map.mp member
  cases item with
  | text chars start => contradiction
  | action original =>
      cases same
      exact unmarked original listed

theorem Unmarked.join {items later : List Item} (unmarked : Unmarked items)
    (unmarked_later : Unmarked later) : Unmarked (joinItems items later) := by
  intro action member
  rcases joinItems_cases items later with
    joined | ⟨front, chars, start, more, place, back, rfl, rfl, joined⟩
  · rw [joined] at member
    exact (List.mem_append.mp member).elim (unmarked action) (unmarked_later action)
  · rw [joined] at member
    rcases List.mem_append.mp member with before | behind
    · exact unmarked action (List.mem_append_left _ before)
    · have listed : .action action ∈ back := by simpa using behind
      exact unmarked_later action (List.mem_cons_of_mem _ listed)

/-- Parts and then others; literal texts at the junction may have become one. -/
def JoinedParts (first second whole : List Part) : Prop :=
  whole = first ++ second ∨
    ∃ front left right back,
      first = front ++ [.text left] ∧ second = .text right :: back ∧
        whole = front ++ .text (left ++ right) :: back

/-- A template that is parsed behind another one without a defect is parsed as if alone. -/
theorem parse_append {front back : String} (complete : (parse front).error = none)
    (unmarked_front : Unmarked (scan front).items) (unmarked_back : Unmarked (scan back).items)
    (apart : ¬ (front.toList.getLast? = some '{' ∧ back.toList.head? = some '{')) :
    JoinedParts (parse front).parts (parse back).parts (parse (front ++ back)).parts ∧
      (parse (front ++ back)).error =
        (parse back).error.map (ParseError.moved front.length) ∧
      (parse (front ++ back)).remainder = (parse back).remainder := by
  have plain_front : parse front = State.run front (scan front) {} (scan front).items :=
    congrArg _ (trimItems_of_unmarked unmarked_front)
  have plain_back : parse back = State.run back (scan back) {} (scan back).items :=
    congrArg _ (trimItems_of_unmarked unmarked_back)
  rw [plain_front] at complete ⊢
  obtain ⟨scanned, parts, taken, finished⟩ := State.through_of_complete complete
  have joined : scan (front ++ back) =
      ((scan back).moved front.length).after (scan front).items := by
    rw [scan, String.toList_append, scanFrom_append 0 scanned apart, String.length_toList,
      scanFrom_moved]
    rfl
  have unmarked : Unmarked (scan (front ++ back)).items := by
    rw [joined]
    exact unmarked_front.join (unmarked_back.moved front.length)
  have plain : parse (front ++ back) =
      State.run (front ++ back) (scan (front ++ back)) {} (scan (front ++ back)).items :=
    congrArg _ (trimItems_of_unmarked unmarked)
  have behind (before : List Part) :=
    @State.run_after before front back (scan (front ++ back)) (scan back)
      (by rw [joined]; rfl) (by rw [joined]; rfl)
  rw [plain, plain_back, finished]
  rcases joinItems_cases (scan front).items ((scan back).items.map (Item.moved front.length)) with
    concatenated | ⟨items, chars, start, more, place, later, split, split_back, merged⟩
  · have whole : (scan (front ++ back)).items =
        (scan front).items ++ (scan back).items.map (Item.moved front.length) := by
      rw [joined]
      exact concatenated
    have moved := behind parts {} (scan back).items
    rw [whole, State.run_append_of_through _ _ taken]
    rw [State.after, List.map_nil, List.nil_append] at moved
    rw [moved]
    exact ⟨.inl rfl, rfl, rfl⟩
  · have whole : (scan (front ++ back)).items = items ++ .text (chars ++ more) start :: later := by
      rw [joined]
      exact merged
    obtain ⟨first, rest, listed, moved_first, rfl⟩ := List.map_eq_cons_iff.mp split_back
    rw [split] at taken
    obtain ⟨before, taken_items, rfl⟩ := State.through_concat_text taken
    cases first with
    | action action => contradiction
    | text more_chars place_back =>
        cases moved_first
        have moved := behind (.text (String.ofList (chars ++ more)) :: before) {} rest
        rw [State.after, List.map_nil, List.nil_append] at moved
        rw [whole, State.run_append_of_through _ _ taken_items, State.run_text, moved, listed,
          State.run_text, State.run_behind]
        refine ⟨.inr ⟨before.reverse, String.ofList chars, String.ofList more, _, ?_, rfl, ?_⟩, ?_,
          rfl⟩
        · rw [List.reverse_cons]
        · simp [Parsed.after]
        · simp [Parsed.after]

end Promptline.Template
