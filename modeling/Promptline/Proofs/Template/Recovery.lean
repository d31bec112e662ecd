import Promptline.Proofs.Template.Grammar
import Promptline.Proofs.Template.Prefix

/-!
# What a defect leaves

A structural defect may show up deep inside conditionals that are already half read.  The parser
then gives up the outermost construct that is not complete: the source is cut where that construct
starts, what stands before the cut is parsed as if nothing followed it, and the rest is kept as it
is.  Only the white space in front of the cut may be missing, because trimming comes before parsing.
-/

namespace Promptline.Template

/-! ## Trimming before the cut -/

/-- An item without the white space at the end of its text. -/
def Item.trimEnd : Item → Item
  | text chars start => text (Text.dropEndWhile Text.isMargin chars) start
  | action a => action a

/-- Items where the last one is without the white space at the end of its text. -/
def trimLast : List Item → List Item
  | [] => []
  | [item] => [item.trimEnd]
  | item :: next :: items => item :: trimLast (next :: items)

theorem trimLast_concat (items : List Item) (item : Item) :
    trimLast (items ++ [item]) = items ++ [item.trimEnd] := by
  induction items with
  | nil => rfl
  | cons first items ih =>
      cases items with
      | nil => rfl
      | cons next items => exact congrArg (first :: ·) ih

theorem trimLast_action (action : Action) (items : List Item) :
    trimLast (.action action :: items) = .action action :: trimLast items := by
  cases items <;> rfl

theorem trimLast_cons {items : List Item} (nonempty : items ≠ []) (item : Item) :
    trimLast (item :: items) = item :: trimLast items := by
  cases items with
  | nil => contradiction
  | cons next items => rfl

@[simp]
theorem trimLast_length (items : List Item) : (trimLast items).length = items.length := by
  induction items using List.reverseRecOn with
  | nil => rfl
  | append_singleton items item _ => simp [trimLast_concat]

@[simp]
theorem trimItems_length (after : Bool) (items : List Item) :
    (trimItems after items).length = items.length := by
  induction items generalizing after with
  | nil => rfl
  | cons item items ih => cases item <;> simp [trimItems, ih]

/-- What follows a sequence of items decides only about the end of its last text. -/
theorem trimItems_append (after : Bool) (front back : List Item) :
    ∃ flag, trimItems after (front ++ back) =
      (if nextTrimsLeft back then trimLast (trimItems after front) else trimItems after front) ++
        trimItems flag back := by
  induction front generalizing after with
  | nil => exact ⟨after, by simp [trimItems, trimLast]⟩
  | cons item front ih =>
      cases item with
      | action a =>
          obtain ⟨flag, same⟩ := ih a.trimRight
          refine ⟨flag, ?_⟩
          rw [List.cons_append, trimItems, same, trimItems, trimLast_action]
          cases nextTrimsLeft back <;> rfl
      | text chars start =>
          cases front with
          | nil =>
              refine ⟨false, ?_⟩
              have last : nextTrimsLeft [] = false := rfl
              cases marked : nextTrimsLeft back <;>
                simp [trimItems, trimLast, Item.trimEnd, marked, last]
          | cons next front =>
              obtain ⟨flag, same⟩ := ih false
              have more : trimItems false (next :: front) ≠ [] := by
                intro none
                simpa using congrArg List.length none
              have seen :
                  nextTrimsLeft (next :: front ++ back) = nextTrimsLeft (next :: front) := by
                cases next <;> rfl
              refine ⟨flag, ?_⟩
              rw [List.cons_append, trimItems, seen, same, trimItems, trimLast_cons more]
              cases nextTrimsLeft back <;> rfl

/-- The last item is literal text. -/
def EndsWithText (items : List Item) : Prop :=
  ∃ front chars start, items = front ++ [.text chars start]

theorem not_endsWithText_nil : ¬ EndsWithText [] := by
  rintro ⟨front, chars, start, impossible⟩
  simp at impossible

theorem endsWithText_concat {items : List Item} {item : Item} :
    EndsWithText (items ++ [item]) ↔ ∃ chars start, item = .text chars start := by
  constructor
  · rintro ⟨front, chars, start, same⟩
    exact ⟨chars, start, (List.append_inj' same rfl).2 |> List.singleton_inj.mp⟩
  · rintro ⟨chars, start, rfl⟩
    exact ⟨items, chars, start, rfl⟩

theorem endsWithText_trimItems (after : Bool) (items : List Item) :
    EndsWithText (trimItems after items) ↔ EndsWithText items := by
  induction items using List.reverseRecOn with
  | nil => rfl
  | append_singleton items item _ =>
      obtain ⟨flag, same⟩ := trimItems_append after items [item]
      cases item with
      | text chars start =>
          rw [same, trimItems, trimItems, endsWithText_concat, endsWithText_concat]
          simp
      | action a => rw [same, trimItems, trimItems, endsWithText_concat, endsWithText_concat]

/-! ## The outermost open conditional -/

namespace State

/-- The actions that opened the open conditionals, from the inside out. -/
def openers (state : State) : List Action :=
  state.opened.map OpenIf.opener

theorem openers_push (state : State) (part : Part) :
    (state.push part).openers = state.openers := by
  obtain ⟨parts, opened⟩ := state
  cases opened <;> rfl

theorem parts_push {state : State} (inside : state.openers ≠ []) (part : Part) :
    (state.push part).parts = state.parts := by
  obtain ⟨parts, opened⟩ := state
  cases opened with
  | nil => contradiction
  | cons inner outer => rfl

theorem startOr_eq (state : State) (offset : Nat) :
    state.startOr offset = (state.openers.getLast?.map Action.start).getD offset := by
  rw [startOr, openers, List.getLast?_map]
  cases state.opened.getLast? <;> rfl

theorem getLast?_openers_cons {state : State} (inside : state.openers ≠ []) (opener : Action) :
    (opener :: state.openers).getLast? = state.openers.getLast? := by
  obtain ⟨first, others, same⟩ := List.exists_cons_of_ne_nil inside
  rw [same, List.getLast?_cons_cons]

/-- While a conditional stays open, nothing happens outside it. -/
theorem Takes.outermost {state next : State} {item : Item} (takes : Takes state item next)
    (inside : state.openers ≠ []) (still : next.openers ≠ []) :
    next.parts = state.parts ∧ next.openers.getLast? = state.openers.getLast? := by
  cases takes with
  | comment ignored => exact ⟨rfl, rfl⟩
  | text chars start => exact ⟨parts_push inside _, by rw [openers_push]⟩
  | placeholder is => exact ⟨parts_push inside _, by rw [openers_push]⟩
  | ifGuard is room => exact ⟨rfl, getLast?_openers_cons inside _⟩
  | elseGuard is guarded => exact ⟨rfl, rfl⟩
  | elsePart is guarded => exact ⟨rfl, rfl⟩
  | close is =>
      rw [openers_push] at still ⊢
      exact ⟨parts_push still _, (getLast?_openers_cons still _).symm⟩

/-- Outside any conditional only a guard opens one. -/
theorem Takes.opens {state next : State} {item : Item} (takes : Takes state item next)
    (outside : state.openers = []) (inside : next.openers ≠ []) :
    ∃ opener, item = .action opener ∧ next.openers = [opener] ∧ next.parts = state.parts := by
  cases takes with
  | comment ignored => contradiction
  | text chars start => rw [openers_push] at inside; contradiction
  | placeholder is => rw [openers_push] at inside; contradiction
  | @ifGuard _ opener _ is room => exact ⟨opener, rfl, congrArg (opener :: ·) outside, rfl⟩
  | elseGuard is guarded => contradiction
  | elsePart is guarded => contradiction
  | close is => contradiction

theorem eq_of_openers {state : State} (outside : state.openers = []) :
    state = ⟨state.parts, []⟩ := by
  obtain ⟨parts, opened⟩ := state
  exact congrArg (State.mk parts) (List.map_eq_nil_iff.mp outside)

theorem through_concat_eq_ok_iff {state final : State} {items : List Item} {item : Item} :
    state.through (items ++ [item]) = .ok final ↔
      ∃ middle, state.through items = .ok middle ∧ Takes middle item final := by
  simp only [through, List.foldlM_append, ← step_eq_ok_iff]
  cases items.foldlM step state with
  | error fault => simp [bind, Except.bind]
  | ok middle => cases last : middle.step item <;> simp [bind, Except.bind, pure, Except.pure, last]

/-- Items that end inside a conditional are complete constructs, the action that opened the
outermost conditional, and others.  By induction on the items, the last one first. -/
theorem exists_outermost {items : List Item} {state : State}
    (taken : State.through {} items = .ok state) (inside : state.openers ≠ []) :
    ∃ before opener after, items = before ++ .action opener :: after ∧
      State.through {} before = .ok ⟨state.parts, []⟩ ∧
      state.openers.getLast? = some opener := by
  induction items using List.reverseRecOn generalizing state with
  | nil =>
      obtain rfl := Except.ok.inj taken
      contradiction
  | append_singleton items item ih =>
      obtain ⟨middle, earlier, takes⟩ := through_concat_eq_ok_iff.mp taken
      by_cases outside : middle.openers = []
      · obtain ⟨opener, rfl, only, parts⟩ := takes.opens outside inside
        refine ⟨items, opener, [], rfl, ?_, by rw [only]; rfl⟩
        rw [earlier, parts, ← eq_of_openers outside]
      · obtain ⟨before, opener, after, rfl, complete, outermost⟩ := ih earlier outside
        obtain ⟨parts, same⟩ := takes.outermost outside inside
        refine ⟨before, opener, after ++ [item], by simp, ?_, ?_⟩
        · rw [parts, complete]
        · rw [same, outermost]

theorem exists_action_of_step_eq_error {state : State} {item : Item} {error : ParseError}
    (failed : state.step item = .error error) : ∃ action, item = .action action := by
  cases item with
  | text chars start => contradiction
  | action action => exact ⟨action, rfl⟩

/-- Either all items are taken, or one of them is a defect. -/
theorem run_cases (source : String) (scan : Scan) (state : State) (items : List Item) :
    (∃ final, state.through items = .ok final ∧
      run source scan state items = final.finish source scan) ∨
    ∃ front action later final error, items = front ++ .action action :: later ∧
      state.through front = .ok final ∧
      run source scan state items = final.stop source error action.start := by
  induction items generalizing state with
  | nil => exact .inl ⟨state, rfl, rfl⟩
  | cons item items ih =>
      rw [run]
      cases first : state.step item with
      | error error =>
          obtain ⟨action, rfl⟩ := exists_action_of_step_eq_error first
          exact .inr ⟨[], action, items, state, error, rfl, rfl, rfl⟩
      | ok next =>
          have takes := step_eq_ok_iff.mp first
          rcases ih next with
            ⟨final, taken, ran⟩ | ⟨front, action, later, final, error, rfl, taken, ran⟩
          · exact .inl ⟨final, by rw [through_cons takes, taken], ran⟩
          · exact .inr ⟨item :: front, action, later, final, error, rfl,
              by rw [through_cons takes, taken], ran⟩

/-- Where a scan was cut: before an action, or where the scan ended with a defect. -/
def CutAt (scan : Scan) (back : List Item) (offset : Nat) : Prop :=
  (∃ action later, back = .action action :: later ∧ action.start = offset) ∨
    back = [] ∧ scan.error ≠ none ∧ scan.stop = offset

/-- A parse that stops behind some items leaves the parts before the outermost open conditional. -/
theorem stop_recovers {source : String} {scan : Scan} {front back : List Item} {state : State}
    {place : Nat} (taken : State.through {} front = .ok state)
    (cut : state.openers = [] → CutAt scan back place) (error : ParseError) :
    ∃ before behind parts offset, front ++ back = before ++ behind ∧
      State.through {} before = .ok ⟨parts, []⟩ ∧
      state.stop source error place =
        ⟨parts.reverse, some error, String.ofList (source.toList.drop offset)⟩ ∧
      CutAt scan behind offset := by
  by_cases outside : state.openers = []
  · refine ⟨front, back, state.parts, place, rfl, ?_, ?_, cut outside⟩
    · rw [← eq_of_openers outside, taken]
    · rw [stop, startOr_eq, outside]
      rfl
  · obtain ⟨before, opener, after, rfl, complete, outermost⟩ := exists_outermost taken outside
    refine ⟨before, .action opener :: after ++ back, state.parts, opener.start, by simp, complete,
      ?_, .inl ⟨opener, after ++ back, rfl, rfl⟩⟩
    rw [stop, startOr_eq, outermost]
    rfl

/-- A defect leaves the parts of the items before the outermost construct that is not complete: an
action that opened a conditional or is a defect itself, or the text where the scan ended. -/
theorem run_recovers {source : String} {scan : Scan} {items : List Item} {error : ParseError}
    (failed : (run source scan {} items).error = some error) :
    ∃ front back parts offset, items = front ++ back ∧
      State.through {} front = .ok ⟨parts, []⟩ ∧
      run source scan {} items =
        ⟨parts.reverse, some error, String.ofList (source.toList.drop offset)⟩ ∧
      CutAt scan back offset := by
  rcases run_cases source scan {} items with
    ⟨final, taken, ran⟩ | ⟨front, action, later, final, other, rfl, taken, ran⟩
  · rw [ran, finish] at failed
    rw [ran, finish]
    cases scanned : scan.error with
    | some other =>
        simp only [scanned] at failed ⊢
        obtain rfl := Option.some.inj failed
        have ended : CutAt scan [] scan.stop := .inr ⟨rfl, by simp [scanned], rfl⟩
        have recovers := @stop_recovers source _ _ _ _ _ taken (fun _ => ended) other
        rwa [List.append_nil] at recovers
    | none =>
        cases opened : final.opened with
        | nil => simp [scanned, opened] at failed
        | cons inner outer =>
            simp only [scanned, opened] at failed ⊢
            obtain rfl := Option.some.inj failed
            have inside : final.openers ≠ [] := by simp [openers, opened]
            have recovers := @stop_recovers source scan _ [] _ 0 taken
              (fun outside => absurd outside inside)
              ⟨.missingEnd inner.opener.text, inner.opener.text⟩
            rwa [List.append_nil] at recovers
  · rw [ran] at failed ⊢
    obtain rfl := Option.some.inj failed
    exact stop_recovers taken (fun _ => .inl ⟨action, later, rfl, rfl⟩) other

/-- Items that are taken with and without the white space at the end of the last text differ in the
last part only. -/
theorem through_trimLast {items : List Item} {parts : List Part}
    (taken : State.through {} (trimLast items) = .ok ⟨parts, []⟩) :
    (¬ EndsWithText items ∧ State.through {} items = .ok ⟨parts, []⟩) ∨
      EndsWithText items ∧ ∃ chars before,
        parts = .text (String.ofList (Text.dropEndWhile Text.isMargin chars)) :: before ∧
          State.through {} items = .ok ⟨.text (String.ofList chars) :: before, []⟩ := by
  induction items using List.reverseRecOn with
  | nil => exact .inl ⟨not_endsWithText_nil, taken⟩
  | append_singleton items item _ =>
      rw [trimLast_concat] at taken
      rw [endsWithText_concat]
      cases item with
      | action a => exact .inl ⟨by simp, taken⟩
      | text chars start =>
          obtain ⟨before, earlier, rfl⟩ := through_concat_text taken
          refine .inr ⟨⟨chars, start, rfl⟩, chars, before, rfl, ?_⟩
          rw [through_append earlier]
          rfl

end State

/-! ## Recovery -/

/-- The source before an offset. -/
def beforeCut (source : String) (offset : Nat) : String :=
  String.ofList (source.toList.take offset)

/-- The source from an offset on. -/
def behindCut (source : String) (offset : Nat) : String :=
  String.ofList (source.toList.drop offset)

/-- A text without the spaces, tabs and line ends at its end. -/
def withoutMargin (text : String) : String :=
  String.ofList (Text.dropEndWhile Text.isMargin text.toList)

/-- A complete action that drops the white space before it stands at an offset, directly behind
literal text. -/
def TrimsBefore (source : String) (offset : Nat) : Prop :=
  (∃ action, scanAction offset (source.toList.drop offset) = .ok action ∧
    action.trimLeft = true) ∧ EndsWithText (scan (beforeCut source offset)).items

/-- A template with a defect is cut at an offset; `lost` is the white space before the cut that
trimming has removed. -/
structure Recovery (source : String) (offset : Nat) (lost : String) : Prop where
  /-- The source from the cut on is kept as it is. -/
  remainder : (parse source).remainder = behindCut source offset
  /-- The cut is before an opening delimiter. -/
  opens : ∃ more, (parse source).remainder.toList = '{' :: '{' :: more
  /-- The source before the cut has no defect. -/
  complete : (parse (beforeCut source offset)).error = none
  /-- Its parts are the parts that are left. -/
  kept : ¬ TrimsBefore source offset →
    lost = "" ∧ (parse source).parts = (parse (beforeCut source offset)).parts
  /-- If the construct at the cut drops white space, the last text has none at its end. -/
  trimmed : TrimsBefore source offset → ∃ parts last,
    (parse (beforeCut source offset)).parts = parts ++ [.text last] ∧
      (parse source).parts = parts ++ [.text (withoutMargin last)] ∧
        last = withoutMargin last ++ lost

/-- The remainder tells where the cut is. -/
theorem Recovery.offset_add_length {source lost : String} {offset : Nat}
    (recovery : Recovery source offset lost) :
    offset + (parse source).remainder.length = source.length := by
  obtain ⟨more, opens⟩ := recovery.opens
  have nonempty := congrArg List.length opens
  have remainder := congrArg (fun text : String => text.toList.length) recovery.remainder
  simp only [behindCut, String.toList_ofList, List.length_drop, List.length_cons,
    String.length_toList] at nonempty remainder
  omega

theorem exists_lost (last : String) : ∃ lost, last = withoutMargin last ++ lost := by
  have whole : Text.dropEndWhile Text.isMargin last.toList ++
      last.toList.rtakeWhile Text.isMargin = last.toList := List.rdropWhile_append_rtakeWhile
  refine ⟨String.ofList (last.toList.rtakeWhile Text.isMargin), ?_⟩
  rw [withoutMargin, ← String.ofList_append, whole, String.ofList_toList]

/-- The items before and behind a cut, as they were before trimming. -/
theorem exists_untrimmed {items front back : List Item}
    (split : trimItems false items = front ++ back) :
    ∃ first rest flag, items = first ++ rest ∧ back = trimItems flag rest ∧
      front = if nextTrimsLeft rest then trimLast (trimItems false first)
        else trimItems false first := by
  have cut := List.take_append_drop front.length items
  obtain ⟨flag, same⟩ :=
    trimItems_append false (items.take front.length) (items.drop front.length)
  rw [cut, split] at same
  have size : front.length = (if nextTrimsLeft (items.drop front.length) then
      trimLast (trimItems false (items.take front.length))
        else trimItems false (items.take front.length)).length := by
    have total := congrArg List.length split
    rw [trimItems_length, List.length_append] at total
    have bound : front.length ≤ items.length := by omega
    split <;> simp [bound]
  obtain ⟨first, rest⟩ := List.append_inj same size
  exact ⟨_, _, flag, cut.symm, rest, first⟩

/-- A cut behind trimmed items is one behind the items as they were scanned. -/
theorem State.CutAt.untrimmed {scan : Scan} {flag : Bool} {back : List Item} {offset : Nat}
    (cut : State.CutAt scan (trimItems flag back) offset) : State.CutAt scan back offset := by
  cases back with
  | nil =>
      rcases cut with ⟨action, later, impossible, -⟩ | ended
      · contradiction
      · exact .inr ended
  | cons item back =>
      cases item with
      | text chars start =>
          rcases cut with ⟨action, later, impossible, -⟩ | ⟨impossible, -⟩ <;>
            simp [trimItems] at impossible
      | action a =>
          rcases cut with ⟨action, later, same, start⟩ | ⟨impossible, -⟩
          · obtain rfl := Item.action.inj (List.cons.inj same).1
            exact .inl ⟨a, back, rfl, start⟩
          · contradiction

theorem nextTrimsLeft_scanOpen (start : Nat) (cs : List Char) :
    nextTrimsLeft (scanOpen start cs).items = true ↔
      ∃ action, scanAction start cs = .ok action ∧ action.trimLeft = true := by
  cases cs with
  | nil => simp [scanOpen, nextTrimsLeft, scanAction, commentOpening?, insideLength?]
  | cons c cs =>
      rw [scanOpen]
      cases scanAction start (c :: cs) <;> simp [nextTrimsLeft, Scan.cons]

/-- The source before a cut has the items before the cut. -/
theorem scan_beforeCut {source : String} {front back : List Item} {offset : Nat}
    (split : (scan source).items = front ++ back) (cut : State.CutAt (scan source) back offset) :
    (∃ more, source.toList.drop offset = '{' :: '{' :: more) ∧
      scan (beforeCut source offset) = ⟨front, none, offset⟩ ∧
      (scanOpen offset (source.toList.drop offset)).items = back := by
  have head : ∀ chars place, back.head? ≠ some (.text chars place) := by
    intro chars place
    rcases cut with ⟨action, later, rfl, -⟩ | ⟨rfl, -⟩ <;> simp
  have stops : back = [] → (scan source).error ≠ none := by
    intro none
    rcases cut with ⟨action, later, rfl, -⟩ | ⟨-, defect, -⟩
    · contradiction
    · exact defect
  obtain ⟨size, opens, scanned, following, stop⟩ := scanFrom_cut split head stops
  rw [Nat.zero_add] at scanned following stop
  have place : offset = size := by
    rcases cut with ⟨action, later, rfl, start⟩ | ⟨rfl, -, ended⟩
    · obtain ⟨_, same, read, -⟩ := scanOpen_of_cons following
      obtain rfl := Item.action.inj same
      rw [← start, (readFrom_of_scanAction read).start_eq]
    · rw [← ended]
      exact stop rfl
  subst place
  refine ⟨opens, ?_, following⟩
  rw [scan, beforeCut, String.toList_ofList, scanned]

/-- A template with a defect is cut where the outermost construct that is not complete starts. -/
theorem exists_recovery {source : String} {error : ParseError}
    (failed : (parse source).error = some error) :
    ∃ offset lost, Recovery source offset lost := by
  obtain ⟨front, back, parts, offset, split, taken, parsed, cut⟩ := State.run_recovers failed
  obtain ⟨first, rest, flag, items, rfl, rfl⟩ := exists_untrimmed split
  obtain ⟨⟨more, opens⟩, scanned, following⟩ := scan_beforeCut items cut.untrimmed
  have whole : parse source =
      ⟨parts.reverse, some error, String.ofList (source.toList.drop offset)⟩ := parsed
  have good {kept : List Part}
      (complete : State.through {} (trimItems false first) = .ok ⟨kept, []⟩) :
      parse (beforeCut source offset) = { parts := kept.reverse } := by
    rw [parse, scanned]
    exact State.run_of_through rfl complete
  have marked : nextTrimsLeft rest = true ↔
      ∃ action, scanAction offset (source.toList.drop offset) = .ok action ∧
        action.trimLeft = true := by
    rw [← following, nextTrimsLeft_scanOpen]
  have ends : EndsWithText (scan (beforeCut source offset)).items ↔
      EndsWithText (trimItems false first) := by
    rw [scanned, endsWithText_trimItems]
  -- Unless a marker at the cut meets text before it, trimming looks only at what stays.
  have unchanged (other : ¬ TrimsBefore source offset)
      (complete : State.through {} (trimItems false first) = .ok ⟨parts, []⟩) :
      ∃ offset lost, Recovery source offset lost := by
    refine ⟨offset, "", ?_, ⟨more, ?_⟩, ?_, fun _ => ⟨rfl, ?_⟩, fun trims => absurd trims other⟩
    · rw [whole, behindCut]
    · rw [whole, String.toList_ofList, opens]
    · rw [good complete]
    · rw [whole, good complete]
  split at taken
  · next trims =>
      rcases State.through_trimLast taken with
        ⟨plain, complete⟩ | ⟨text, chars, before, rfl, complete⟩
      · exact unchanged (fun other => plain (ends.mp other.2)) complete
      · have trims_before : TrimsBefore source offset := ⟨marked.mp trims, ends.mpr text⟩
        obtain ⟨lost, split_last⟩ := exists_lost (String.ofList chars)
        refine ⟨offset, lost, ?_, ⟨more, ?_⟩, ?_, fun other => absurd trims_before other,
          fun _ => ⟨before.reverse, String.ofList chars, ?_, ?_, split_last⟩⟩
        · rw [whole, behindCut]
        · rw [whole, String.toList_ofList, opens]
        · rw [good complete]
        · rw [good complete, List.reverse_cons]
        · rw [whole, List.reverse_cons, withoutMargin, String.toList_ofList]
  · next trims => exact unchanged (fun other => trims (marked.mpr other.1)) taken

end Promptline.Template
