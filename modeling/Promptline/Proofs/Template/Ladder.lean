import Promptline.Proofs.Template.Nesting
import Promptline.Proofs.Template.Recovery
import Promptline.Proofs.Template.Spaced

/-!
# Guards in a row

Guards may follow each other in one conditional, or each may open a conditional of its own in the
last part of the one before.  Both are derived from the same bodies: in a row they are the branches
of one conditional, and otherwise one conditional is nested in the other for each guard.
-/

namespace Promptline.Template

/-! ## Keywords between blanks -/

/-- A keyword before a blank is followed by its argument. -/
theorem opens_trimBlank {word : List Char} (given : word ≠ [])
    (solid : word.any Text.isBlank = false) (cs : List Char) :
    Opens word (Text.trimBlank (word ++ ' ' :: cs)) (Text.trimBlank cs) := by
  have space : ∀ c ∈ [' '], Text.isBlank c = true := List.forall_mem_singleton.mpr (by decide)
  have solid : ∀ c ∈ word, Text.isBlank c = false := by simpa using solid
  have last : ∀ c ∈ word.getLast?, Text.isBlank c = false :=
    fun c member => solid c (List.mem_of_getLast? member)
  have front : (word ++ ' ' :: cs).dropWhile Text.isBlank = word ++ ' ' :: cs := by
    obtain ⟨c, word, rfl⟩ := List.exists_cons_of_ne_nil given
    rw [List.cons_append, List.dropWhile_cons_of_neg (by simp [solid c List.mem_cons_self])]
  refine ⟨Text.dropEndWhile Text.isBlank (' ' :: cs), ?_, ?_, ?_⟩
  · rw [Text.trimBlank, Text.trimWhile, front, Text.dropEndWhile_append last]
  · intro c member
    have first : Text.dropEndWhile Text.isBlank (' ' :: cs) <+: ' ' :: cs :=
      List.rdropWhile_prefix _ _
    obtain ⟨others, split⟩ := first
    cases kept : Text.dropEndWhile Text.isBlank (' ' :: cs) with
    | nil => simp [kept] at member
    | cons d rest =>
        rw [kept] at member split
        obtain rfl := Option.some.inj member
        obtain ⟨rfl, -⟩ := List.cons.inj split
        decide
  · have blank := Text.trimWhile_margins space (List.forall_mem_nil _) cs
    rw [List.append_nil] at blank
    rw [Text.trimBlank, Text.trimBlank, Text.trimWhile_dropEndWhile]
    exact blank.symm

variable {condition : String}

theorem toList_ifGuard : ("if " ++ condition).toList = ifWord ++ ' ' :: condition.toList := by
  simp [ifWord]

theorem toList_elseGuard :
    ("else if " ++ condition).toList = elseWord ++ ' ' :: ("if " ++ condition).toList := by
  simp [elseWord]

/-- The action of a guard that opens a conditional. -/
theorem is_ifGuard (given : Text.trim condition ≠ "") :
    (placeholderAction ("if " ++ condition)).Is
      (.ifGuard (Text.trimBlank condition.toList)) := by
  have opens := @opens_trimBlank ifWord (by decide) (by decide) condition.toList
  rw [← toList_ifGuard] at opens
  exact ⟨rfl, .ifGuard opens (by simpa [Text.trim] using given)⟩

/-- The action of a guard that opens another branch. -/
theorem is_elseGuard (given : Text.trim condition ≠ "") :
    (placeholderAction ("else if " ++ condition)).Is
      (.elseGuard (Text.trimBlank condition.toList)) := by
  have opens := @opens_trimBlank elseWord (by decide) (by decide) ("if " ++ condition).toList
  have nested := @opens_trimBlank ifWord (by decide) (by decide) condition.toList
  rw [← toList_elseGuard] at opens
  rw [← toList_ifGuard] at nested
  exact ⟨rfl, .elseGuard opens nested (by simpa [Text.trim] using given)⟩

theorem is_elsePart : (placeholderAction "else").Is .elsePart :=
  ⟨rfl, .elsePart ⟨[], by decide +kernel, by simp, rfl⟩⟩

theorem is_close : (placeholderAction "end").Is .close :=
  ⟨rfl, .close ⟨[], by decide +kernel, by simp, rfl⟩⟩

theorem closed_elsePart : Closed "else".toList := by
  decide +kernel

theorem closed_close : Closed "end".toList := by
  decide +kernel

/-- A guard that is one action is one behind the keyword for another branch too. -/
theorem closed_elseGuard (closed : Closed ("if " ++ condition).toList) :
    Closed ("else if " ++ condition).toList := by
  have word : Passes (elseWord ++ [' ']) := by
    refine (passes_of_inert (Lexer.inert_of_forall Lexer.word_apart ?_)).append
      (passes_of_inert (Lexer.inert_nil.cons (by decide)))
    exact List.all_eq_true.mp (by decide)
  have split : elseWord ++ ' ' :: ("if " ++ condition).toList =
      elseWord ++ [' '] ++ ("if " ++ condition).toList := by
    simp
  rw [toList_elseGuard, split]
  exact (Closed.append_iff word).mpr closed

/-! ## Actions between templates -/

mutual

/-- Where items stand does not matter for what they derive. -/
theorem DerivesPart.moved {depth : Nat} {items : List Item} {part : Part}
    (derives : DerivesPart depth items part) (distance : Nat) :
    DerivesPart depth (items.map (Item.moved distance)) part :=
  match derives with
  | .text chars start => .text chars (start + distance)
  | @DerivesPart.placeholder _ action is => @DerivesPart.placeholder _ (action.moved distance) is
  | @DerivesPart.conditional _ opener _ _ _ _ is rest =>
      @DerivesPart.conditional _ (opener.moved distance) _ _ _ _ is (rest.moved distance)

/-- Where items stand does not matter for what they derive. -/
theorem DerivesParts.moved {depth : Nat} {items : List Item} {parts : List Part}
    (derives : DerivesParts depth items parts) (distance : Nat) :
    DerivesParts depth (items.map (Item.moved distance)) parts :=
  match derives with
  | .nil => .nil
  | .cons first rest => by
      rw [List.map_append]
      exact .cons (first.moved distance) (rest.moved distance)

/-- Where items stand does not matter for what they derive. -/
theorem DerivesBranches.moved {depth : Nat} {source condition : String} {items : List Item}
    {branches : List Branch} {otherwise : List Part}
    (derives : DerivesBranches depth source condition items branches otherwise) (distance : Nat) :
    DerivesBranches depth source condition (items.map (Item.moved distance)) branches otherwise :=
  match derives with
  | @DerivesBranches.close _ _ _ _ _ closer body is => by
      rw [List.map_append]
      exact @DerivesBranches.close _ _ _ _ _ (closer.moved distance) (body.moved distance) is
  | @DerivesBranches.elsePart _ _ _ _ _ _ _ divider closer body divides final is => by
      rw [List.map_append, List.map_cons, List.map_append]
      exact @DerivesBranches.elsePart _ _ _ _ _ _ _ (divider.moved distance)
        (closer.moved distance) (body.moved distance) divides (final.moved distance) is
  | @DerivesBranches.elseGuard _ _ _ _ _ _ _ _ guard _ body is rest => by
      rw [List.map_append, List.map_cons]
      exact @DerivesBranches.elseGuard _ _ _ _ _ _ _ _ (guard.moved distance) _
        (body.moved distance) is (rest.moved distance)

end

theorem significant_placeholder_between {before body behind : String}
    (closed : Closed body.toList) (complete : (scan before).error = none)
    (apart : before.toList.getLast? ≠ some '{') (complete_behind : (scan behind).error = none) :
    (scan (before ++ placeholder body ++ behind)).error = none ∧
      significant (before ++ placeholder body ++ behind) =
        significant before ++ .action ((placeholderAction body).moved before.length) ::
          (significant behind).map
            (Item.moved (before.length + (placeholder body).length)) := by
  have whole := @scan_placeholder_between before body behind closed complete apart
  rw [scanFrom_eq_moved, ← scan] at whole
  generalize before.length + (placeholder body).length = distance at *
  have comments : (fun item => !Item.isComment item) ∘ Item.moved distance =
      fun item => !item.isComment := by
    funext item
    cases item <;> rfl
  let action := (placeholderAction body).moved before.length
  obtain ⟨flag, trimmed⟩ := trimItems_append false (scan before).items
    (.action action :: ((scan behind).moved distance).items)
  have unmarked : nextTrimsLeft (.action action :: ((scan behind).moved distance).items) = false :=
    rfl
  have after : trimItems flag (.action action :: ((scan behind).moved distance).items) =
      .action action :: (trimItems false (scan behind).items).map (Item.moved distance) := by
    rw [trimItems, ← trimItems_moved]
    rfl
  rw [unmarked, if_neg (by simp), after] at trimmed
  constructor
  · rw [whole, Scan.moved, complete_behind]
    rfl
  · rw [significant, whole, trimmed, List.filter_append, List.filter_cons_of_pos (by rfl),
      List.filter_map, comments]
    rfl

/-! ## Guards in a row and guards in each other -/

/-- A condition, and what stands for it. -/
structure Arm where
  /-- The condition. -/
  condition : String
  /-- The template that is resolved if it holds. -/
  body : String

/-- One conditional with a branch for each condition, and a last part. -/
def chained (first : Arm) (rest : List Arm) (last : String) : String :=
  placeholder ("if " ++ first.condition) ++ first.body ++
    String.join (rest.map fun arm => placeholder ("else if " ++ arm.condition) ++ arm.body) ++
    placeholder "else" ++ last ++ placeholder "end"

/-- A conditional for each condition, in the last part of the one before, and a last part. -/
def nested (first : Arm) (rest : List Arm) (last : String) : String :=
  placeholder ("if " ++ first.condition) ++ first.body ++
    String.join (rest.map fun arm =>
      placeholder "else" ++ placeholder ("if " ++ arm.condition) ++ arm.body) ++
    placeholder "else" ++ last ++ placeholder "end" ++
    String.join (List.replicate rest.length (placeholder "end"))

/-- What follows the first body where guards stand in a row. -/
def chainedTail (last : String) : List Arm → String
  | [] => placeholder "else" ++ last ++ placeholder "end"
  | arm :: rest =>
      placeholder ("else if " ++ arm.condition) ++ (arm.body ++ chainedTail last rest)

/-- What follows the first body where guards stand in each other. -/
def nestedTail (last : String) : List Arm → String
  | [] => placeholder "else" ++ last ++ placeholder "end"
  | arm :: rest =>
      placeholder "else" ++
        (placeholder ("if " ++ arm.condition) ++ (arm.body ++ nestedTail last rest)) ++
        placeholder "end"

theorem chained_eq (first : Arm) (rest : List Arm) (last : String) :
    chained first rest last =
      placeholder ("if " ++ first.condition) ++ (first.body ++ chainedTail last rest) := by
  have tail : chainedTail last rest =
      String.join (rest.map fun arm => placeholder ("else if " ++ arm.condition) ++ arm.body) ++
        (placeholder "else" ++ last ++ placeholder "end") := by
    induction rest with
    | nil => simp [chainedTail]
    | cons arm rest ih =>
        simp only [chainedTail, List.map_cons, String.join_cons, ih, String.append_assoc]
  simp only [chained, tail, String.append_assoc]

theorem nested_eq (first : Arm) (rest : List Arm) (last : String) :
    nested first rest last =
      placeholder ("if " ++ first.condition) ++ (first.body ++ nestedTail last rest) := by
  have tail : nestedTail last rest =
      String.join (rest.map fun arm =>
        placeholder "else" ++ placeholder ("if " ++ arm.condition) ++ arm.body) ++
        (placeholder "else" ++ last ++ placeholder "end") ++
        String.join (List.replicate rest.length (placeholder "end")) := by
    induction rest with
    | nil => simp [nestedTail]
    | cons arm rest ih =>
        simp only [nestedTail, List.map_cons, String.join_cons, ih, String.append_assoc,
          List.length_cons, List.replicate_succ', String.join_append, String.join_nil,
          String.append_empty]
  simp only [nested, tail, String.append_assoc]

/-- A template without a structural defect that does not end in an opening brace. -/
structure IsBody (source : String) : Prop where
  /-- It has no structural defect. -/
  accepted : (parse source).error = none
  /-- No opening delimiter lies across its end. -/
  apart : source.toList.getLast? ≠ some '{'

/-- A condition that makes a guard, and a body. -/
structure Arm.IsGuarded (arm : Arm) : Prop where
  /-- There is a condition. -/
  given : Text.trim arm.condition ≠ ""
  /-- The guard is one action. -/
  single : IsAction (placeholder ("if " ++ arm.condition))
  /-- What it guards is a template. -/
  body : IsBody arm.body

/-- The branch of an arm, where the guard is written behind a word. -/
def Arm.branch (word : String) (arm : Arm) : Branch :=
  .mk (placeholder (word ++ arm.condition)) (Text.trim arm.condition) (parse arm.body).parts

/-- A complete template, apart from the nesting limit: the items derive the parts, and it does not
end in an opening brace. -/
structure Reads (depth : Nat) (source : String) (parts : List Part) : Prop where
  /-- Every action is closed. -/
  scanned : (scan source).error = none
  /-- No opening delimiter lies across its end. -/
  apart : source.toList.getLast? ≠ some '{'
  /-- The items derive the parts. -/
  derives : DerivesParts depth (significant source) parts

/-- A text that may follow a guard: the items complete its conditional. -/
structure Follows (depth : Nat) (written condition source : String) (branches : List Branch)
    (otherwise : List Part) : Prop where
  /-- Every action is closed. -/
  scanned : (scan source).error = none
  /-- It ends with an action. -/
  ends : source.toList.getLast? = some '}'
  /-- The items derive the branches and the last part. -/
  derives : DerivesBranches depth written condition (significant source) branches otherwise

theorem IsBody.reads {source : String} (body : IsBody source) {depth : Nat}
    (enough : maxConditionals ≤ depth) : Reads depth source (parse source).parts := by
  obtain ⟨scanned, taken⟩ := parse_eq_iff_through.mp (parse_eq_of_complete body.accepted)
  have derives := through_significant_eq_ok_iff.mp taken
  exact ⟨scanned, body.apart, derives.of_depth_le (derives.depth_le.trans enough)⟩

theorem scan_empty : scan "" = ⟨[], none, 0⟩ :=
  scanFrom_nil 0

theorem significant_empty : significant "" = [] := by
  rw [significant, scan_empty]
  rfl

theorem getLast?_append_of_some {front back : String} {c : Char}
    (last : back.toList.getLast? = some c) : (front ++ back).toList.getLast? = some c := by
  rw [String.toList_append, List.getLast?_append, last, Option.some_or]

theorem getLast?_placeholder (body : String) : (placeholder body).toList.getLast? = some '}' :=
  getLast?_append_of_some (by decide)

theorem Action.Is.moved {action : Action} {keyword : Keyword} (is : action.Is keyword)
    (distance : Nat) : (action.moved distance).Is keyword :=
  is

theorem text_placeholderAction (body : String) (distance : Nat) :
    ((placeholderAction body).moved distance).text = placeholder body :=
  String.ofList_toList

namespace Reads

variable {depth : Nat} {source written condition : String} {parts otherwise : List Part}

/-- The last part and the end may follow a body. -/
theorem elsePart (reads : Reads depth source parts) {last : String}
    (reads_last : Reads depth last otherwise) :
    Follows depth written condition
      (source ++ (placeholder "else" ++ last ++ placeholder "end"))
      [.mk written condition parts] otherwise := by
  obtain ⟨scanned_end, items_end⟩ := significant_placeholder_between closed_close
    reads_last.scanned reads_last.apart (congrArg Scan.error scan_empty)
  obtain ⟨scanned_else, items_else⟩ := significant_placeholder_between closed_elsePart
    reads.scanned reads.apart scanned_end
  have whole : source ++ (placeholder "else" ++ last ++ placeholder "end") =
      source ++ placeholder "else" ++ (last ++ placeholder "end" ++ "") := by
    simp only [String.append_assoc, String.append_empty]
  refine ⟨by rw [whole, scanned_else],
    getLast?_append_of_some (getLast?_append_of_some (getLast?_placeholder "end")), ?_⟩
  generalize source.length + (placeholder "else").length = distance at items_else
  rw [whole, items_else, items_end, significant_empty, List.map_append]
  exact .elsePart reads.derives (is_elsePart.moved _) (reads_last.derives.moved distance)
    ((is_close.moved last.length).moved distance)

/-- Another guard may follow a body. -/
theorem elseGuard (reads : Reads depth source parts) {next later : String}
    {branches : List Branch} (given : Text.trim next ≠ "")
    (single : IsAction (placeholder ("if " ++ next)))
    (follows : Follows depth (placeholder ("else if " ++ next)) (Text.trim next) later branches
      otherwise) :
    Follows depth written condition (source ++ (placeholder ("else if " ++ next) ++ later))
      (.mk written condition parts :: branches) otherwise := by
  have closed := closed_elseGuard (isAction_placeholder_iff.mp single)
  obtain ⟨scanned, items⟩ :=
    significant_placeholder_between closed reads.scanned reads.apart follows.scanned
  generalize source.length + (placeholder ("else if " ++ next)).length = distance at items
  rw [← String.append_assoc]
  refine ⟨scanned, getLast?_append_of_some follows.ends, ?_⟩
  have derives := follows.derives.moved distance
  rw [← text_placeholderAction ("else if " ++ next) source.length] at derives
  rw [items]
  exact .elseGuard reads.derives ((is_elseGuard given).moved source.length) derives

end Reads

/-- A guard and what follows it are a conditional. -/
theorem Follows.conditional {depth : Nat} {condition later : String} {branches : List Branch}
    {otherwise : List Part} (given : Text.trim condition ≠ "")
    (single : IsAction (placeholder ("if " ++ condition)))
    (follows : Follows depth (placeholder ("if " ++ condition)) (Text.trim condition) later
      branches otherwise) :
    Reads (depth + 1) (placeholder ("if " ++ condition) ++ later)
      [.conditional branches otherwise] := by
  obtain ⟨scanned, items⟩ := significant_placeholder_between
    (isAction_placeholder_iff.mp single) (congrArg Scan.error scan_empty) (by simp)
    follows.scanned
  generalize "".length + (placeholder ("if " ++ condition)).length = distance at items
  rw [String.empty_append] at scanned items
  refine ⟨scanned, ?_, ?_⟩
  · rw [getLast?_append_of_some follows.ends]
    decide
  · have derives := follows.derives.moved distance
    rw [← text_placeholderAction ("if " ++ condition) "".length] at derives
    rw [items, significant_empty, List.nil_append]
    exact (DerivesPart.conditional ((is_ifGuard given).moved "".length) derives).single

/-! ## The trees -/

/-- The last part behind a body where guards stand in each other. -/
def nestedParts (last : String) : List Arm → List Part
  | [] => (parse last).parts
  | arm :: rest => [.conditional [arm.branch "if "] (nestedParts last rest)]

section Trees

variable {first : Arm} {rest : List Arm} {last : String}

theorem follows_chainedTail (guarded : ∀ arm ∈ rest, arm.IsGuarded) (closing : IsBody last)
    {body : String} (is : IsBody body) (written condition : String) :
    Follows maxConditionals written condition (body ++ chainedTail last rest)
      (.mk written condition (parse body).parts :: rest.map (Arm.branch "else if "))
      (parse last).parts := by
  induction rest generalizing body written condition with
  | nil => exact (is.reads le_rfl).elsePart (closing.reads le_rfl)
  | cons arm rest ih =>
      obtain ⟨here, later⟩ := List.forall_mem_cons.mp guarded
      exact (is.reads le_rfl).elseGuard here.given here.single (ih later here.body _ _)

theorem follows_nestedTail (guarded : ∀ arm ∈ rest, arm.IsGuarded) (closing : IsBody last)
    {body : String} (is : IsBody body) (written condition : String) :
    Follows (maxConditionals + rest.length) written condition (body ++ nestedTail last rest)
      [.mk written condition (parse body).parts] (nestedParts last rest) := by
  induction rest generalizing body written condition with
  | nil => exact (is.reads le_rfl).elsePart (closing.reads le_rfl)
  | cons arm rest ih =>
      obtain ⟨here, later⟩ := List.forall_mem_cons.mp guarded
      have inner := (ih later here.body _ _).conditional here.given here.single
      exact (is.reads (Nat.le_add_right _ _)).elsePart inner

/-- The last part of the nested guards is at least as deep as each branch and as the last part of
the guards in a row. -/
theorem depth_le_nestedParts (last : String) (rest : List Arm) :
    max (Branch.allDepth (rest.map (Arm.branch "else if "))) (Part.allDepth (parse last).parts) ≤
      Part.allDepth (nestedParts last rest) := by
  induction rest with
  | nil => simp [nestedParts, Branch.allDepth]
  | cons arm rest ih =>
      simp only [List.map_cons, nestedParts, Arm.branch, Branch.allDepth, Part.allDepth,
        Part.depth] at ih ⊢
      omega

/-- Guards in a row are the branches of one conditional, and guards in each other are nested
conditionals, if those are not nested too deep. -/
theorem parse_chained_and_nested (guarded : ∀ arm ∈ first :: rest, arm.IsGuarded)
    (closing : IsBody last)
    (shallow : ∀ error, (parse (nested first rest last)).error = some error →
      error.fault ≠ .conditionalsTooDeep) :
    parse (chained first rest last) =
        { parts := [.conditional (first.branch "if " :: rest.map (Arm.branch "else if "))
            (parse last).parts] } ∧
      parse (nested first rest last) =
        { parts := [.conditional [first.branch "if "] (nestedParts last rest)] } := by
  obtain ⟨here, later⟩ := List.forall_mem_cons.mp guarded
  have row := (follows_chainedTail later closing here.body _ _).conditional here.given here.single
  have nest := (follows_nestedTail later closing here.body _ _).conditional here.given here.single
  rw [← chained_eq] at row
  rw [← nested_eq] at nest
  obtain ⟨accepted, stopped⟩ := parse_of_derives nest.scanned nest.derives
  have within : Part.allDepth [.conditional [first.branch "if "] (nestedParts last rest)] ≤
      maxConditionals := by
    by_contra deep
    obtain ⟨error, found, fault⟩ := stopped (Nat.lt_of_not_le deep)
    exact shallow error found fault
  have bound := depth_le_nestedParts last rest
  have within_row : Part.allDepth
      [.conditional (first.branch "if " :: rest.map (Arm.branch "else if "))
        (parse last).parts] ≤ maxConditionals := by
    simp only [Arm.branch, Branch.allDepth, Part.allDepth, Part.depth] at within bound ⊢
    omega
  exact ⟨(parse_of_derives row.scanned row.derives).1 within_row, accepted within⟩

end Trees

end Promptline.Template
