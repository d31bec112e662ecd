import Promptline.Document.Toml
import Promptline.Proofs.Document.Toml.Scalar
import Promptline.Proofs.Text.Split

/-!
# What TOML documents amount to

A document that is read is a table of tables with each key once, whatever order its statements have.
A document that is not read is malformed, or has an integer with more digits than the limit in it.
-/

namespace Promptline.Toml

/-! ## Trees -/

theorem entriesToDocument_eq (nodes : Nodes) :
    entriesToDocument nodes = Entries.mapValues Node.toDocument nodes := by
  induction nodes with
  | nil => rfl
  | cons entry rest ih =>
      rw [entriesToDocument, ih]
      rfl

theorem get?_entriesToDocument (key : String) (nodes : Nodes) :
    Entries.get? key (entriesToDocument nodes) = (Entries.get? key nodes).map Node.toDocument := by
  rw [entriesToDocument_eq, Entries.get?_mapValues]

theorem entriesToDocument_insert (key : String) (node : Node) (nodes : Nodes) :
    entriesToDocument (Entries.insert key node nodes) =
      Entries.insert key node.toDocument (entriesToDocument nodes) := by
  induction nodes with
  | nil => rfl
  | cons entry rest ih =>
      obtain ⟨name, old⟩ := entry
      by_cases same : name = key
      · simp [Entries.insert, entriesToDocument, same]
      · simp [Entries.insert, entriesToDocument, same, ih]

namespace Nodes

/-- The tables that nodes stand for have each key once. -/
def Keyed (nodes : Nodes) : Prop :=
  (Document.table (entriesToDocument nodes)).Keyed

theorem keyed_nil : Keyed [] :=
  Document.keyed_nil

theorem Keyed.insert {nodes : Nodes} (keyed : nodes.Keyed) (key : String) {node : Node}
    (entered : node.toDocument.Keyed) : Keyed (Entries.insert key node nodes) := by
  rw [Keyed, entriesToDocument_insert]
  exact Document.Keyed.insert keyed key entered

theorem Keyed.of_get? {nodes : Nodes} (keyed : nodes.Keyed) {key : String} {definedIn : Option Nat}
    {inner : Nodes} (held : Entries.get? key nodes = some (.table definedIn inner)) :
    inner.Keyed := by
  have here : Entries.get? key (entriesToDocument nodes) =
      some (.table (entriesToDocument inner)) := by
    rw [get?_entriesToDocument, held]
    rfl
  exact Document.Keyed.of_get? keyed here

theorem keyed_list (items : List Document) : (Document.list items).Keyed :=
  Document.keyed_of_not_isTable rfl trivial

/-- Entering a value keeps keys apart. -/
theorem Keyed.assign? {now : Option Nat} {value : Document} (entered : value.Keyed)
    {path : List String} {nodes result : Nodes} (keyed : nodes.Keyed)
    (assigned : assign? now value path nodes = some result) : result.Keyed := by
  induction path generalizing nodes result with
  | nil => cases assigned
  | cons key path ih =>
      cases path with
      | nil =>
          rw [Nodes.assign?] at assigned
          split at assigned
          · cases assigned
          · obtain rfl := Option.some.inj assigned
            exact keyed.insert key entered
      | cons next path =>
          rw [Nodes.assign?.eq_3 _ _ _ _ _ (List.cons_ne_nil next path)] at assigned
          split at assigned
          · obtain ⟨inner, below, rfl⟩ := Option.map_eq_some_iff.mp assigned
            exact keyed.insert key (ih keyed_nil below)
          · next held =>
              split at assigned
              · cases assigned
              · obtain ⟨inner, below, rfl⟩ := Option.map_eq_some_iff.mp assigned
                exact keyed.insert key (ih (keyed.of_get? held) below)
          · cases assigned

/-- Changing the table of a heading keeps keys apart, if the change does. -/
theorem Keyed.under? {change : Nodes → Option Nodes}
    (keeps : ∀ nodes result, nodes.Keyed → change nodes = some result → result.Keyed)
    {path : List String} {nodes result : Nodes} (keyed : nodes.Keyed)
    (changed : under? change path nodes = some result) : result.Keyed := by
  induction path generalizing nodes result with
  | nil => exact keeps nodes result keyed changed
  | cons key path ih =>
      rw [Nodes.under?] at changed
      split at changed
      · obtain ⟨inner, below, rfl⟩ := Option.map_eq_some_iff.mp changed
        exact keyed.insert key (ih keyed_nil below)
      · next held =>
          obtain ⟨inner, below, rfl⟩ := Option.map_eq_some_iff.mp changed
          exact keyed.insert key (ih (keyed.of_get? held) below)
      · obtain ⟨last, -, rfl⟩ := Option.map_eq_some_iff.mp changed
        exact keyed.insert key (keyed_list _)
      · cases changed

theorem Keyed.define? {now : Nat} {key : String} {nodes result : Nodes} (keyed : nodes.Keyed)
    (defined : define? now key nodes = some result) : result.Keyed := by
  unfold Nodes.define? at defined
  split at defined
  · obtain rfl := Option.some.inj defined
    exact keyed.insert key keyed_nil
  · next held =>
      obtain rfl := Option.some.inj defined
      exact keyed.insert key (keyed.of_get? held)
  · cases defined

theorem Keyed.extend? {key : String} {nodes result : Nodes} (keyed : nodes.Keyed)
    (extended : extend? key nodes = some result) : result.Keyed := by
  unfold Nodes.extend? at extended
  split at extended
  · obtain rfl := Option.some.inj extended
    exact keyed.insert key (keyed_list _)
  · obtain rfl := Option.some.inj extended
    exact keyed.insert key (keyed_list _)
  · cases extended

end Nodes

/-! ## Values -/

variable {room : Nat}

theorem skipLines_leaves (fuel : Nat) (cs : List Char) : Leaves room cs (skipLines fuel cs) := by
  induction fuel generalizing cs with
  | zero => exact .ok (List.suffix_refl _)
  | succ fuel ih =>
      have left : cs.dropWhile isSpaceOrBreak <:+ cs := List.dropWhile_suffix _
      unfold skipLines
      split
      · next rest found =>
          rw [found] at left
          refine Leaves.of_suffix ?_ left
          exact (skipComment_leaves ('#' :: rest)).chain fun rest _ => ih rest
      · exact .ok left

/-- What the readers of values do with a given fuel, whatever room there is. -/
structure ReadersGive (fuel : Nat) : Prop where
  /-- Values are keyed. -/
  value : ∀ room cs, Gives room Document.Keyed cs (value fuel room cs)
  /-- Items are a piece of the text. -/
  items : ∀ room cs, Gives room Anything cs (items fuel room cs)
  /-- Tables on one line are keyed. -/
  inlineTable : ∀ room nodes cs, nodes.Keyed →
    Gives room Document.Keyed cs (inlineTable fuel room nodes cs)

namespace ReadersGive

variable {fuel : Nat} (give : ReadersGive fuel)

include give

theorem value_succ (room : Nat) (cs : List Char) :
    Gives room Document.Keyed cs (Toml.value (fuel + 1) room cs) := by
  unfold Toml.value
  split
  · next impossible => cases impossible
  · next later cs same =>
      obtain rfl := Nat.succ.inj same
      refine Gives.of_enter (calls_list cs).ge (List.suffix_cons '[' cs) fun room => ?_
      refine (skipLines_leaves cs.length cs).bind fun rest _ => ?_
      split
      · exact .ok (Nodes.keyed_list _) (List.suffix_cons _ _)
      · refine (give.items room _).bind fun items after _ _ => ?_
        exact .ok (Nodes.keyed_list _) (List.suffix_refl _)
  · next later cs same =>
      obtain rfl := Nat.succ.inj same
      refine Gives.of_enter (calls_table cs).ge (List.suffix_cons '\x7b' cs) fun room => ?_
      refine Gives.of_suffix ?_ (skip_suffix cs)
      split
      · next after found =>
          rw [found]
          exact .ok Document.keyed_nil (List.suffix_cons _ _)
      · exact give.inlineTable room [] _ Nodes.keyed_nil
  · exact scalar_gives _

theorem items_succ (room : Nat) (cs : List Char) :
    Gives room Anything cs (Toml.items (fuel + 1) room cs) := by
  unfold Toml.items
  refine (give.value room cs).bind fun item rest _ _ => ?_
  refine (skipLines_leaves rest.length rest).bind fun rest _ => ?_
  split
  · exact .ok trivial (List.suffix_cons _ _)
  · next rest _ =>
      refine Gives.of_suffix ?_ (List.suffix_cons ',' rest)
      refine (skipLines_leaves rest.length rest).bind fun rest _ => ?_
      split
      · exact .ok trivial (List.suffix_cons _ _)
      · refine (give.items room _).bind fun more after _ _ => ?_
        exact .ok trivial (List.suffix_refl _)
  · exact .malformed

theorem inlineTable_succ (room : Nat) {nodes : Nodes} (keyed : nodes.Keyed) (cs : List Char) :
    Gives room Document.Keyed cs (Toml.inlineTable (fuel + 1) room nodes cs) := by
  unfold Toml.inlineTable
  refine (key_gives cs).bind fun path rest _ _ => ?_
  simp only
  split
  · next rest _ =>
      refine Gives.of_suffix ?_ (List.suffix_cons '=' rest)
      have first := (give.value room (skip rest)).of_suffix (skip_suffix rest)
      refine first.bind fun item rest entered _ => ?_
      simp only
      split
      · exact .malformed
      · next nodes assigned =>
          have keyed := Nodes.Keyed.assign? entered keyed assigned
          refine Gives.of_suffix ?_ (skip_suffix rest)
          split
          · next after found =>
              rw [found]
              exact .ok keyed (List.suffix_cons _ _)
          · next rest found =>
              rw [found]
              refine Gives.of_suffix ?_ ((skip_suffix rest).trans (List.suffix_cons _ _))
              exact give.inlineTable room _ _ keyed
          · exact .malformed
  · exact .malformed

end ReadersGive

theorem readers_give (fuel : Nat) : ReadersGive fuel := by
  induction fuel with
  | zero => exact ⟨fun _ _ => .malformed, fun _ _ => .malformed, fun _ _ _ _ => .malformed⟩
  | succ fuel ih =>
      exact ⟨ih.value_succ, ih.items_succ, fun room _ cs keyed => ih.inlineTable_succ room keyed cs⟩

/-! ## Statements -/

theorem change_reads {nodes : Option Nodes} {state : State} (cs : List Char)
    (keyed : ∀ changed, nodes = some changed → changed.Keyed) :
    Reads room (·.nodes.Keyed) cs (change nodes state) := by
  unfold change
  split
  · next changed => exact .ok (keyed changed rfl)
  · exact .malformed

theorem startSection_reads (path : List String) (enter : Nat → String → Nodes → Option Nodes)
    (keeps : ∀ now key nodes result, nodes.Keyed → enter now key nodes = some result → result.Keyed)
    {state : State} (keyed : state.nodes.Keyed) (cs : List Char) :
    Reads room (·.nodes.Keyed) cs (startSection path enter state) :=
  change_reads cs fun _ changed => Nodes.Keyed.under? (keeps _ _) keyed changed

theorem statement_gives {state : State} (keyed : state.nodes.Keyed) (cs : List Char) :
    Gives room (·.nodes.Keyed) cs (statement room state cs) := by
  unfold statement
  split
  · next cs =>
      have left : skip cs <:+ '[' :: '[' :: cs := (skip_suffix cs).trans ⟨['[', '['], rfl⟩
      refine Gives.of_suffix ?_ left
      refine (key_gives (skip cs)).bind fun path rest _ _ => ?_
      have started := @startSection_reads room path (fun _ => Nodes.extend?)
        (fun _ _ _ _ keyed extended => keyed.extend? extended) state keyed rest
      refine Reads.bind started fun state keyed => ?_
      split
      · exact .ok ⟨keyed, [']', ']'], rfl⟩
      · exact .malformed
  · next cs _ =>
      refine Gives.of_suffix ?_ ((skip_suffix cs).trans (List.suffix_cons '[' cs))
      refine (key_gives (skip cs)).bind fun path rest _ _ => ?_
      have started := @startSection_reads room path Nodes.define?
        (fun _ _ _ _ keyed defined => keyed.define? defined) state keyed rest
      refine Reads.bind started fun state keyed => ?_
      split
      · exact .ok ⟨keyed, List.suffix_cons _ _⟩
      · exact .malformed
  · exact .ok keyed (List.suffix_refl _)
  · next cs _ _ _ =>
      refine (key_gives _).bind fun path rest _ _ => ?_
      simp only
      split
      · next rest _ =>
          refine Gives.of_suffix ?_ ((skip_suffix rest).trans (List.suffix_cons '=' rest))
          have values := (readers_give (2 * rest.length + 1)).value room (skip rest)
          refine values.bind fun item after entered _ => ?_
          refine Reads.bind (change_reads after fun changed under => ?_)
            fun state keyed => .ok ⟨keyed, List.suffix_refl _⟩
          exact Nodes.Keyed.under?
            (fun _ _ keyed assigned => Nodes.Keyed.assign? entered keyed assigned) keyed under
      · exact .malformed

theorem statements_reads (fuel : Nat) (state : State) (keyed : state.nodes.Keyed) (cs : List Char) :
    Reads room (·.nodes.Keyed) cs (statements room fuel state cs) := by
  induction fuel generalizing state cs with
  | zero => exact .ok keyed
  | succ fuel ih =>
      have left := skip_suffix cs
      unfold statements
      split
      · exact .ok keyed
      · next rest found =>
          rw [found] at left
          exact (ih state keyed rest).imp ((List.suffix_cons _ _).trans left) fun _ keyed => keyed
      · next line _ _ =>
          refine Reads.imp ?_ left fun _ keyed => keyed
          refine Reads.bind (statement_gives keyed _) fun (state, rest) ⟨keyed, after⟩ => ?_
          have commented : Leaves room (skip cs) (skipComment (skip rest)) :=
            (skipComment_leaves (skip rest)).of_suffix ((skip_suffix rest).trans after)
          refine Reads.bind commented fun rest left => ?_
          split
          · exact .ok keyed
          · exact (ih _ keyed _).imp ((List.suffix_cons _ _).trans left) fun _ keyed => keyed
          · exact .malformed

/-! ## Line ends -/

/-- A text with line feeds in place of carriage returns that line feeds follow. -/
def unifyBreaks : List Char → List Char
  | '\r' :: '\n' :: cs => '\n' :: unifyBreaks cs
  | c :: cs => c :: unifyBreaks cs
  | [] => []

theorem joinWith_splitTextFrom (current cs : List Char) :
    Text.joinWith ['\n'] (Text.splitTextFrom ['\r', '\n'] current 0 cs) =
      current.reverse ++ unifyBreaks cs := by
  induction cs using unifyBreaks.induct generalizing current with
  | case1 cs ih =>
      obtain ⟨field, fields, cut⟩ :=
        List.exists_cons_of_ne_nil (Text.splitTextFrom_ne_nil ['\r', '\n'] [] 0 cs)
      have later := ih []
      rw [cut, List.reverse_nil, List.nil_append] at later
      change Text.joinWith ['\n'] (current.reverse :: Text.splitTextFrom ['\r', '\n'] [] 0 cs) = _
      rw [cut, Text.joinWith, later, unifyBreaks, List.append_assoc, List.singleton_append]
      exact List.cons_ne_nil _ _
  | case2 c cs other ih =>
      have plain : Text.startsWith ['\r', '\n'] (c :: cs) = false := by
        cases found : Text.afterPrefix? ['\r', '\n'] (c :: cs) with
        | none => rw [Text.startsWith, found]; rfl
        | some rest =>
            obtain ⟨rfl, rfl⟩ := List.cons.inj (Text.eq_append_of_afterPrefix? found)
            exact absurd rfl (other rest rfl)
      rw [Text.splitTextFrom, plain, if_neg Bool.false_ne_true, ih, unifyBreaks.eq_2 _ _ other]
      simp
  | case3 => simp [Text.splitTextFrom, Text.joinWith, unifyBreaks]

theorem replaceAll_breaks (cs : List Char) :
    Text.replaceAll ['\r', '\n'] ['\n'] cs = unifyBreaks cs :=
  joinWith_splitTextFrom [] cs

section Run

variable {run cs : List Char} (unbroken : '\n' ∉ run)

include unbroken

theorem prefix_of_unifyBreaks (front : run <+: unifyBreaks cs) : run <+: cs := by
  induction cs using unifyBreaks.induct generalizing run with
  | case1 cs ih =>
      obtain rfl | ⟨rest, rfl, -⟩ := List.prefix_cons_iff.mp front
      · exact List.nil_prefix
      · exact absurd List.mem_cons_self unbroken
  | case2 c cs other ih =>
      rw [unifyBreaks.eq_2 _ _ other] at front
      obtain rfl | ⟨rest, rfl, later⟩ := List.prefix_cons_iff.mp front
      · exact List.nil_prefix
      · exact List.prefix_cons_iff.mpr
          (.inr ⟨rest, rfl, ih (fun member => unbroken (List.mem_cons_of_mem _ member)) later⟩)
  | case3 => exact front

/-- A piece without line ends stands in the text that line ends were unified in. -/
theorem infix_of_unifyBreaks (inside : run <:+: unifyBreaks cs) : run <:+: cs := by
  induction cs using unifyBreaks.induct with
  | case1 cs ih =>
      obtain front | later := List.infix_cons_iff.mp inside
      · obtain rfl | ⟨rest, rfl, -⟩ := List.prefix_cons_iff.mp front
        · exact List.nil_infix
        · exact absurd List.mem_cons_self unbroken
      · exact (ih later).trans (List.suffix_append ['\r', '\n'] cs).isInfix
  | case2 c cs other ih =>
      have whole := inside
      rw [unifyBreaks.eq_2 _ _ other] at whole
      obtain front | later := List.infix_cons_iff.mp whole
      · rw [← unifyBreaks.eq_2 _ _ other] at front
        exact (prefix_of_unifyBreaks unbroken front).isInfix
      · exact (ih later).trans (List.suffix_cons _ _).isInfix
  | case3 => exact inside

end Run

theorem hasLongRun_of_unifyBreaks {cs : List Char} (long : HasLongRun (unifyBreaks cs)) :
    HasLongRun cs := by
  obtain ⟨run, inside, shape, count⟩ := long
  have unbroken : '\n' ∉ run := by
    intro member
    obtain digit | underscore := shape _ member
    · cases digit
    · cases underscore
  exact ⟨run, infix_of_unifyBreaks unbroken inside, shape, count⟩

theorem unifyBreaks_sublist (cs : List Char) : (unifyBreaks cs).Sublist cs := by
  induction cs using unifyBreaks.induct with
  | case1 cs ih => exact (ih.cons_cons '\n').cons '\r'
  | case2 c cs other ih =>
      rw [unifyBreaks.eq_2 _ _ other]
      exact ih.cons_cons c
  | case3 => exact .slnil

/-- A document is a table of tables with each key once, or malformed, or has an integer in it with
more digits than the limit, or lists and tables inside one another that there is no room for. -/
theorem read_reads (room : Nat) (text : String) :
    Reads room (fun table => (Document.table table).Keyed) text.toList (read room text) := by
  have reads := @statements_reads room ((unifyBreaks text.toList).length + 1) {} Nodes.keyed_nil
    (unifyBreaks text.toList)
  simp only [read, replaceAll_breaks]
  generalize statements _ _ _ _ = final at reads ⊢
  cases reads with
  | ok keyed => exact .ok keyed
  | malformed => exact .malformed
  | tooLong long => exact .tooLong (hasLongRun_of_unifyBreaks long)
  | tooDeep deep =>
      have fewer := calls_le_of_sublist (unifyBreaks_sublist text.toList)
      exact .tooDeep (Nat.lt_of_lt_of_le deep fewer)

/-- With room for all of its brackets and braces, no document is too deep. -/
theorem read_calls_ne_tooDeep (text : String) :
    read (calls text.toList) text ≠ .error .tooDeep := by
  have reads := read_reads (calls text.toList) text
  intro failed
  rw [failed] at reads
  cases reads with
  | tooDeep deep => exact lt_irrefl _ deep

end Promptline.Toml
