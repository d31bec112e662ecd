import Promptline.Proofs.Resolve.Session
import Promptline.Proofs.Template.Source

/-!
# The places that a resolution comes to

A resolution comes to literal texts, placeholders and guards, in an order that the template and the
values of its guards decide.  Each text and each placeholder shows one piece, each failure reports
one issue, and each placeholder and guard is an action of the source.
-/

namespace Promptline

/-- Something in a template that a resolution comes to. -/
inductive Place
  /-- Literal text. -/
  | text (text : String)
  /-- A placeholder as written, and the expression in it. -/
  | placeholder (source body : String)
  /-- A guard as written, and the condition in it. -/
  | guard (source condition : String)
  deriving DecidableEq, Repr

/-- Whether an expression is read and has no value. -/
def Pass.fails (pass : Pass) (expression : String) : Bool :=
  match pass.reading expression with
  | .ok (.error _) => true
  | _ => false

theorem Pass.fails_iff (pass : Pass) (expression : String) :
    pass.fails expression = true ↔ ∃ issue, pass.reading expression = .ok (.error issue) := by
  unfold fails
  split
  · next issue failed => simp [failed]
  · next other => simpa using other

/-- A guard that has no value does not hold. -/
theorem Pass.guardHolds_of_fails {pass : Pass} {condition : String}
    (failed : pass.fails condition = true) : pass.guardHolds condition = false := by
  obtain ⟨issue, read⟩ := (pass.fails_iff condition).mp failed
  rw [guardHolds, read]

namespace Place

/-- Whether a place is a guard. -/
def isGuard : Place → Bool
  | guard _ _ => true
  | _ => false

/-- Whether a place is a placeholder. -/
def isPlaceholder : Place → Bool
  | placeholder _ _ => true
  | _ => false

/-- Whether the expression at a place has no value. -/
def fails (pass : Pass) : Place → Bool
  | text _ => false
  | placeholder _ body => pass.fails body
  | guard _ condition => pass.fails condition

/-- What a place shows. -/
inductive Shows (pass : Pass) : Place → Piece → Prop
  /-- Literal text shows itself. -/
  | text (text : String) : Shows pass (.text text) (.text text)
  /-- A placeholder shows the text of its value. -/
  | value {source body text : String} {value : Value}
      (read : pass.reading body = .ok (.ok value)) (written : value.text = .ok text) :
      Shows pass (.placeholder source body) (.text text)
  /-- A placeholder without a value is a failure, as written. -/
  | failure {source body : String} (failed : pass.fails body = true) :
      Shows pass (.placeholder source body) (.failure source)

/-- What a place reports. -/
inductive Reports (pass : Pass) : Place → Issue → Prop
  /-- A placeholder without a value. -/
  | placeholder {source body : String} {issue : Issue}
      (failed : pass.reading body = .ok (.error issue)) :
      Reports pass (.placeholder source body) issue
  /-- A guard without a value. -/
  | guard {source condition : String} {issue : Issue}
      (failed : pass.reading condition = .ok (.error issue)) :
      Reports pass (.guard source condition) issue

/-- What coming to a place produces. -/
def transcript (pass : Pass) : Place → Transcript
  | text chars => { pieces := [.text chars] }
  | placeholder source body => pass.actionTranscript source body
  | guard _ condition => pass.guardTranscript condition

/-- A place is made of one of these items; literal text may have been trimmed. -/
def From (items : List Template.Item) : Place → Prop
  | text _ => True
  | placeholder source body => ∃ action, .action action ∈ items ∧ action.Is .expression ∧
      action.text = source ∧ String.ofList action.body = body
  | guard source condition => ∃ action chars, .action action ∈ items ∧
      (action.Is (.ifGuard chars) ∨ action.Is (.elseGuard chars)) ∧
      action.text = source ∧ String.ofList chars = condition

theorem From.mono {items more : List Template.Item} {place : Place} (made : place.From items)
    (listed : items ⊆ more) : place.From more := by
  cases place with
  | text chars => trivial
  | placeholder source body =>
      obtain ⟨action, member, is⟩ := made
      exact ⟨action, listed member, is⟩
  | guard source condition =>
      obtain ⟨action, chars, member, is⟩ := made
      exact ⟨action, chars, listed member, is⟩

/-- A place that stops nothing shows a piece unless it is a guard, and reports an issue if it
fails. -/
theorem transcript_of_complete {pass : Pass} {place : Place}
    (complete : (place.transcript pass).limit = none) :
    List.Forall₂ (Shows pass) ([place].filter fun place => !place.isGuard)
        (place.transcript pass).pieces ∧
      List.Forall₂ (Reports pass) ([place].filter (fails pass))
        (place.transcript pass).issues := by
  cases place with
  | text chars => exact ⟨.cons (.text chars) .nil, .nil⟩
  | placeholder source body =>
      rw [transcript, Pass.actionTranscript, Transcript.append_of_complete rfl] at complete ⊢
      cases read : pass.reading body with
      | error limit => simp [read, Transcript.stopped] at complete
      | ok result =>
          cases result with
          | error issue =>
              have failed : (placeholder source body).fails pass = true :=
                (pass.fails_iff body).mpr ⟨issue, read⟩
              rw [List.filter_cons_of_pos failed]
              exact ⟨.cons (.failure failed) .nil, .cons (.placeholder read) .nil⟩
          | ok value =>
              have works : ¬ (placeholder source body).fails pass = true := by
                simp [fails, Pass.fails, read]
              rw [List.filter_cons_of_neg works]
              cases written : value.text with
              | error limit => simp [read, written, Transcript.stopped] at complete
              | ok shown =>
                  simp only [written]
                  exact ⟨.cons (.value read written) .nil, .nil⟩
  | guard source condition =>
      rw [transcript, Pass.guardTranscript, Transcript.append_of_complete rfl] at complete ⊢
      cases read : pass.reading condition with
      | error limit => simp [read, Transcript.stopped] at complete
      | ok result =>
          cases result with
          | error issue =>
              have failed : (guard source condition).fails pass = true :=
                (pass.fails_iff condition).mpr ⟨issue, read⟩
              rw [List.filter_cons_of_pos failed]
              exact ⟨.nil, .cons (.guard read) .nil⟩
          | ok value =>
              have works : ¬ (guard source condition).fails pass = true := by
                simp [fails, Pass.fails, read]
              rw [List.filter_cons_of_neg works]
              exact ⟨.nil, .nil⟩

theorem countP_fails (pass : Pass) (places : List Place) :
    places.countP (fails pass) =
      places.countP (fun place => place.isPlaceholder && place.fails pass) +
        places.countP (fun place => place.isGuard && place.fails pass) := by
  induction places with
  | nil => rfl
  | cons place places ih =>
      have here : (if place.fails pass then 1 else 0) =
          (if place.isPlaceholder && place.fails pass then 1 else 0) +
            if place.isGuard && place.fails pass then 1 else 0 := by
        cases failed : place.fails pass <;> cases place <;>
          simp [isPlaceholder, isGuard, fails] at failed ⊢
      rw [List.countP_cons, List.countP_cons, List.countP_cons, ih, here]
      omega

end Place

namespace Pass

variable (pass : Pass)

mutual

/-- The places that resolving a part comes to. -/
def partPlaces : Template.Part → List Place
  | .text text => [.text text]
  | .action source body => [.placeholder source body]
  | .conditional branches otherwise =>
      branchesPlaces branches ++ if pass.takes branches then [] else partsPlaces otherwise

/-- The places that resolving parts in order comes to. -/
def partsPlaces : List Template.Part → List Place
  | [] => []
  | first :: rest => partPlaces first ++ partsPlaces rest

/-- The guards up to the first one that holds, and the places in its body. -/
def branchesPlaces : List Template.Branch → List Place
  | [] => []
  | .mk source condition body :: rest =>
      .guard source condition ::
        if pass.guardHolds condition then partsPlaces body else branchesPlaces rest

end

/-- The places that resolving a template comes to. -/
def places (template : String) : List Place :=
  pass.partsPlaces (Template.parse template).parts

variable {pass} in
theorem mem_branchesPlaces {place : Place} {source condition : String}
    {body : List Template.Part} {rest : List Template.Branch}
    (member : place ∈ pass.branchesPlaces (.mk source condition body :: rest)) :
    place = .guard source condition ∨ place ∈ pass.partsPlaces body ∨
      place ∈ pass.branchesPlaces rest := by
  rcases List.mem_cons.mp member with same | member
  · exact .inl same
  · split at member
    · exact .inr (.inl member)
    · exact .inr (.inr member)

/-- What coming to places in order produces. -/
def placesTranscript : List Place → Transcript
  | [] => {}
  | place :: rest => place.transcript pass ++ placesTranscript rest

theorem placesTranscript_append (front back : List Place) :
    pass.placesTranscript (front ++ back) =
      pass.placesTranscript front ++ pass.placesTranscript back := by
  induction front with
  | nil => simp [placesTranscript]
  | cons place front ih =>
      rw [List.cons_append, placesTranscript, placesTranscript, ih, Transcript.append_assoc]

mutual

theorem placesTranscript_partPlaces (part : Template.Part) :
    pass.placesTranscript (pass.partPlaces part) = pass.partTranscript part := by
  cases part with
  | text text =>
      rw [partPlaces, placesTranscript, placesTranscript, Transcript.append_nil]
      rfl
  | action source body =>
      rw [partPlaces, placesTranscript, placesTranscript, Transcript.append_nil]
      rfl
  | conditional branches otherwise =>
      rw [partPlaces, partTranscript, placesTranscript_append,
        placesTranscript_branchesPlaces branches]
      split
      · rfl
      · rw [placesTranscript_partsPlaces otherwise]

/-- Resolving parts produces what the places that it comes to produce. -/
theorem placesTranscript_partsPlaces (parts : List Template.Part) :
    pass.placesTranscript (pass.partsPlaces parts) = pass.partsTranscript parts := by
  cases parts with
  | nil => rfl
  | cons first rest =>
      rw [partsPlaces, partsTranscript, placesTranscript_append,
        placesTranscript_partPlaces first, placesTranscript_partsPlaces rest]

theorem placesTranscript_branchesPlaces (branches : List Template.Branch) :
    pass.placesTranscript (pass.branchesPlaces branches) = pass.branchesTranscript branches := by
  cases branches with
  | nil => rfl
  | cons branch rest =>
      obtain ⟨source, condition, body⟩ := branch
      rw [branchesPlaces, branchesTranscript, placesTranscript, Place.transcript]
      split
      · rw [placesTranscript_partsPlaces body]
      · rw [placesTranscript_branchesPlaces rest]

end

/-- Places that stop nothing show one piece each, guards excepted, and report one issue for each
failure. -/
theorem placesTranscript_of_complete {places : List Place}
    (complete : (pass.placesTranscript places).limit = none) :
    List.Forall₂ (Place.Shows pass) (places.filter fun place => !place.isGuard)
        (pass.placesTranscript places).pieces ∧
      List.Forall₂ (Place.Reports pass) (places.filter (Place.fails pass))
        (pass.placesTranscript places).issues := by
  induction places with
  | nil => exact ⟨.nil, .nil⟩
  | cons place places ih =>
      rw [placesTranscript, Transcript.limit_append, Option.or_eq_none_iff] at complete
      obtain ⟨here, later⟩ := complete
      obtain ⟨shown, reported⟩ := Place.transcript_of_complete here
      obtain ⟨shown_later, reported_later⟩ := ih later
      rw [placesTranscript, Transcript.append_of_complete here, ← List.singleton_append,
        List.filter_append, List.filter_append]
      exact ⟨List.rel_append shown shown_later, List.rel_append reported reported_later⟩

end Pass

namespace Template

open Pass (partPlaces partsPlaces branchesPlaces)

variable {pass : Pass}

mutual

theorem DerivesPart.from_items {depth : Nat} {items : List Item} {part : Part}
    (derives : DerivesPart depth items part) :
    ∀ place ∈ pass.partPlaces part, place.From items :=
  match derives with
  | .text chars start => by simp [partPlaces, Place.From]
  | .placeholder is => by
      intro place member
      obtain rfl := List.mem_singleton.mp member
      exact ⟨_, List.mem_cons_self, is, rfl, rfl⟩
  | .conditional is rest => by
      have ⟨guarded, last⟩ := rest.from_items
      intro place member
      rcases List.mem_append.mp member with branch | otherwise
      · rcases guarded place branch with rfl | inside
        · exact ⟨_, _, List.mem_cons_self, .inl is, rfl, rfl⟩
        · exact inside.mono (List.subset_cons_self _ _)
      · split at otherwise
        · contradiction
        · exact (last place otherwise).mono (List.subset_cons_self _ _)

/-- The places in derived parts are made of the items that they are derived from. -/
theorem DerivesParts.from_items {depth : Nat} {items : List Item} {parts : List Part}
    (derives : DerivesParts depth items parts) :
    ∀ place ∈ pass.partsPlaces parts, place.From items :=
  match derives with
  | .nil => by simp [partsPlaces]
  | .cons first rest => by
      have here := first.from_items
      have later := rest.from_items
      intro place member
      rcases List.mem_append.mp member with member | member
      · exact (here place member).mono (List.subset_append_left _ _)
      · exact (later place member).mono (List.subset_append_right _ _)

theorem DerivesBranches.from_items {depth : Nat} {source condition : String} {items : List Item}
    {branches : List Branch} {otherwise : List Part}
    (derives : DerivesBranches depth source condition items branches otherwise) :
    (∀ place ∈ pass.branchesPlaces branches,
        place = .guard source condition ∨ place.From items) ∧
      ∀ place ∈ pass.partsPlaces otherwise, place.From items :=
  match derives with
  | .close body is => by
      have inside := body.from_items
      refine ⟨fun place member => ?_, by simp [partsPlaces]⟩
      rcases Pass.mem_branchesPlaces member with same | member | none
      · exact .inl same
      · exact .inr ((inside place member).mono (List.subset_append_left _ _))
      · contradiction
  | .elsePart body divides final is => by
      have inside := body.from_items
      have behind := final.from_items
      refine ⟨fun place member => ?_, fun place member => ?_⟩
      · rcases Pass.mem_branchesPlaces member with same | member | none
        · exact .inl same
        · exact .inr ((inside place member).mono (List.subset_append_left _ _))
        · contradiction
      · exact (behind place member).mono fun item listed => by simp [listed]
  | .elseGuard body is rest => by
      have inside := body.from_items
      have ⟨guarded, last⟩ := rest.from_items
      refine ⟨fun place member => ?_, fun place member => ?_⟩
      · rcases Pass.mem_branchesPlaces member with same | member | member
        · exact .inl same
        · exact .inr ((inside place member).mono (List.subset_append_left _ _))
        · rcases guarded place member with rfl | made
          · exact .inr ⟨_, _, by simp, .inr is, rfl, rfl⟩
          · exact .inr (made.mono fun item listed => by simp [listed])
      · exact (last place member).mono fun item listed => by simp [listed]

end

end Template

end Promptline
