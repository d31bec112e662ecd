import Mathlib.Logic.ExistsUnique
import Promptline.Proofs.Document.Set
import Promptline.Proofs.Text.Lower
import Promptline.Settings.Variables

/-!
# The order of environment variables

A variable stores its value at the end of the path that the parts of its name form.  Where no such
path leads along another, the variables do not touch each other's values, so that their order does
not matter.
-/

namespace Promptline.Settings

/-- The parts of the name of a variable that holds a setting: what double underscores separate
after the prefix, in lower case. -/
def partsOf? (lead name : String) : Option (List String) :=
  match Text.afterPrefix? lead.toList name.toList with
  | some key =>
      if Text.occursIn separator key then
        let lowered := (Text.lower (String.ofList key)).toList
        some ((Text.splitText separator lowered).map String.ofList)
      else none
  | none => none

theorem ne_nil_of_partsOf? {lead name : String} {parts : List String}
    (named : partsOf? lead name = some parts) : parts ≠ [] := by
  unfold partsOf? at named
  split at named
  · split at named
    · obtain rfl := Option.some.inj named
      exact mt List.map_eq_nil_iff.mp (Text.splitTextFrom_ne_nil _ _ _ _)
    · cases named
  · cases named

/-- Fields without points are not cut at points. -/
theorem flatMap_splitOn {fields : List (List Char)} (plain : ∀ field ∈ fields, '.' ∉ field) :
    (fields.flatMap fun field => (Text.splitOn '.' field).map String.ofList) =
      fields.map String.ofList := by
  induction fields with
  | nil => rfl
  | cons field fields ih =>
      obtain ⟨first, others⟩ := List.forall_mem_cons.mp plain
      rw [List.flatMap_cons, Text.splitOn_of_not_mem first, ih others]
      rfl

/-- A name without points is cut at double underscores only. -/
theorem pathOf?_eq_partsOf? {lead name : String}
    (plain : (partsOf? lead name).isSome → '.' ∉ name.toList) :
    pathOf? lead name = partsOf? lead name := by
  unfold pathOf? partsOf? at *
  cases after : Text.afterPrefix? lead.toList name.toList with
  | none => rfl
  | some key =>
      simp only [after] at plain ⊢
      split
      · next separated =>
          rw [if_pos separated, Option.isSome_some] at plain
          have absent : '.' ∉ (String.ofList key).toList := by
            have whole := plain rfl
            rw [Text.eq_append_of_afterPrefix? after] at whole
            rw [String.toList_ofList]
            exact fun member => whole (List.mem_append_right _ member)
          -- Lower case brings no point into the name, so no field is cut again.
          have lowered := mt (Text.point_mem_lower_iff _).mp absent
          rw [flatMap_splitOn fun field isField member =>
            lowered (Text.mem_of_mem_splitText isField member)]
      · rfl

/-- What a variable stores, and where. -/
def stored? (lead : String) (entry : String × String) : Option (List String × Document) :=
  (partsOf? lead entry.1).map (·, valueOf entry.2)

theorem stored?_eq_some_iff {lead : String} {entry : String × String}
    {write : List String × Document} :
    stored? lead entry = some write ↔
      partsOf? lead entry.1 = some write.1 ∧ valueOf entry.2 = write.2 := by
  obtain ⟨path, value⟩ := write
  rw [stored?, Option.map_eq_some_iff]
  constructor
  · rintro ⟨parts, named, same⟩
    obtain ⟨rfl, rfl⟩ := Prod.mk.inj same
    exact ⟨named, rfl⟩
  · rintro ⟨named, rfl⟩
    exact ⟨path, named, rfl⟩

/-- Variables whose names have no points are stored at the ends of the paths that the parts of
their names form. -/
theorem ofVariables_eq_setAll {lead : String} {environment : List (String × String)}
    (plain : ∀ entry ∈ environment, (partsOf? lead entry.1).isSome → '.' ∉ entry.1.toList) :
    ofVariables lead environment = Table.setAll (environment.filterMap (stored? lead)) [] := by
  rw [ofVariables, Table.setAll, List.foldl_filterMap]
  generalize ([] : Table) = values
  induction environment generalizing values with
  | nil => rfl
  | cons entry environment ih =>
      obtain ⟨first, others⟩ := List.forall_mem_cons.mp plain
      rw [List.foldl_cons, List.foldl_cons, pathOf?_eq_partsOf? first, ih others, stored?]
      cases partsOf? lead entry.1 <;> rfl

/-- The parts of two names, if they have any, are not the same, and those of the one are not the
first ones of the other. -/
def NamedApart (lead : String) (entry other : String × String) : Prop :=
  ∀ parts ∈ partsOf? lead entry.1, ∀ others ∈ partsOf? lead other.1, Table.Apart parts others

theorem NamedApart.symm {lead : String} {entry other : String × String}
    (apart : NamedApart lead entry other) : NamedApart lead other entry :=
  fun parts named others alsoNamed => (apart others alsoNamed parts named).symm

/-- Variables whose names have no points, and of which none is stored in the place of another or
in place of a table on the way to it. -/
structure Independent (lead : String) (environment : List (String × String)) : Prop where
  /-- Names of variables that hold settings have no points. -/
  plain : ∀ entry ∈ environment, (partsOf? lead entry.1).isSome → '.' ∉ entry.1.toList
  /-- The parts of a name are not those of another one, and not the first ones of another. -/
  apart : environment.Pairwise (NamedApart lead)

namespace Independent

variable {lead : String} {environment other : List (String × String)}

theorem perm (independent : Independent lead environment) (same : other.Perm environment) :
    Independent lead other where
  plain entry member := independent.plain entry (same.mem_iff.mp member)
  apart := independent.apart.perm same.symm fun apart => apart.symm

theorem scattered (independent : Independent lead environment) :
    Table.Scattered (environment.filterMap (stored? lead)) where
  nonempty write member := by
    obtain ⟨entry, -, stored⟩ := List.mem_filterMap.mp member
    exact ne_nil_of_partsOf? (stored?_eq_some_iff.mp stored).1
  apart := by
    refine List.pairwise_filterMap.mpr (independent.apart.imp ?_)
    intro entry other apart write stored another alsoStored
    exact apart write.1 (stored?_eq_some_iff.mp stored).1 another.1
      (stored?_eq_some_iff.mp alsoStored).1

/-- Along a path lead the parts of one variable at most. -/
theorem eq_of_prefix (independent : Independent lead environment) {entry other : String × String}
    {parts others path : List String} (member : entry ∈ environment)
    (named : partsOf? lead entry.1 = some parts) (along : parts <+: path)
    (alsoMember : other ∈ environment) (alsoNamed : partsOf? lead other.1 = some others)
    (alsoAlong : others <+: path) : entry = other := by
  have : Std.Symm (NamedApart lead) := ⟨fun _ _ => NamedApart.symm⟩
  by_contra differ
  have apart := independent.apart.forall member alsoMember differ parts named others alsoNamed
  exact apart.not_both along alsoAlong

end Independent

/-- The parts of the name of a variable lead along a path, and what is left of it leads to some data
in the value. -/
def HoldsAt (lead : String) (entry : String × String) (path : List String) (d : Document) : Prop :=
  ∃ parts ∈ partsOf? lead entry.1, ∃ rest, parts ++ rest = path ∧
    (valueOf entry.2).getPath? rest = some d

/-- A path leads to a place on the way to where a variable stores its value. -/
def MadeFor (lead : String) (entry : String × String) (path : List String) : Prop :=
  ∃ parts ∈ partsOf? lead entry.1, path <+: parts ∧ path ≠ parts

theorem exists_unique_holdsAt {lead : String} {environment : List (String × String)}
    (independent : Independent lead environment) {path : List String} {d : Document}
    (nonempty : path ≠ []) (held : (ofVariables lead environment).get? path = some d) :
    (d.isTable = true ∧ ∃ entry ∈ environment, MadeFor lead entry path) ∨
      ∃! entry, entry ∈ environment ∧ HoldsAt lead entry path d := by
  rw [ofVariables_eq_setAll independent.plain] at held
  obtain ⟨write, member, rest, rfl, here⟩ | ⟨⟨write, member, leads, proper⟩, inner, here⟩ |
    ⟨-, here⟩ := independent.scattered.get?_setAll_cases nonempty
  · right
    obtain ⟨entry, isVariable, stored⟩ := List.mem_filterMap.mp member
    obtain ⟨named, value⟩ := stored?_eq_some_iff.mp stored
    have found : (valueOf entry.2).getPath? rest = some d := by rw [value, ← here, held]
    refine ⟨entry, ⟨isVariable, write.1, named, rest, rfl, found⟩, ?_⟩
    rintro other ⟨alsoVariable, parts, alsoNamed, beyond, split, -⟩
    exact independent.eq_of_prefix alsoVariable alsoNamed ⟨beyond, split⟩ isVariable named
      (List.prefix_append _ _)
  · left
    obtain ⟨entry, isVariable, stored⟩ := List.mem_filterMap.mp member
    obtain rfl := Option.some.inj (held.symm.trans here)
    exact ⟨rfl, entry, isVariable, write.1, (stored?_eq_some_iff.mp stored).1, leads, proper⟩
  · cases held.symm.trans here

/-- Settings in environment variables do not depend on the order of the variables, if no name has a
point in it and the parts of no name are the first or all parts of another one.  The value of each
variable is found where its parts lead, and anything that is found is in the value of exactly one
variable, or else it is a table on the way to one. -/
theorem variables_may_come_in_any_order {lead : String} {environment : List (String × String)}
    (independent : Independent lead environment) :
    (∀ other, other.Perm environment → Document.Alike (.table (ofVariables lead other))
      (.table (ofVariables lead environment))) ∧
    (∀ entry ∈ environment, ∀ parts ∈ partsOf? lead entry.1,
      (ofVariables lead environment).get? parts = some (valueOf entry.2)) ∧
    ∀ path d, path ≠ [] → (ofVariables lead environment).get? path = some d →
      (d.isTable = true ∧ ∃ entry ∈ environment, MadeFor lead entry path) ∨
        ∃! entry, entry ∈ environment ∧ HoldsAt lead entry path d := by
  refine ⟨fun other same => ?_, fun entry isVariable parts named => ?_,
    fun path d nonempty held => exists_unique_holdsAt independent nonempty held⟩
  · rw [ofVariables_eq_setAll (independent.perm same).plain,
      ofVariables_eq_setAll independent.plain]
    exact independent.scattered.alike_of_perm (same.filterMap (stored? lead))
  · have stored : stored? lead entry = some (parts, valueOf entry.2) :=
      stored?_eq_some_iff.mpr ⟨named, rfl⟩
    have found := independent.scattered.get?_setAll
      (List.mem_filterMap.mpr ⟨entry, isVariable, stored⟩) [] []
    rw [List.append_nil] at found
    rw [ofVariables_eq_setAll independent.plain, found, Document.getPath?]

/-- Two variables share a table; the value of one of them has a value of its own in it. -/
theorem variables_with_a_shared_table :
    let environment := [("OMPRENDER_Render__STRICT", "true"), ("HOME", "/home/a.b"),
      ("OMPRENDER_RENDER__MARKS", "\x7b\"on\": true\x7d")]
    let other := [("OMPRENDER_RENDER__MARKS", "\x7b\"on\": true\x7d"),
      ("OMPRENDER_Render__STRICT", "true"), ("HOME", "/home/a.b")]
    let values := ofVariables "OMPRENDER_" environment
    Independent "OMPRENDER_" environment ∧
      Document.Alike (.table (ofVariables "OMPRENDER_" other)) (.table values) ∧
      values.get? ["render", "strict"] = some (valueOf "true") ∧
      ∃ d, values.get? ["render", "marks", "on"] = some d ∧
        ∃! entry, entry ∈ environment ∧ HoldsAt "OMPRENDER_" entry ["render", "marks", "on"] d := by
  intro environment other values
  have strict : partsOf? "OMPRENDER_" "OMPRENDER_Render__STRICT" = some ["render", "strict"] := by
    decide +kernel
  have home : partsOf? "OMPRENDER_" "HOME" = none := by decide +kernel
  have marks : partsOf? "OMPRENDER_" "OMPRENDER_RENDER__MARKS" = some ["render", "marks"] := by
    decide +kernel
  have independent : Independent "OMPRENDER_" environment :=
    ⟨by simp [environment, home],
      by simp [environment, NamedApart, Table.Apart, strict, home, marks]⟩
  obtain ⟨alike, found, source⟩ := variables_may_come_in_any_order independent
  have reordered : other.Perm environment := by decide
  refine ⟨independent, alike other reordered, ?_, ?_⟩
  · exact found ("OMPRENDER_Render__STRICT", "true") (by simp [environment]) _ strict
  · have present : (values.get? ["render", "marks", "on"]).isSome = true := by decide +kernel
    obtain ⟨d, held⟩ := Option.isSome_iff_exists.mp present
    refine ⟨d, held, (source _ d (by simp) held).resolve_left ?_⟩
    simp [environment, MadeFor, strict, home, marks]

end Promptline.Settings
