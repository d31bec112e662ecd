import Promptline.Proofs.Settings.Order

/-!
# Levels of environment variables

A variable alone stores its value in nested tables, one for each part of its name: the parts that
double underscores separate, in lower case.  Only a point in a part leads further down, since a
dotted part names a path of its own.
-/

namespace Promptline

namespace Document

/-- A value in nested tables, of which each has one key of a path. -/
def nested (value : Document) (path : List String) : Document :=
  path.foldr (fun key inner => table [(key, inner)]) value

theorem nested_cons (value : Document) (key : String) (path : List String) :
    nested value (key :: path) = table [(key, nested value path)] := rfl

theorem sizeOf_le_nested (value : Document) (path : List String) :
    sizeOf value ≤ sizeOf (nested value path) := by
  induction path with
  | nil => exact Nat.le_refl _
  | cons key path ih =>
      rw [nested_cons]
      simp
      omega

/-- The path to a value can be read off the tables around it. -/
theorem nested_inj {value : Document} {path other : List String} :
    nested value path = nested value other ↔ path = other := by
  refine ⟨fun same => ?_, congrArg (nested value)⟩
  have apart (key : String) (path : List String) : value ≠ nested value (key :: path) := by
    intro same
    have size := congrArg sizeOf same
    have inner := sizeOf_le_nested value path
    rw [nested_cons] at size
    simp at size
    omega
  induction path generalizing other with
  | nil =>
      cases other with
      | nil => rfl
      | cons key other => exact absurd same (apart key other)
  | cons key path ih =>
      cases other with
      | nil => exact absurd same.symm (apart key path)
      | cons name other =>
          rw [nested_cons, nested_cons] at same
          simp at same
          rw [same.1, ih same.2]

end Document

namespace Table

/-- A value that is stored in an empty table has nothing beside it. -/
theorem set_nil_eq_nested (value : Document) {path : List String} (nonempty : path ≠ []) :
    Document.table (set value path []) = Document.nested value path := by
  induction path with
  | nil => exact absurd rfl nonempty
  | cons key path ih =>
      cases path with
      | nil => rfl
      | cons next path =>
          have further : next :: path ≠ [] := List.cons_ne_nil next path
          rw [set_cons value [] key further, Document.nested_cons, ← ih further]
          rfl

end Table

namespace Settings

/-- The keys that names in lower case stand for: each is cut at its points. -/
def keysOf (names : List String) : List String :=
  names.flatMap (Text.split '.')

theorem keysOf_cons (name : String) (names : List String) :
    keysOf (name :: names) = Text.split '.' name ++ keysOf names := List.flatMap_cons

theorem keysOf_ne_nil {names : List String} (nonempty : names ≠ []) : keysOf names ≠ [] := by
  obtain ⟨name, names, rfl⟩ := List.exists_cons_of_ne_nil nonempty
  rw [keysOf_cons]
  exact List.append_ne_nil_of_left_ne_nil (Text.split_ne_nil '.' name) _

theorem length_le_keysOf (names : List String) : names.length ≤ (keysOf names).length := by
  induction names with
  | nil => exact Nat.le_refl 0
  | cons name names ih =>
      have positive := List.length_pos_iff.mpr (Text.split_ne_nil '.' name)
      rw [keysOf_cons, List.length_append, List.length_cons]
      omega

/-- Names are keys as they are just if they have no points. -/
theorem keysOf_eq_self_iff (names : List String) :
    keysOf names = names ↔ ∀ name ∈ names, '.' ∉ name.toList := by
  induction names with
  | nil => simp [keysOf]
  | cons name names ih =>
      rw [keysOf_cons, List.forall_mem_cons]
      by_cases dotted : '.' ∈ name.toList
      · -- A name with a point stands for several keys, and each of the others for one at least.
        have several : 2 ≤ (Text.split '.' name).length := by
          rw [Text.split, List.length_map]
          exact Text.two_le_length_splitOn dotted
        have others := length_le_keysOf names
        refine ⟨fun same => ?_, fun plain => absurd dotted plain.1⟩
        have length := congrArg List.length same
        rw [List.length_append, List.length_cons] at length
        omega
      · have whole : Text.split '.' name = [name] := by
          rw [Text.split, Text.splitOn_of_not_mem dotted, List.map_singleton, String.ofList_toList]
        rw [whole, List.singleton_append, List.cons_inj_right, ih]
        exact ⟨fun plain => ⟨dotted, plain⟩, And.right⟩

/-- The path of a variable whose name has several parts. -/
theorem pathOf?_of_parts {lead key : String} {parts : List String} (several : 2 ≤ parts.length)
    (parted : Text.splitText separator key.toList = parts.map String.toList) :
    pathOf? lead (lead ++ key) = some (keysOf (parts.map Text.lower)) := by
  have separated : Text.occursIn separator key.toList = true := by
    rw [← Bool.not_eq_false]
    intro absent
    have length := congrArg List.length (parted.symm.trans (Text.splitText_of_not_occursIn absent))
    rw [List.length_map, List.length_singleton] at length
    omega
  have lowered : Text.splitText separator (Text.lower (String.ofList key.toList)).toList =
      (parts.map Text.lower).map String.toList := by
    rw [Text.lower, String.toList_ofList, String.toList_ofList, separator, Text.splitText_lower,
      ← separator, parted]
    simp [Text.lower]
  rw [pathOf?, String.toList_append, Text.afterPrefix?_append]
  simp only [separated, if_true, lowered, keysOf, List.flatMap_map]
  rfl

/-- A variable whose name has several parts, and no other variable, gives nested tables with its
value inside.  Their keys are the parts in lower case, each cut at its points; so they are just the
parts in lower case if and only if no part has a point. -/
theorem variable_nests_by_parts {lead raw : String} {parts : List String}
    (several : 2 ≤ parts.length)
    (parted : Text.splitText separator ("__".intercalate parts).toList =
      parts.map String.toList) :
    let values := Document.table (ofVariables lead [(lead ++ "__".intercalate parts, raw)])
    values = .nested (valueOf raw) (keysOf (parts.map Text.lower)) ∧
      (values = .nested (valueOf raw) (parts.map Text.lower) ↔
        ∀ part ∈ parts, '.' ∉ part.toList) := by
  intro values
  have filled : parts.map Text.lower ≠ [] := by
    rintro empty
    rw [List.map_eq_nil_iff.mp empty] at several
    cases several
  have stored : values = .nested (valueOf raw) (keysOf (parts.map Text.lower)) := by
    rw [← Table.set_nil_eq_nested _ (keysOf_ne_nil filled)]
    simp only [values, ofVariables, List.foldl_cons, List.foldl_nil,
      pathOf?_of_parts several parted]
  refine ⟨stored, ?_⟩
  rw [stored, Document.nested_inj, keysOf_eq_self_iff, List.forall_mem_map]
  exact forall₂_congr fun part _ => not_congr (Text.point_mem_lower_iff part)

/-- A capital sigma at the end of a part is at the end of a word; an underscore before a part, and
an empty part, are parts of the name. -/
theorem awkward_parts_are_levels :
    let parts := ["ΟΔΟΣ", "_Level", ""]
    let values := Document.table (ofVariables "OMPRENDER_" [("OMPRENDER_ΟΔΟΣ___Level__", "1")])
    2 ≤ parts.length ∧
      Text.splitText separator ("__".intercalate parts).toList = parts.map String.toList ∧
      values = .nested (.bool true) ["οδος", "_level", ""] := by
  intro parts values
  have parted : Text.splitText separator ("__".intercalate parts).toList =
      parts.map String.toList := by decide +kernel
  have lowered : parts.map Text.lower = ["οδος", "_level", ""] := by decide +kernel
  have plain : ∀ part ∈ parts, '.' ∉ part.toList := by decide
  have nests := @variable_nests_by_parts "OMPRENDER_" "1" parts (by decide) parted
  have stored := nests.2.mpr plain
  rw [lowered] at stored
  exact ⟨by decide, parted, stored⟩

theorem names_do_not_nest_by_underscores_only :
    ¬ ∀ (lead raw : String) (parts : List String), 2 ≤ parts.length →
      Text.splitText separator ("__".intercalate parts).toList = parts.map String.toList →
      Document.table (ofVariables lead [(lead ++ "__".intercalate parts, raw)]) =
        .nested (valueOf raw) (parts.map Text.lower) := by
  intro always
  have same := always "OMPRENDER_" "1" ["A.B", "C"] (by decide) (by decide +kernel)
  have stored : ofVariables "OMPRENDER_" [("OMPRENDER_" ++ "__".intercalate ["A.B", "C"], "1")] =
      Table.set (.bool true) ["a", "b", "c"] [] := by rfl
  have lowered : ["A.B", "C"].map Text.lower = ["a.b", "c"] := by decide +kernel
  rw [stored, Table.set_nil_eq_nested _ (List.cons_ne_nil _ _), lowered] at same
  have paths : ["a", "b", "c"] = ["a.b", "c"] := Document.nested_inj.mp same
  exact absurd paths (by decide)

end Settings

end Promptline
