import Promptline.Entries

/-!
# Entries laid over one another

Entering a value keeps the names that are there in their order, so entries that extend others
replace all of them.
-/

namespace Promptline

namespace Entries

variable {α : Type}

theorem names_insert_of_mem {name : String} (value : α) {entries : Entries α}
    (known : name ∈ names entries) : names (insert name value entries) = names entries := by
  induction entries with
  | nil => contradiction
  | cons entry rest ih =>
      by_cases same : entry.1 = name
      · simp [insert, names, same]
      · have later : name ∈ names rest := by
          simpa [names, Ne.symm same] using known
        simpa [insert, names, same] using ih later

theorem insert_of_fresh {name : String} (value : α) {entries : Entries α}
    (fresh : get? name entries = none) :
    insert name value entries = entries ++ [(name, value)] := by
  induction entries with
  | nil => rfl
  | cons entry rest ih =>
      by_cases same : entry.1 = name
      · simp [get?, same] at fresh
      · have later : get? name rest = none := by simpa [get?, same] using fresh
        rw [insert, if_neg same, ih later, List.cons_append]

theorem nodup_names_insert (name : String) (value : α) {entries : Entries α}
    (nodup : (names entries).Nodup) : (names (insert name value entries)).Nodup := by
  by_cases known : name ∈ names entries
  · rwa [names_insert_of_mem value known]
  · rw [names_insert value (get?_eq_none_iff.mpr known), List.nodup_append]
    refine ⟨nodup, by simp, fun key member other single same => ?_⟩
    rw [List.mem_singleton.mp single] at same
    exact known (same ▸ member)

theorem get?_append (name : String) (first second : Entries α) :
    get? name (first ++ second) = (get? name first).or (get? name second) := by
  induction first with
  | nil => rfl
  | cons entry rest ih =>
      by_cases same : entry.1 = name <;> simp [get?, same, ih]

/-- Entering a value that is there already changes nothing. -/
theorem insert_of_get? {name : String} {value : α} {entries : Entries α}
    (held : get? name entries = some value) : insert name value entries = entries := by
  induction entries with
  | nil => cases held
  | cons entry rest ih =>
      obtain ⟨key, old⟩ := entry
      by_cases same : key = name
      · rw [get?, if_pos same] at held
        rw [insert, if_pos same, Option.some.inj held]
      · rw [get?, if_neg same] at held
        rw [insert, if_neg same, ih held]

/-- A value that is entered twice is the second one. -/
theorem insert_insert (name : String) (second first : α) (entries : Entries α) :
    insert name second (insert name first entries) = insert name second entries := by
  induction entries with
  | nil => simp [insert]
  | cons entry rest ih =>
      by_cases same : entry.1 = name
      · simp [insert, same]
      · rw [insert, if_neg same, insert, if_neg same, ih, insert, if_neg same]

/-- Where names occur once, every entry is found under its name. -/
theorem get?_of_mem {name : String} {value : α} {entries : Entries α}
    (nodup : (names entries).Nodup) (member : (name, value) ∈ entries) :
    get? name entries = some value := by
  induction entries with
  | nil => cases member
  | cons entry rest ih =>
      obtain ⟨fresh, nodup⟩ := List.nodup_cons.mp nodup
      obtain rfl | later := List.mem_cons.mp member
      · exact if_pos rfl
      · have differ : entry.1 ≠ name := by
          rintro rfl
          exact fresh (List.mem_map.mpr ⟨_, later, rfl⟩)
        rw [get?, if_neg differ, ih nodup later]

/-- Entries whose names are kept are found as before, and the others are not found. -/
theorem get?_filter (keep : String → Bool) (name : String) (entries : Entries α) :
    get? name (entries.filter fun entry => keep entry.1) =
      if keep name = true then get? name entries else none := by
  induction entries with
  | nil => simp [get?]
  | cons entry rest ih =>
      obtain ⟨key, value⟩ := entry
      by_cases same : key = name
      · subst same
        by_cases kept : keep key = true <;> simp [get?, kept, ih]
      · by_cases kept : keep key = true <;> simp [get?, kept, same, ih]

/-- Entries that begin with the names of others, and name nothing twice. -/
structure Extends (base entries : Entries α) : Prop where
  begins : names base <+: names entries
  nodup : (names entries).Nodup

theorem Extends.insert {base entries : Entries α} (grown : Extends base entries) (name : String)
    (value : α) : Extends base (insert name value entries) := by
  refine ⟨?_, nodup_names_insert name value grown.nodup⟩
  by_cases known : name ∈ names entries
  · rw [names_insert_of_mem value known]
    exact grown.begins
  · rw [names_insert value (get?_eq_none_iff.mpr known)]
    exact grown.begins.trans (List.prefix_append _ _)

theorem Extends.overlay {base entries : Entries α} (grown : Extends base entries)
    (later : Entries α) : Extends base (overlay entries later) := by
  induction later generalizing entries with
  | nil => exact grown
  | cons entry later ih => exact ih (grown.insert entry.1 entry.2)

theorem overlay_cons_of_not_mem {name : String} (value : α) (entries : Entries α)
    {later : Entries α} (absent : name ∉ names later) :
    Entries.overlay ((name, value) :: entries) later =
      (name, value) :: Entries.overlay entries later := by
  induction later generalizing entries with
  | nil => rfl
  | cons entry later ih =>
      have apart : name ≠ entry.1 ∧ name ∉ names later := by simpa [names] using absent
      have skip : Entries.insert entry.1 entry.2 ((name, value) :: entries) =
          (name, value) :: Entries.insert entry.1 entry.2 entries := by
        rw [Entries.insert, if_neg apart.1]
      exact (congrArg (Entries.overlay · later) skip).trans (ih _ apart.2)

/-- Entries replace all of those that they extend, in the same order. -/
theorem Extends.overlay_eq {base entries : Entries α} (grown : Extends base entries) :
    Entries.overlay base entries = entries := by
  induction entries generalizing base with
  | nil =>
      have empty : base = [] := by simpa [names] using grown.begins
      rw [empty]
      rfl
  | cons entry rest ih =>
      obtain ⟨name, value⟩ := entry
      have fresh : name ∉ names rest ∧ (names rest).Nodup := by simpa [names] using grown.nodup
      have follow {below : Entries α} (begins : names below <+: names rest) :
          Entries.overlay ((name, value) :: below) rest = (name, value) :: rest := by
        rw [overlay_cons_of_not_mem value below fresh.1, ih ⟨begins, fresh.2⟩]
      cases base with
      | nil => exact follow List.nil_prefix
      | cons first below =>
          obtain ⟨same, begins⟩ : first.1 = name ∧ names below <+: names rest :=
            List.cons_prefix_cons.mp grown.begins
          have replaced : Entries.insert name value (first :: below) = (name, value) :: below := by
            rw [Entries.insert, if_pos same, same]
          exact (congrArg (Entries.overlay · rest) replaced).trans (follow begins)

end Entries

end Promptline
