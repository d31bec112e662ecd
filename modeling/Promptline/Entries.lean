/-!
# Entries

Ordered association lists. A name keeps the place where it was first entered; entering it again
replaces its value.
-/

namespace Promptline

/-- Values by name, in the order in which the names were first entered. -/
abbrev Entries (α : Type) := List (String × α)

namespace Entries

variable {α β : Type}

/-- The value entered under a name. -/
def get? (name : String) : Entries α → Option α
  | [] => none
  | (key, value) :: rest => if key = name then some value else get? name rest

/-- Whether a name has a value. -/
def has (name : String) (entries : Entries α) : Bool :=
  (get? name entries).isSome

/-- Enter a value, in place of the old one if the name has one and at the end otherwise. -/
def insert (name : String) (value : α) : Entries α → Entries α
  | [] => [(name, value)]
  | (key, old) :: rest =>
      if key = name then (key, value) :: rest else (key, old) :: insert name value rest

/-- Enter all of the later values over the earlier ones. -/
def overlay (earlier later : Entries α) : Entries α :=
  later.foldl (fun entries entry => insert entry.1 entry.2 entries) earlier

/-- Entries of a list of pairs in which a later value replaces an earlier one. -/
def ofPairs (pairs : List (String × α)) : Entries α :=
  overlay [] pairs

/-- Apply a function to every value. -/
def mapValues (f : α → β) (entries : Entries α) : Entries β :=
  entries.map fun entry => (entry.1, f entry.2)

/-- The names, in order. -/
def names (entries : Entries α) : List String :=
  entries.map (·.1)

@[simp]
theorem get?_insert_self (name : String) (value : α) (entries : Entries α) :
    get? name (insert name value entries) = some value := by
  induction entries with
  | nil => simp [insert, get?]
  | cons entry rest ih =>
      by_cases same : entry.1 = name <;> simp [insert, get?, same, ih]

theorem get?_insert_of_ne {name other : String} (value : α) (entries : Entries α)
    (differ : other ≠ name) : get? other (insert name value entries) = get? other entries := by
  induction entries with
  | nil => simp [insert, get?, Ne.symm differ]
  | cons entry rest ih =>
      by_cases same : entry.1 = name
      · simp [insert, get?, same, Ne.symm differ]
      · simp [insert, get?, same, ih]

theorem get?_eq_none_iff {name : String} {entries : Entries α} :
    get? name entries = none ↔ name ∉ names entries := by
  induction entries with
  | nil => simp [get?, names]
  | cons entry rest ih =>
      by_cases same : entry.1 = name
      · simp [get?, names, same]
      · simp only [get?, same, if_false, ih, names, List.map_cons, List.mem_cons]
        simp [Ne.symm same]

theorem mem_of_get? {name : String} {value : α} {entries : Entries α}
    (found : get? name entries = some value) : (name, value) ∈ entries := by
  induction entries with
  | nil => simp [get?] at found
  | cons entry rest ih =>
      obtain ⟨key, held⟩ := entry
      by_cases same : key = name
      · simp only [get?, same, if_true, Option.some.injEq] at found
        simp [same, found]
      · simp only [get?, same, if_false] at found
        exact List.mem_cons_of_mem _ (ih found)

/-- A new name is entered at the end. -/
theorem names_insert {name : String} (value : α) {entries : Entries α}
    (fresh : get? name entries = none) :
    names (insert name value entries) = names entries ++ [name] := by
  induction entries with
  | nil => rfl
  | cons entry rest ih =>
      by_cases same : entry.1 = name
      · simp [get?, same] at fresh
      · have later : get? name rest = none := by simpa [get?, same] using fresh
        simpa [insert, names, same] using ih later

theorem get?_mapValues (f : α → β) (name : String) (entries : Entries α) :
    get? name (mapValues f entries) = (get? name entries).map f := by
  induction entries with
  | nil => rfl
  | cons entry rest ih =>
      by_cases same : entry.1 = name
      · simp [mapValues, get?, same]
      · simpa [mapValues, get?, same] using ih

end Entries

end Promptline
