import Mathlib.Data.List.Forall2
import Promptline.Proofs.Text.Run
import Promptline.Proofs.Text.Split
import Promptline.Segment.Derived

/-!
# Directories and what is shown of them

An absolute directory is spelled by its folders, a slash before each of them.  Where the spelling
of one directory goes on to that of another, the folders of the first begin those of the second, so
cutting a path at the home directory is cutting its list of folders.
-/

namespace Promptline

namespace Location

/-! ## Spelling directories -/

/-- A name that a folder can have. -/
structure IsName (name : String) : Prop where
  ne_empty : name ≠ ""
  slash_not_mem : '/' ∉ name.toList

theorem IsName.toList_ne_nil {name : String} (valid : IsName name) : name.toList ≠ [] :=
  fun empty => valid.ne_empty (String.toList_eq_nil_iff.mp empty)

/-- The absolute path of a directory, without a slash at the end unless it is the root. -/
def absolute (folders : List String) : String :=
  "/" ++ String.intercalate "/" folders

/-- Folders with a slash before each. -/
def spell (folders : List String) : List Char :=
  folders.flatMap fun folder => '/' :: folder.toList

variable {folders home : List String} {cs ds rest : List Char}

theorem spell_cons (folder : String) (folders : List String) :
    spell (folder :: folders) = '/' :: (folder.toList ++ spell folders) := by
  rw [spell, List.flatMap_cons, List.cons_append]
  rfl

theorem spell_append (outer inner : List String) :
    spell (outer ++ inner) = spell outer ++ spell inner :=
  List.flatMap_append

theorem toList_intercalate_cons (head : String) (folders : List String) :
    (String.intercalate "/" (head :: folders)).toList = head.toList ++ spell folders := by
  induction folders generalizing head with
  | nil => simp [spell]
  | cons folder folders ih =>
      rw [String.intercalate_cons_cons, String.toList_append, ih, spell_cons]
      simp

theorem toList_absolute (nonempty : folders ≠ []) : (absolute folders).toList = spell folders := by
  cases folders with
  | nil => contradiction
  | cons folder folders =>
      rw [absolute, String.toList_append, toList_intercalate_cons, spell_cons]
      rfl

/-! ## Reading directories -/

/-- A text that does not go on with a name. -/
def EndsName (cs : List Char) : Prop :=
  cs = [] ∨ ∃ rest, cs = '/' :: rest

theorem endsName_spell (folders : List String) : EndsName (spell folders) := by
  cases folders with
  | nil => exact .inl rfl
  | cons folder folders => exact .inr ⟨_, spell_cons folder folders⟩

theorem EndsName.takeWhile (ends : EndsName cs) {name : String} (valid : IsName name) :
    (name.toList ++ cs).takeWhile (· != '/') = name.toList := by
  have inside : ∀ c ∈ name.toList, (c != '/') = true := fun c member =>
    bne_iff_ne.mpr fun same => valid.slash_not_mem (same ▸ member)
  rw [List.takeWhile_append_of_pos inside]
  obtain rfl | ⟨rest, rfl⟩ := ends <;> simp

/-- A name is told from what follows it. -/
theorem IsName.append_inj {name other : String} (valid : IsName name) (otherValid : IsName other)
    (ends : EndsName cs) (otherEnds : EndsName ds)
    (same : name.toList ++ cs = other.toList ++ ds) : name = other ∧ cs = ds := by
  have names := congrArg (List.takeWhile (· != '/')) same
  rw [ends.takeWhile valid, otherEnds.takeWhile otherValid] at names
  obtain rfl := String.toList_inj.mp names
  exact ⟨rfl, List.append_cancel_left same⟩

/-- Where the spelling of a directory goes on to that of another one, its folders begin those of
the other. -/
theorem spell_append_eq_iff (homeNames : ∀ name ∈ home, IsName name)
    (names : ∀ name ∈ folders, IsName name) (ends : EndsName cs) :
    spell home ++ cs = spell folders ↔ ∃ inner, folders = home ++ inner ∧ cs = spell inner := by
  constructor
  · intro same
    induction home generalizing folders with
    | nil => exact ⟨folders, rfl, same⟩
    | cons first home ih =>
        cases folders with
        | nil =>
            rw [spell_cons] at same
            cases same
        | cons folder folders =>
            obtain ⟨firstName, innerHome⟩ := List.forall_mem_cons.mp homeNames
            obtain ⟨folderName, innerNames⟩ := List.forall_mem_cons.mp names
            rw [spell_cons, spell_cons, List.cons_append, List.append_assoc,
              List.cons.injEq] at same
            have homeEnds : EndsName (spell home ++ cs) := by
              obtain empty | ⟨rest, split⟩ := endsName_spell home
              · rwa [empty, List.nil_append]
              · exact .inr ⟨rest ++ cs, by rw [split, List.cons_append]⟩
            obtain ⟨rfl, later⟩ :=
              firstName.append_inj folderName homeEnds (endsName_spell folders) same.2
            obtain ⟨inner, rfl, rest⟩ := ih innerHome innerNames later
            exact ⟨inner, rfl, rest⟩
  · rintro ⟨inner, rfl, rfl⟩
    exact (spell_append home inner).symm

theorem parts_slash (cs : List Char) : parts ('/' :: cs) = parts cs := by
  simp [parts, Text.splitOn]

theorem parts_append {name : String} (valid : IsName name) (ends : EndsName cs) :
    parts (name.toList ++ cs) = name :: parts cs := by
  obtain rfl | ⟨rest, rfl⟩ := ends
  · simp [parts, Text.splitOn_of_not_mem valid.slash_not_mem, Text.splitOn, valid.toList_ne_nil]
  · rw [parts_slash]
    simp [parts, Text.splitOn_append valid.slash_not_mem, valid.toList_ne_nil]

/-- The parts of a directory are its folders. -/
theorem parts_spell (names : ∀ name ∈ folders, IsName name) : parts (spell folders) = folders := by
  induction folders with
  | nil => rfl
  | cons folder folders ih =>
      obtain ⟨valid, names⟩ := List.forall_mem_cons.mp names
      rw [spell_cons, parts_slash, parts_append valid (endsName_spell folders), ih names]

theorem parts_absolute (names : ∀ name ∈ folders, IsName name) :
    parts (absolute folders).toList = folders := by
  cases folders with
  | nil => rfl
  | cons folder folders => rw [toList_absolute (List.cons_ne_nil _ _), parts_spell names]

/-! ## Cutting at the home directory -/

theorem below?_eq_some_iff : below? cs ds = some rest ↔ ds = cs ++ rest ∧ EndsName rest := by
  unfold below?
  constructor
  · intro found
    split at found
    · next whole =>
        cases found
        exact ⟨Text.eq_append_of_afterPrefix? whole, .inl rfl⟩
    · next tail inside =>
        cases found
        exact ⟨Text.eq_append_of_afterPrefix? inside, .inr ⟨tail, rfl⟩⟩
    · cases found
  · rintro ⟨rfl, rfl | ⟨tail, rfl⟩⟩
    · rw [Text.afterPrefix?_append]
    · simp

/-- The last letter of a spelling is no slash. -/
theorem getLast?_spell (names : ∀ name ∈ home, IsName name) :
    ∀ c ∈ (spell home).getLast?, (c == '/') = false := by
  intro c last
  obtain rfl | ⟨outer, name, rfl⟩ := home.eq_nil_or_concat'
  · cases last
  · have valid := names name (by simp)
    have split : spell (outer ++ [name]) = spell outer ++ ['/'] ++ name.toList := by
      rw [spell_append, spell_cons, List.append_assoc]
      simp [spell]
    rw [split, List.getLast?_append_of_ne_nil _ valid.toList_ne_nil] at last
    exact beq_eq_false_iff_ne.mpr fun same =>
      valid.slash_not_mem (same ▸ List.mem_of_getLast? last)

/-- A home directory without the slashes at its end is spelled by its folders. -/
theorem dropEndWhile_home (names : ∀ name ∈ home, IsName name) (slashes : Nat) :
    Text.dropEndWhile (· == '/')
      (absolute home ++ String.ofList (List.replicate slashes '/')).toList = spell home := by
  have all : ∀ c ∈ List.replicate slashes '/', (c == '/') = true := fun c member =>
    beq_iff_eq.mpr (List.eq_of_mem_replicate member)
  rw [String.toList_append, String.toList_ofList]
  cases home with
  | nil => exact Text.dropEndWhile_of_forall (List.forall_mem_cons.mpr ⟨rfl, all⟩)
  | cons name home =>
      rw [toList_absolute (List.cons_ne_nil _ _), Text.dropEndWhile_append (getLast?_spell names),
        Text.dropEndWhile_of_forall all, List.append_nil]

/-- What is shown of a directory, given by its folders and those of the home directory. -/
def ofFolders (folders home : List String) (homeIcon : String) : Location :=
  if home ≠ [] ∧ home <+: folders then ⟨homeIcon, folders.drop home.length⟩ else ⟨"/", folders⟩

/-- A path leads into a home directory below the root if its folders begin with those of the
home directory. -/
theorem below?_absolute (names : ∀ name ∈ folders, IsName name)
    (homeNames : ∀ name ∈ home, IsName name) (nonempty : home ≠ []) :
    below? (spell home) (absolute folders).toList = some rest ↔
      ∃ inner, folders = home ++ inner ∧ rest = spell inner := by
  rw [below?_eq_some_iff]
  cases folders with
  | nil =>
      -- The root has a slash that its folders do not spell.
      constructor
      · rintro ⟨root, -⟩
        obtain ⟨name, outer, rfl⟩ := List.exists_cons_of_ne_nil nonempty
        rw [spell_cons, List.cons_append] at root
        have empty := (List.append_eq_nil_iff.mp (List.cons.inj root).2.symm).1
        exact absurd (List.append_eq_nil_iff.mp empty).1 (homeNames name (by simp)).toList_ne_nil
      · rintro ⟨inner, empty, -⟩
        exact absurd (List.append_eq_nil_iff.mp empty.symm).1 nonempty
  | cons folder folders =>
      rw [toList_absolute (List.cons_ne_nil _ _)]
      constructor
      · rintro ⟨split, ends⟩
        exact (spell_append_eq_iff homeNames names ends).mp split.symm
      · rintro ⟨inner, split, rfl⟩
        have ends := endsName_spell inner
        exact ⟨((spell_append_eq_iff homeNames names ends).mpr ⟨inner, split, rfl⟩).symm, ends⟩

theorem head?_absolute (folders : List String) : (absolute folders).toList.head? = some '/' := by
  rw [absolute, String.toList_append]
  rfl

/-- Cutting a path at the home directory is cutting the list of its folders. -/
theorem ofPath_absolute (names : ∀ name ∈ folders, IsName name)
    (homeNames : ∀ name ∈ home, IsName name) (slashes : Nat) (homeIcon : String) :
    ofPath (absolute folders) (absolute home ++ String.ofList (List.replicate slashes '/'))
      homeIcon = ofFolders folders home homeIcon := by
  have outside : (⟨if (absolute folders).toList.head? = some '/' then "/" else "",
      parts (absolute folders).toList⟩ : Location) = ⟨"/", folders⟩ := by
    rw [if_pos (head?_absolute folders), parts_absolute names]
  simp only [ofPath, dropEndWhile_home homeNames, outside, ofFolders]
  by_cases root : home = []
  · have outsideHome : ¬ (home ≠ [] ∧ home <+: folders) := fun both => both.1 root
    rw [if_neg outsideHome, root]
    rfl
  · have visible : ¬ (spell home).isEmpty = true := by
      obtain ⟨name, outer, rfl⟩ := List.exists_cons_of_ne_nil root
      rw [spell_cons]
      exact Bool.false_ne_true
    rw [if_neg visible]
    by_cases below : home <+: folders
    · obtain ⟨inner, rfl⟩ := below
      have found := (below?_absolute names homeNames root).mpr ⟨inner, rfl, rfl⟩
      rw [found, if_pos ⟨root, List.prefix_append home inner⟩, List.drop_left]
      dsimp only
      rw [parts_spell fun name member => names name (List.mem_append_right _ member)]
    · have missing : below? (spell home) (absolute folders).toList = none := by
        refine Option.eq_none_iff_forall_ne_some.mpr fun rest found => below ?_
        obtain ⟨inner, rfl, -⟩ := (below?_absolute names homeNames root).mp found
        exact List.prefix_append home inner
      rw [missing, if_neg fun both => below both.2]

/-! ## The styles -/

/-- Folders that stand for others: the last one is the same, and each earlier one is the beginning
of the one that it stands for. -/
structure Abbreviates (letters folders : List String) : Prop where
  length_eq : letters.length = folders.length
  getLast?_eq : letters.getLast? = folders.getLast?
  earlier : List.Forall₂ (fun letter folder => letter ≠ "" ∧ letter.toList <+: folder.toList)
    letters.dropLast folders.dropLast

theorem abbreviate_ne_empty {folder : String} (visible : folder ≠ "") : abbreviate folder ≠ "" := by
  unfold abbreviate
  split
  · simp
  · simpa using visible

theorem abbreviate_prefix (folder : String) : (abbreviate folder).toList <+: folder.toList := by
  unfold abbreviate
  split
  · next rest split =>
      rw [split, String.toList_ofList]
      exact List.cons_prefix_cons.mpr ⟨rfl, List.take_prefix 1 rest⟩
  · rw [String.toList_ofList]
    exact List.take_prefix 1 folder.toList

theorem abbreviates_shortened {location : Location}
    (visible : ∀ folder ∈ location.folders, folder ≠ "") :
    Abbreviates location.shortened.folders location.folders := by
  obtain ⟨head, folders⟩ := location
  obtain rfl | ⟨outer, last, rfl⟩ := folders.eq_nil_or_concat'
  · exact ⟨rfl, rfl, .nil⟩
  · have letters :
        (shortened ⟨head, outer ++ [last]⟩).folders = outer.map abbreviate ++ [last] := by
      simp [shortened]
    rw [letters]
    refine ⟨by simp, by simp, ?_⟩
    rw [List.dropLast_concat, List.dropLast_concat, List.forall₂_map_left_iff, List.forall₂_same]
    intro folder member
    have nonempty := visible folder (List.mem_append_left _ member)
    exact ⟨abbreviate_ne_empty nonempty, abbreviate_prefix folder⟩

theorem ne_empty_of_mem_parts {path : List Char} {part : String} (member : part ∈ parts path) :
    part ≠ "" := by
  obtain ⟨cs, kept, rfl⟩ := List.mem_map.mp member
  simpa using (List.mem_filter.mp kept).2

theorem ne_empty_of_mem_ofPath {path home homeIcon folder : String}
    (member : folder ∈ (ofPath path home homeIcon).folders) : folder ≠ "" := by
  unfold ofPath at member
  dsimp only at member
  generalize (if (Text.dropEndWhile (· == '/') home.toList).isEmpty = true then none
    else below? (Text.dropEndWhile (· == '/') home.toList) path.toList) = cut at member
  cases cut with
  | none => exact ne_empty_of_mem_parts member
  | some rest => exact ne_empty_of_mem_parts member

end Location

/-! ## The shown path -/

/-- The current and the home directory of a context, given by their folders.  The home directory
may have slashes at its end. -/
structure Context.Situated (context : Context) (folders home : List String) : Prop where
  currentDir_eq : context.folders.currentDir = Location.absolute folders
  homeDir_eq : ∃ slashes, context.folders.homeDir =
    Location.absolute home ++ String.ofList (List.replicate slashes '/')
  isName : ∀ name ∈ folders, Location.IsName name
  isName_home : ∀ name ∈ home, Location.IsName name

namespace Derived

/-- What is shown of the current directory. -/
def location (context : Context) (homeIcon : String) : Location :=
  Location.ofPath context.folders.currentDir context.folders.homeDir homeIcon

/-- The path that a directory segment publishes. -/
def path? (context : Context) (display : PathDisplay) : Option Value :=
  Entries.get? "Path" (path context display)

/-- A text is the home icon followed by what leads from the home directory, without the slashes at
its end, to the current directory. -/
def LeadsFromHome (context : Context) (homeIcon shown : String) : Prop :=
  ∃ rest, shown = homeIcon ++ rest ∧
    String.ofList (Text.dropEndWhile (· == '/') context.folders.homeDir.toList) ++ rest =
      context.folders.currentDir

variable {context other : Context} {folders home : List String} {homeIcon : String}

theorem path?_eq (context : Context) (display : PathDisplay) :
    path? context display = some (.string ((location context display.homeIcon).display display)) :=
  rfl

theorem location_eq (situated : context.Situated folders home) (homeIcon : String) :
    location context homeIcon = Location.ofFolders folders home homeIcon := by
  obtain ⟨slashes, homeDir⟩ := situated.homeDir_eq
  rw [location, situated.currentDir_eq, homeDir,
    Location.ofPath_absolute situated.isName situated.isName_home]

theorem join_of_below (situated : context.Situated folders home) (nonempty : home ≠ [])
    (below : home <+: folders) (visible : homeIcon ≠ "")
    (relative : homeIcon.toList.head? ≠ some '/') :
    LeadsFromHome context homeIcon ((location context homeIcon).join "/") := by
  obtain ⟨slashes, homeDir⟩ := situated.homeDir_eq
  have notRoot : homeIcon ≠ "/" := by
    rintro rfl
    exact relative rfl
  obtain ⟨inner, rfl⟩ := below
  refine ⟨String.ofList (Location.spell inner), ?_, ?_⟩
  · rw [location_eq situated, Location.ofFolders, if_pos ⟨nonempty, List.prefix_append home inner⟩,
      List.drop_left, Location.join, if_neg notRoot, if_neg visible, ← String.toList_inj,
      Location.toList_intercalate_cons, String.toList_append, String.toList_ofList]
  · have outside : home ++ inner ≠ [] := fun empty => nonempty (List.append_eq_nil_iff.mp empty).1
    rw [homeDir, Location.dropEndWhile_home situated.isName_home, situated.currentDir_eq,
      ← String.toList_inj, String.toList_append, String.toList_ofList, String.toList_ofList,
      Location.toList_absolute outside, Location.spell_append]

theorem join_of_not_below (situated : context.Situated folders home)
    (outside : ¬ (home ≠ [] ∧ home <+: folders)) (homeIcon : String) :
    (location context homeIcon).join "/" = context.folders.currentDir := by
  rw [location_eq situated, Location.ofFolders, if_neg outside, Location.join, if_pos rfl,
    situated.currentDir_eq, Location.absolute]

/-- A directory does not begin with the home icon. -/
theorem not_leadsFromHome_currentDir (situated : context.Situated folders home)
    (visible : homeIcon ≠ "") (relative : homeIcon.toList.head? ≠ some '/') (other : Context) :
    ¬ LeadsFromHome other homeIcon context.folders.currentDir := by
  rintro ⟨rest, split, -⟩
  have root := Location.head?_absolute folders
  rw [← situated.currentDir_eq, split, String.toList_append,
    List.head?_append_of_ne_nil _ fun empty => visible (String.toList_eq_nil_iff.mp empty)] at root
  exact relative root

theorem leadsFromHome_iff (situated : context.Situated folders home) (visible : homeIcon ≠ "")
    (relative : homeIcon.toList.head? ≠ some '/') :
    LeadsFromHome context homeIcon ((location context homeIcon).join "/") ↔
      home ≠ [] ∧ home <+: folders := by
  refine ⟨fun leads => ?_, fun below => join_of_below situated below.1 below.2 visible relative⟩
  refine Decidable.byContradiction fun outside => ?_
  rw [join_of_not_below situated outside] at leads
  exact not_leadsFromHome_currentDir situated visible relative context leads

theorem currentDir_eq_or_leadsFromHome (situated : context.Situated folders home)
    (visible : homeIcon ≠ "") (relative : homeIcon.toList.head? ≠ some '/') :
    (location context homeIcon).join "/" = context.folders.currentDir ∨
      LeadsFromHome context homeIcon ((location context homeIcon).join "/") := by
  by_cases below : home ≠ [] ∧ home <+: folders
  · exact .inr (join_of_below situated below.1 below.2 visible relative)
  · exact .inl (join_of_not_below situated below homeIcon)

/-- Directories that are shown alike are the same. -/
theorem currentDir_congr {others : List String} (situated : context.Situated folders home)
    (otherSituated : other.Situated others home) (visible : homeIcon ≠ "")
    (relative : homeIcon.toList.head? ≠ some '/')
    (same : (location other homeIcon).join "/" = (location context homeIcon).join "/") :
    other.folders.currentDir = context.folders.currentDir := by
  have here := currentDir_eq_or_leadsFromHome situated visible relative
  have there := currentDir_eq_or_leadsFromHome otherSituated visible relative
  obtain ⟨slashes, homeDir⟩ := situated.homeDir_eq
  obtain ⟨otherSlashes, otherHomeDir⟩ := otherSituated.homeDir_eq
  rw [same] at there
  obtain plain | ⟨rest, split, whole⟩ := here <;>
    obtain otherPlain | ⟨otherRest, otherSplit, otherWhole⟩ := there
  · exact otherPlain.symm.trans plain
  · rw [plain] at otherSplit
    exact absurd ⟨otherRest, otherSplit, otherWhole⟩
      (not_leadsFromHome_currentDir situated visible relative other)
  · rw [otherPlain] at split
    exact absurd ⟨rest, split, whole⟩
      (not_leadsFromHome_currentDir otherSituated visible relative context)
  · have rests : otherRest = rest := by
      have texts := congrArg String.toList (otherSplit.symm.trans split)
      rw [String.toList_append, String.toList_append] at texts
      exact String.toList_inj.mp (List.append_cancel_left texts)
    rw [← whole, ← otherWhole, homeDir, otherHomeDir, rests,
      Location.dropEndWhile_home situated.isName_home,
      Location.dropEndWhile_home situated.isName_home]

/-- The path shown in full is the current directory or leads to it from the home directory, and
tells which directory it is.  The other styles shorten the folders of the full one or leave them
out. -/
theorem shown_path_determines_directory (context : Context) (homeIcon : String) :
    (∀ ⦃folders home : List String⦄, context.Situated folders home → homeIcon ≠ "" →
      homeIcon.toList.head? ≠ some '/' →
      (∃ full, path? context ⟨.full, homeIcon, "/"⟩ = some (.string full) ∧
        (full = context.folders.currentDir ∨ LeadsFromHome context homeIcon full) ∧
        (LeadsFromHome context homeIcon full ↔ home ≠ [] ∧ home <+: folders)) ∧
      (∀ ⦃other : Context⦄ ⦃others : List String⦄, other.Situated others home →
        path? other ⟨.full, homeIcon, "/"⟩ = path? context ⟨.full, homeIcon, "/"⟩ →
        other.folders.currentDir = context.folders.currentDir) ∧
      location context homeIcon = Location.ofFolders folders home homeIcon) ∧
    ∃ letters, Location.Abbreviates letters (location context homeIcon).folders ∧ ∀ separator,
      path? context ⟨.full, homeIcon, separator⟩ =
        some (.string ((location context homeIcon).join separator)) ∧
      path? context ⟨.letter, homeIcon, separator⟩ =
        some (.string (Location.join separator ⟨(location context homeIcon).head, letters⟩)) ∧
      path? context ⟨.folder, homeIcon, separator⟩ =
        some (.string ((location context homeIcon).folders.getLast?.getD
          (location context homeIcon).head)) := by
  constructor
  · intro folders home situated visible relative
    refine ⟨⟨_, path?_eq _ _, ?_, ?_⟩, ?_, location_eq situated homeIcon⟩
    · exact currentDir_eq_or_leadsFromHome situated visible relative
    · exact leadsFromHome_iff situated visible relative
    · intro other others otherSituated same
      rw [path?_eq, path?_eq] at same
      exact currentDir_congr situated otherSituated visible relative
        (Value.string.inj (Option.some.inj same))
  · refine ⟨(location context homeIcon).shortened.folders, ?_, fun separator => ⟨rfl, rfl, rfl⟩⟩
    exact Location.abbreviates_shortened fun folder => Location.ne_empty_of_mem_ofPath

theorem projects_are_shown_below_home :
    let context := { Context.sample ⟨2024, 3, 9, 14, 5, 7, 0, none, false⟩ with
      folders := { currentDir := "/home/user/projects", homeDir := "/home/user//" } }
    context.Situated ["home", "user", "projects"] ["home", "user"] ∧
      "~" ≠ "" ∧ "~".toList.head? ≠ some '/' ∧
      ∃ full, path? context ⟨.full, "~", "/"⟩ = some (.string full) ∧
        LeadsFromHome context "~" full := by
  intro context
  have isName : ∀ name ∈ ["home", "user", "projects"], Location.IsName name := by
    intro name member
    simp only [List.mem_cons, List.not_mem_nil, or_false] at member
    obtain rfl | rfl | rfl := member <;> exact ⟨by decide, by decide⟩
  have situated : context.Situated ["home", "user", "projects"] ["home", "user"] :=
    ⟨by decide, ⟨2, by decide⟩, isName, fun name member =>
      isName name (List.mem_append_left ["projects"] member)⟩
  have visible : "~" ≠ "" := by decide
  have relative : "~".toList.head? ≠ some '/' := by decide
  obtain ⟨⟨full, shown, -, leads⟩, -, -⟩ :=
    (shown_path_determines_directory context "~").1 situated visible relative
  exact ⟨situated, visible, relative, full, shown, leads.mpr (by decide)⟩

end Derived

end Promptline
