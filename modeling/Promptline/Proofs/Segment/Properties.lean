import Promptline.Proofs.Segment.Declarations

/-!
# Settings checked key by key

A setting that is refused is dropped and the others are checked again.  What a setting stands for
depends on its own value alone, so the second check finds nothing wrong: it leaves every good
setting as it is and gives every refused one its default.
-/

namespace Promptline

namespace Declaration

variable {declared : Declaration} {declarations : List Declaration} {entries : Entries Document}

/-- What is said about the setting if it is refused. -/
def message? (declared : Declaration) (entries : Entries Document) : Option String :=
  (declared.read entries).problems.head?.map fun problem =>
    declared.key ++ ": " ++ problem.message

theorem message?_eq_none_iff :
    declared.message? entries = none ↔ (declared.read entries).problems = [] := by
  rw [message?, Option.map_eq_none_iff, List.head?_eq_none_iff]

/-- The messages about settings, under their keys. -/
def messages (declarations : List Declaration) (entries : Entries Document) : Entries String :=
  declarations.filterMap fun declared =>
    (declared.message? entries).map fun message => (declared.key, message)

theorem messages_cons :
    messages (declared :: declarations) entries =
      ((declared.message? entries).map fun message => (declared.key, message)).toList ++
        messages declarations entries := by
  rw [messages, List.filterMap_cons]
  cases declared.message? entries <;> rfl

theorem get?_messages_of_not_mem {key : String} (unknown : key ∉ declarations.map (·.key)) :
    Entries.get? key (messages declarations entries) = none := by
  rw [Entries.get?_eq_none_iff]
  intro member
  obtain ⟨entry, inside, rfl⟩ := List.mem_map.mp member
  obtain ⟨declared, known, made⟩ := List.mem_filterMap.mp inside
  obtain ⟨message, -, rfl⟩ := Option.map_eq_some_iff.mp made
  exact unknown (List.mem_map.mpr ⟨declared, known, rfl⟩)

/-- Under the key of a setting there is the message about it, if there is one. -/
theorem get?_messages (nodup : (declarations.map (·.key)).Nodup)
    (member : declared ∈ declarations) :
    Entries.get? declared.key (messages declarations entries) = declared.message? entries := by
  induction declarations with
  | nil => cases member
  | cons first declarations ih =>
      obtain ⟨fresh, nodup⟩ := List.nodup_cons.mp nodup
      rw [messages_cons, Entries.get?_append]
      obtain rfl | member := List.mem_cons.mp member
      · rw [get?_messages_of_not_mem fresh]
        cases declared.message? entries <;> simp [Entries.get?]
      · rw [ih nodup member]
        cases first.message? entries <;> simp [Entries.get?, key_ne_of_fresh fresh member]

theorem names_messages :
    Entries.names (messages declarations entries) =
      (declarations.filter fun declared => (declared.message? entries).isSome).map (·.key) := by
  induction declarations with
  | nil => rfl
  | cons declared declarations ih =>
      rw [messages_cons, Entries.names, List.map_append]
      rw [Entries.names] at ih
      rw [ih, List.filter_cons]
      cases declared.message? entries <;> rfl

/-- Messages stand in the order of the settings. -/
theorem names_messages_eq_filter (nodup : (declarations.map (·.key)).Nodup) :
    Entries.names (messages declarations entries) =
      (declarations.map (·.key)).filter fun key =>
        Entries.has key (messages declarations entries) := by
  rw [names_messages, List.filter_map]
  refine congrArg _ (List.filter_congr fun declared member => ?_)
  rw [Function.comp_apply, Entries.has, get?_messages nodup member]

end Declaration

namespace PropertyKind

theorem nodup_keys (kind : PropertyKind) : kind.keys.Nodup := by
  cases kind <;> decide

theorem nodup_declarations (kind : PropertyKind) : (kind.declarations.map (·.key)).Nodup :=
  kind.keys_declarations ▸ kind.nodup_keys

theorem mem_keys_iff {kind : PropertyKind} {key : String} :
    key ∈ kind.keys ↔ ∃ declared ∈ kind.declarations, declared.key = key := by
  rw [← kind.keys_declarations, List.mem_map]

theorem explained_of_mem {kind : PropertyKind} {declared : Declaration}
    (member : declared ∈ kind.declarations) : declared.Explained := by
  revert declared
  cases kind <;>
    simp [declarations, Declaration.text, Declaration.nullable, Declaration.explained_ofCheck,
      Checked.explained_text, Checked.explained_choice, Checked.explained_natural,
      Checked.explained_optional]

end PropertyKind

namespace Properties

open Declaration (messages)

/-- Note a problem, unless there is one under its key. -/
def reject (rejected : Entries String) (problem : Problem) : Entries String :=
  let key := problem.location.head?.getD ""
  if Entries.has key rejected then rejected
  else rejected ++ [(key, key ++ ": " ++ problem.message)]

theorem reject_of_liesIn {key : String} {problem : Problem} (located : problem.LiesIn key)
    (rejected : Entries String) :
    reject rejected problem =
      if Entries.has key rejected then rejected
      else rejected ++ [(key, key ++ ": " ++ problem.message)] := by
  obtain ⟨rest, split⟩ := located
  have head : problem.location.head?.getD "" = key := by simp [← split]
  simp only [reject, head]

theorem foldl_reject_of_has {key : String} {rejected : Entries String}
    (known : Entries.has key rejected = true) {problems : List Problem}
    (located : ∀ problem ∈ problems, problem.LiesIn key) :
    problems.foldl reject rejected = rejected := by
  induction problems with
  | nil => rfl
  | cons problem problems ih =>
      obtain ⟨here, later⟩ := List.forall_mem_cons.mp located
      rw [List.foldl_cons, reject_of_liesIn here, if_pos known, ih later]

/-- Of the problems under a key the first one is noted. -/
theorem foldl_reject {key : String} {rejected : Entries String}
    (fresh : Entries.get? key rejected = none) {problems : List Problem}
    (located : ∀ problem ∈ problems, problem.LiesIn key) :
    problems.foldl reject rejected =
      rejected ++ (problems.head?.map fun problem =>
        (key, key ++ ": " ++ problem.message)).toList := by
  cases problems with
  | nil => simp
  | cons problem problems =>
      obtain ⟨here, later⟩ := List.forall_mem_cons.mp located
      have unknown : ¬ Entries.has key rejected = true := by simp [Entries.has, fresh]
      have known :
          Entries.has key (rejected ++ [(key, key ++ ": " ++ problem.message)]) = true := by
        simp [Entries.has, Entries.get?_append, fresh, Entries.get?]
      rw [List.foldl_cons, reject_of_liesIn here, if_neg unknown, foldl_reject_of_has known later]
      rfl

theorem foldl_reject_readAll {declarations : List Declaration} {entries : Entries Document}
    {rejected : Entries String} (nodup : (declarations.map (·.key)).Nodup)
    (fresh : ∀ declared ∈ declarations, Entries.get? declared.key rejected = none) :
    (Declaration.readAll entries declarations).problems.foldl reject rejected =
      rejected ++ messages declarations entries := by
  rw [Declaration.problems_readAll]
  induction declarations generalizing rejected with
  | nil => simp [messages]
  | cons declared declarations ih =>
      obtain ⟨single, nodup⟩ := List.nodup_cons.mp nodup
      obtain ⟨here, later⟩ := List.forall_mem_cons.mp fresh
      rw [List.flatMap_cons, List.foldl_append,
        foldl_reject here fun problem => Declaration.liesIn_of_mem_read, ih nodup]
      · rw [Declaration.messages_cons, Declaration.message?, List.append_assoc, Option.map_map]
        rfl
      · intro other member
        have differ := Declaration.key_ne_of_fresh single member
        rw [Entries.get?_append, later other member]
        cases (declared.read entries).problems.head? <;> simp [Entries.get?, differ]

/-! ## One check of a table -/

variable {kind : PropertyKind} {declared : Declaration} {entries : Entries Document}
  {properties : Properties}

theorem problems_check :
    (check kind entries).problems = (Declaration.readAll entries kind.declarations).problems := by
  rw [← Checked.problems_map toEntries, kind.check_eq, Checked.problems_map]

theorem explained_check (kind : PropertyKind) (entries : Entries Document) :
    (check kind entries).Explained := by
  have read := Declaration.explained_readAll (fun _ => kind.explained_of_mem) entries
  refine Checked.explained_of_map (f := toEntries) ?_
  rw [kind.check_eq]
  exact read.map _

/-- A table is accepted if every known setting is. -/
theorem exists_check_eq_valid_iff :
    (∃ properties, check kind entries = .valid properties) ↔
      ∀ declared ∈ kind.declarations, declared.message? entries = none := by
  simp only [Declaration.message?_eq_none_iff]
  rw [← List.flatMap_eq_nil_iff, ← Declaration.problems_readAll, ← problems_check]
  constructor
  · rintro ⟨properties, accepted⟩
    rw [accepted, Checked.problems_valid]
  · exact explained_check kind entries

theorem rejections_problems_check :
    rejections (check kind entries).problems = messages kind.declarations entries := by
  rw [problems_check]
  exact foldl_reject_readAll kind.nodup_declarations fun _ _ => rfl

/-- The settings of accepted properties are those that were read, and the unknown ones. -/
theorem toEntries_of_check (accepted : check kind entries = .valid properties) :
    ∃ settings, Declaration.readAll entries kind.declarations = .valid settings ∧
      properties.toEntries =
        settings ++ entries.filter fun entry => !kind.keys.contains entry.1 := by
  have whole : (toEntries <$> check kind entries).Yields (· = properties.toEntries) :=
    Checked.yields_map_iff.mpr ⟨properties, accepted, rfl⟩
  rw [kind.check_eq, Checked.yields_map_iff] at whole
  obtain ⟨settings, read, split⟩ := whole
  exact ⟨settings, read, split.symm⟩

theorem get?_toEntries_of_check (accepted : check kind entries = .valid properties)
    (member : declared ∈ kind.declarations) :
    ∃ value, declared.read entries = .valid value ∧
      Entries.get? declared.key properties.toEntries = some value := by
  obtain ⟨settings, read, split⟩ := toEntries_of_check accepted
  obtain ⟨value, here, held⟩ :=
    Declaration.exists_of_readAll kind.nodup_declarations member read
  refine ⟨value, here, ?_⟩
  rw [split, Entries.get?_append, held]
  rfl

/-- What is read for a setting does not depend on the other entries of a table. -/
theorem get?_toEntries_congr {others : Entries Document} {other : Properties}
    (member : declared ∈ kind.declarations)
    (same : Entries.get? declared.key entries = Entries.get? declared.key others)
    (accepted : check kind entries = .valid properties)
    (acceptedOther : check kind others = .valid other) :
    Entries.get? declared.key properties.toEntries =
      Entries.get? declared.key other.toEntries := by
  obtain ⟨value, here, held⟩ := get?_toEntries_of_check accepted member
  obtain ⟨otherValue, there, heldOther⟩ := get?_toEntries_of_check acceptedOther member
  rw [declared.read_congr same, there] at here
  rw [held, heldOther, Checked.valid.inj here]

theorem extras_of_check (accepted : check kind entries = .valid properties) :
    properties.extras = entries.filter fun entry => !kind.keys.contains entry.1 := by
  rw [← Checked.yields_eq_iff] at accepted
  simp only [check, Checked.yields_seq_iff, Checked.yields_map_iff, Checked.yields_valid_iff]
    at accepted
  obtain ⟨_, -, _, -, _, -, _, -, _, -, rfl⟩ := accepted
  rfl

theorem names_toEntries_of_check (accepted : check kind entries = .valid properties) :
    Entries.names properties.toEntries = kind.keys ++ Entries.names properties.extras := by
  obtain ⟨settings, read, split⟩ := toEntries_of_check accepted
  rw [split, extras_of_check accepted, Entries.names, List.map_append, ← kind.keys_declarations,
    ← Declaration.names_of_readAll read]
  rfl

/-! ## A setting alone -/

/-- A table with one known setting has the problems of this setting. -/
theorem problems_check_alone (member : declared ∈ kind.declarations) {d : Document}
    (held : Entries.get? declared.key entries = some d) :
    (check kind [(declared.key, d)]).problems = (declared.read entries).problems := by
  obtain ⟨before, after, split⟩ := List.append_of_mem member
  have nodup := kind.nodup_declarations
  rw [split, List.map_append, List.map_cons, List.perm_middle.nodup_iff, ← List.map_append] at nodup
  have silent (other : Declaration) (apart : other ∈ before ++ after) :
      (other.read [(declared.key, d)]).problems = [] := by
    have differ := Declaration.key_ne_of_fresh (List.nodup_cons.mp nodup).1 apart
    have absent : Entries.get? other.key [(declared.key, d)] = none := if_neg differ
    rw [Declaration.read_of_absent absent, Checked.problems_valid]
  have here : declared.read [(declared.key, d)] = declared.read entries :=
    declared.read_congr ((if_pos rfl).trans held.symm)
  rw [problems_check, Declaration.problems_readAll, split, List.flatMap_append, List.flatMap_cons,
    List.flatMap_eq_nil_iff.mpr fun other inside => silent other (List.mem_append_left _ inside),
    List.flatMap_eq_nil_iff.mpr fun other inside => silent other (List.mem_append_right _ inside),
    here, List.nil_append, List.append_nil]

theorem exists_check_alone_iff (member : declared ∈ kind.declarations) {d : Document}
    (held : Entries.get? declared.key entries = some d) :
    (∃ alone, check kind [(declared.key, d)] = .valid alone) ↔
      declared.message? entries = none := by
  rw [Declaration.message?_eq_none_iff, ← problems_check_alone member held]
  constructor
  · rintro ⟨alone, accepted⟩
    rw [accepted, Checked.problems_valid]
  · exact explained_check kind _

/-! ## Checking again without the rejected settings -/

/-- The entries of a table whose settings are not rejected. -/
def kept (kind : PropertyKind) (entries : Entries Document) : Entries Document :=
  entries.filter fun entry => !Entries.has entry.1 (messages kind.declarations entries)

theorem get?_kept (member : declared ∈ kind.declarations) (entries : Entries Document) :
    Entries.get? declared.key (kept kind entries) =
      if declared.message? entries = none then Entries.get? declared.key entries else none := by
  rw [kept, Entries.get?_filter fun key => !Entries.has key (messages kind.declarations entries),
    Entries.has, Declaration.get?_messages kind.nodup_declarations member]
  cases declared.message? entries <;> rfl

/-- The settings that are not rejected are all accepted. -/
theorem exists_check_kept (kind : PropertyKind) (entries : Entries Document) :
    ∃ properties, check kind (kept kind entries) = .valid properties := by
  rw [exists_check_eq_valid_iff]
  intro declared member
  have found := get?_kept member entries
  rw [Declaration.message?_eq_none_iff]
  by_cases good : declared.message? entries = none
  · rw [if_pos good] at found
    rw [declared.read_congr found, Declaration.message?_eq_none_iff.mp good]
  · rw [if_neg good] at found
    rw [Declaration.read_of_absent found, Checked.problems_valid]

theorem validate_eq (accepted : check kind (kept kind entries) = .valid properties) :
    validate kind entries = (properties, messages kind.declarations entries) := by
  have rejected := @rejections_problems_check kind entries
  unfold validate
  cases checked : check kind entries with
  | valid whole =>
      have none_rejected : messages kind.declarations entries = [] := by
        rw [← rejected, checked]
        rfl
      have all_kept : kept kind entries = entries := by
        rw [kept, none_rejected]
        exact List.filter_eq_self.mpr fun _ _ => rfl
      rw [all_kept, checked] at accepted
      rw [none_rejected, Checked.valid.inj accepted]
  | invalid problems =>
      rw [checked] at rejected
      change rejections problems = _ at rejected
      dsimp only
      rw [rejected]
      change ((check kind (kept kind entries)).value?.getD _, _) = _
      rw [accepted]
      rfl

theorem filter_kept (kind : PropertyKind) (entries : Entries Document) :
    (kept kind entries).filter (fun entry => !kind.keys.contains entry.1) =
      entries.filter fun entry => !kind.keys.contains entry.1 := by
  rw [kept, List.filter_filter]
  refine List.filter_congr fun entry _ => ?_
  cases known : kind.keys.contains entry.1 with
  | true => rfl
  | false =>
      have undeclared : entry.1 ∉ kind.declarations.map (·.key) := by
        rw [kind.keys_declarations]
        simpa using known
      rw [Entries.has, Declaration.get?_messages_of_not_mem undeclared]
      rfl

theorem has_messages_iff (member : declared ∈ kind.declarations) :
    Entries.has declared.key (messages kind.declarations entries) = true ↔
      declared.message? entries ≠ none := by
  rw [Entries.has, Declaration.get?_messages kind.nodup_declarations member,
    Option.isSome_iff_ne_none]

theorem mem_keys_of_has_messages {key : String}
    (rejected : Entries.has key (messages kind.declarations entries) = true) :
    key ∈ kind.keys := by
  rw [← kind.keys_declarations]
  refine Decidable.byContradiction fun unknown => ?_
  rw [Entries.has, Declaration.get?_messages_of_not_mem unknown] at rejected
  cases rejected

/-- A setting is rejected if it is there and is refused alone. -/
theorem has_messages_iff_alone (member : declared ∈ kind.declarations) :
    Entries.has declared.key (messages kind.declarations entries) = true ↔
      ∃ d, Entries.get? declared.key entries = some d ∧
        ¬∃ alone, check kind [(declared.key, d)] = .valid alone := by
  rw [has_messages_iff member]
  constructor
  · intro refused
    cases held : Entries.get? declared.key entries with
    | none =>
        rw [ne_eq, Declaration.message?_eq_none_iff, Declaration.read_of_absent held] at refused
        exact absurd (Checked.problems_valid _) refused
    | some d => exact ⟨d, rfl, fun alone => refused ((exists_check_alone_iff member held).mp alone)⟩
  · rintro ⟨d, held, refused⟩ silent
    exact refused ((exists_check_alone_iff member held).mpr silent)

/-- Properties and messages in which every setting of a table is treated on its own. -/
structure KeyByKey (kind : PropertyKind) (entries : Entries Document) (properties : Properties)
    (rejected : Entries String) : Prop where
  /-- Without the rejected settings the table is accepted. -/
  accepted : check kind (entries.filter fun entry => !Entries.has entry.1 rejected) =
    .valid properties
  /-- The rejected settings are the known ones that are refused alone. -/
  has_rejected_iff (key : String) : Entries.has key rejected = true ↔
    key ∈ kind.keys ∧ ∃ d, Entries.get? key entries = some d ∧
      ¬∃ alone, check kind [(key, d)] = .valid alone
  /-- A known setting that is not rejected stands for what it stands for alone. -/
  get?_good {key : String} {d : Document} : key ∈ kind.keys → Entries.get? key entries = some d →
    Entries.has key rejected = false →
    ∃ alone, check kind [(key, d)] = .valid alone ∧
      Entries.get? key properties.toEntries = Entries.get? key alone.toEntries
  /-- A known setting that is rejected or absent has its default. -/
  get?_default {key : String} : key ∈ kind.keys →
    Entries.has key rejected = true ∨ Entries.get? key entries = none →
    Entries.get? key properties.toEntries =
      Entries.get? key (toEntries { details := kind.defaults })
  /-- Known settings stand in order before the unknown ones. -/
  names_toEntries : Entries.names properties.toEntries =
    kind.keys ++ Entries.names properties.extras
  /-- Unknown settings are kept as they are. -/
  extras_eq : properties.extras = entries.filter fun entry => !kind.keys.contains entry.1
  /-- A rejected setting has the first message that it gets alone. -/
  get?_rejected {key : String} {d : Document} : key ∈ kind.keys →
    Entries.get? key entries = some d →
    Entries.get? key rejected =
      (check kind [(key, d)]).problems.head?.map fun problem => key ++ ": " ++ problem.message
  /-- Every rejected setting has one message, in the order of the known settings. -/
  names_rejected : kind.keys.Nodup ∧
    Entries.names rejected = kind.keys.filter fun key => Entries.has key rejected

theorem check_nil (kind : PropertyKind) :
    check kind [] = .valid { details := kind.defaults } := by
  cases kind <;> rfl

/-- Checking again without the rejected settings always succeeds, and every setting is read as if
it stood alone: a good one keeps its value, a refused one has its default and one message. -/
theorem settings_are_checked_one_by_one (kind : PropertyKind) (entries : Entries Document) :
    KeyByKey kind entries (validate kind entries).1 (validate kind entries).2 := by
  obtain ⟨properties, accepted⟩ := exists_check_kept kind entries
  rw [validate_eq accepted]
  constructor
  case accepted => exact accepted
  case names_toEntries => exact names_toEntries_of_check accepted
  case extras_eq => exact (extras_of_check accepted).trans (filter_kept kind entries)
  case has_rejected_iff =>
    intro key
    constructor
    · intro rejected
      have known := mem_keys_of_has_messages rejected
      obtain ⟨declared, member, rfl⟩ := PropertyKind.mem_keys_iff.mp known
      exact ⟨known, (has_messages_iff_alone member).mp rejected⟩
    · rintro ⟨known, refused⟩
      obtain ⟨declared, member, rfl⟩ := PropertyKind.mem_keys_iff.mp known
      exact (has_messages_iff_alone member).mpr refused
  case get?_good =>
    intro key d known held good
    obtain ⟨declared, member, rfl⟩ := PropertyKind.mem_keys_iff.mp known
    have silent : declared.message? entries = none :=
      Decidable.byContradiction fun refused =>
        Bool.false_ne_true (good.symm.trans ((has_messages_iff member).mpr refused))
    obtain ⟨alone, acceptedAlone⟩ := (exists_check_alone_iff member held).mpr silent
    refine ⟨alone, acceptedAlone, get?_toEntries_congr member ?_ accepted acceptedAlone⟩
    rw [get?_kept member, if_pos silent, held]
    exact (if_pos rfl).symm
  case get?_default =>
    intro key known missing
    obtain ⟨declared, member, rfl⟩ := PropertyKind.mem_keys_iff.mp known
    refine get?_toEntries_congr member ?_ accepted (check_nil kind)
    rw [get?_kept member]
    obtain rejected | absent := missing
    · exact if_neg ((has_messages_iff member).mp rejected)
    · rw [absent, ite_self]
      rfl
  case get?_rejected =>
    intro key d known held
    obtain ⟨declared, member, rfl⟩ := PropertyKind.mem_keys_iff.mp known
    rw [Declaration.get?_messages kind.nodup_declarations member, problems_check_alone member held,
      Declaration.message?]
  case names_rejected =>
    refine ⟨kind.nodup_keys, ?_⟩
    rw [← kind.keys_declarations]
    exact Declaration.names_messages_eq_filter kind.nodup_declarations

end Properties

end Promptline
