import Mathlib
import Promptline.Proofs.Answer
import Promptline.Proofs.Document.Toml.Reading
import Promptline.Proofs.Settings.Variables
import Promptline.Settings.Layers

/-!
# The layer that decides

A setting is decided by the highest layer that has anything to say about it, whatever the layers
below hold.
-/

namespace Promptline.Settings

section Keyed

open Document (Keyed)

theorem defaults_keyed : (Document.table defaults).Keyed := by
  have sectionKeyed (entries : Table)
      (plain : ∀ entry ∈ entries, entry.2.isTable = false ∧ entry.2.NamesOnce) :
      (Document.table (Entries.overlay [] entries)).Keyed :=
    Document.keyed_nil.overlay fun entry member =>
      Document.keyed_of_not_isTable (plain entry member).1 (plain entry member).2
  have logging := sectionKeyed
    [("level", .string "info"), ("format", .string "json"), ("file", .string "")]
    (by simp [Document.isTable, Document.NamesOnce])
  have render := sectionKeyed
    [("on_error", .string "source"), ("strict", .bool false)]
    (by simp [Document.isTable, Document.NamesOnce])
  have all := (Document.keyed_nil.insert "logging" logging).insert "render" render
  exact all

/-- A file that can be read has each key once in every table. -/
theorem keyed_of_read {room : Nat} {text : String} {values : Table}
    (read : Toml.read room text = .ok values) : (Document.table values).Keyed := by
  have reads := Toml.read_reads room text
  rw [read] at reads
  cases reads with
  | ok keyed => exact keyed

end Keyed

section Files

variable {host : Host} {path : FilePath} {values : Table}

/-- A file holds settings if it is a text that is a TOML document. -/
theorem readFile_eq_ok_iff :
    readFile host path = .ok values ↔
      ∃ text, host.read path = .ok text ∧ Toml.read host.room text = .ok values := by
  unfold readFile
  split
  · next missing => simp [missing]
  · next missing => simp [missing]
  · next text found =>
      simp only [found, Except.ok.injEq, exists_eq_left']
      split <;> simp_all

/-- What has a text is a file. -/
theorem hasFile_of_read {text : String} (found : host.read path = .ok text) :
    host.hasFile path = true := by
  rw [Host.read, FileTree.read] at found
  rw [Host.hasFile]
  split at found
  · next content node => rw [node]
  all_goals cases found

end Files

namespace Origin

/-- Height of the layer with an origin: a layer yields to those of higher rank. -/
def rank : Origin → Nat
  | builtin => 0
  | user => 1
  | project => 2
  | environment => 3
  | commandLine => 4

/-- All origins, the highest first. -/
def descending : List Origin := [commandLine, environment, project, user, builtin]

theorem descending_pairwise :
    descending.Pairwise (fun higher lower => lower.rank < higher.rank) := by
  decide

end Origin

/-- There is a layer of a given origin that takes part, and it holds the given values. -/
def Consults (host : Host) (selection : Selection) : Origin → Table → Prop
  | .commandLine, values => selection.overrides = some values
  | .environment, values =>
      selection.environment = true ∧ values = ofVariables variableLead host.environment
  | .project, values =>
      ∃ path, projectFile? host selection.start = some path ∧
        ∃ text, host.read path = .ok text ∧ Toml.read host.room text = .ok values
  | .user, values =>
      ∃ text, host.read host.settingsFile = .ok text ∧ Toml.read host.room text = .ok values
  | .builtin, values => values = defaults

/-- A layer has something to say about a path, and no higher one has. -/
def Decides (host : Host) (selection : Selection) (path : List String) (origin : Origin)
    (values : Table) : Prop :=
  Consults host selection origin values ∧ values.Settles path ∧
    ∀ higher other, Consults host selection higher other → origin.rank < higher.rank →
      ¬ other.Settles path

theorem Consults.keyed {host : Host} {selection : Selection} {origin : Origin} {values : Table}
    (options : ∀ overrides, selection.overrides = some overrides →
      (Document.table overrides).Keyed)
    (consulted : Consults host selection origin values) : (Document.table values).Keyed := by
  cases origin with
  | commandLine => exact options values consulted
  | environment =>
      obtain ⟨-, rfl⟩ := consulted
      exact ofVariables_keyed variableLead host.environment
  | project =>
      obtain ⟨path, -, text, -, read⟩ := consulted
      exact keyed_of_read read
  | user =>
      obtain ⟨text, -, read⟩ := consulted
      exact keyed_of_read read
  | builtin =>
      obtain rfl : values = defaults := consulted
      exact defaults_keyed

section Listed

variable {host : Host} {selection : Selection} {listed : List Layer}

theorem fileLayer_inv {origin : Origin} {path : FilePath} {layer : Layer}
    (found : fileLayer host origin path = .ok layer) :
    layer.origin = origin ∧
      ((host.hasFile path = true ∧ readFile host path = .ok layer.values) ∨
        (host.hasFile path = false ∧ layer.values = [])) := by
  unfold fileLayer at found
  split at found
  · next there =>
      obtain ⟨values, read, rfl⟩ := map_eq_ok_iff.mp found
      exact ⟨rfl, .inl ⟨there, read⟩⟩
  · next missing =>
      obtain rfl := Except.ok.inj found
      exact ⟨rfl, .inr ⟨by simpa using missing, rfl⟩⟩

theorem onTop_inv {room : Nat} {layer : Layer} {below : List Layer}
    (found : onTop room layer below = .ok listed) : listed = layer :: below := by
  unfold onTop at found
  split at found
  · exact (Except.ok.inj found).symm
  · cases found

theorem stack_inv {room : Nat} {below above : List Layer}
    (found : stack room below above = .ok listed) :
    listed = above.reverse ++ below := by
  induction above generalizing below with
  | nil => exact (Except.ok.inj found).symm
  | cons layer above ih =>
      obtain ⟨next, placed, later⟩ := bind_eq_ok_iff.mp found
      rw [ih later, onTop_inv placed, List.reverse_cons, List.append_assoc, List.singleton_append]

/-- What the list of layers is made of. -/
theorem layers_inv (found : layers host selection = .ok listed) :
    ∃ user, ∃ project : Option Layer, fileLayer host .user host.settingsFile = .ok user ∧
      (∀ layer, project = some layer ↔ ∃ path, projectFile? host selection.start = some path ∧
        fileLayer host .project path = .ok layer) ∧
      listed = selection.overrides.toList.map overrideLayer ++
        (if selection.environment then [environmentLayer host] else []) ++ project.toList ++
        [user, builtinLayer] := by
  obtain ⟨user, held, later⟩ := bind_eq_ok_iff.mp found
  obtain ⟨below, placed, later⟩ := bind_eq_ok_iff.mp later
  obtain rfl := onTop_inv placed
  cases place : projectFile? host selection.start with
  | none =>
      rw [place] at later
      obtain rfl := stack_inv later
      refine ⟨user, none, held, by simp, ?_⟩
      cases selection.overrides <;> cases selection.environment <;> rfl
  | some path =>
      rw [place] at later
      obtain ⟨project, inner, later⟩ := bind_eq_ok_iff.mp later
      obtain ⟨layer, read, rfl⟩ := map_eq_ok_iff.mp inner
      obtain rfl := stack_inv later
      refine ⟨user, some layer, held, by simp [read], ?_⟩
      cases selection.overrides <;> cases selection.environment <;> rfl

theorem mem_layers_iff (found : layers host selection = .ok listed) (layer : Layer) :
    layer ∈ listed ↔
      (∃ overrides, selection.overrides = some overrides ∧ layer = overrideLayer overrides) ∨
      (selection.environment = true ∧ layer = environmentLayer host) ∨
      (∃ path, projectFile? host selection.start = some path ∧
        fileLayer host .project path = .ok layer) ∨
      fileLayer host .user host.settingsFile = .ok layer ∨ layer = builtinLayer := by
  obtain ⟨user, project, held, place, rfl⟩ := layers_inv found
  rw [← place layer, held]
  cases selection.overrides <;> cases selection.environment <;> cases project <;>
    simp [eq_comm]

/-- A layer that takes part is listed. -/
theorem exists_mem_of_consults {origin : Origin} {values : Table}
    (found : layers host selection = .ok listed)
    (consulted : Consults host selection origin values) :
    ∃ layer ∈ listed, layer.origin = origin ∧ layer.values = values := by
  have members := mem_layers_iff found
  have ofFile (origin : Origin) {path : FilePath} {text : String}
      (held : host.read path = .ok text) (read : Toml.read host.room text = .ok values) :
      fileLayer host origin path = .ok ⟨origin, path, true, values⟩ := by
    rw [fileLayer, if_pos (hasFile_of_read held), readFile_eq_ok_iff.mpr ⟨text, held, read⟩]
    rfl
  cases origin with
  | commandLine =>
      exact ⟨overrideLayer values, (members _).mpr (.inl ⟨values, consulted, rfl⟩), rfl, rfl⟩
  | environment =>
      obtain ⟨counts, rfl⟩ := consulted
      exact ⟨environmentLayer host, (members _).mpr (.inr (.inl ⟨counts, rfl⟩)), rfl, rfl⟩
  | project =>
      obtain ⟨path, place, text, held, read⟩ := consulted
      have layer := ofFile .project held read
      exact ⟨_, (members _).mpr (.inr (.inr (.inl ⟨path, place, layer⟩))), rfl, rfl⟩
  | user =>
      obtain ⟨text, held, read⟩ := consulted
      have layer := ofFile .user held read
      exact ⟨_, (members _).mpr (.inr (.inr (.inr (.inl layer)))), rfl, rfl⟩
  | builtin =>
      obtain rfl : values = defaults := consulted
      exact ⟨builtinLayer, (members _).mpr (by simp), rfl, rfl⟩

/-- A layer takes part, unless it is empty. -/
def Genuine (host : Host) (selection : Selection) (layer : Layer) : Prop :=
  layer.values = [] ∨ Consults host selection layer.origin layer.values

theorem genuine_overrideLayer {overrides : Table} (given : selection.overrides = some overrides) :
    Genuine host selection (overrideLayer overrides) :=
  .inr given

theorem genuine_environmentLayer (counts : selection.environment = true) :
    Genuine host selection (environmentLayer host) :=
  .inr ⟨counts, rfl⟩

theorem genuine_project {path : FilePath} {layer : Layer}
    (place : projectFile? host selection.start = some path)
    (read : fileLayer host .project path = .ok layer) : Genuine host selection layer := by
  obtain ⟨origin, ⟨-, held⟩ | ⟨-, empty⟩⟩ := fileLayer_inv read
  · exact .inr (origin ▸ ⟨path, place, readFile_eq_ok_iff.mp held⟩)
  · exact .inl empty

theorem genuine_user {layer : Layer} (read : fileLayer host .user host.settingsFile = .ok layer) :
    Genuine host selection layer := by
  obtain ⟨origin, ⟨-, held⟩ | ⟨-, empty⟩⟩ := fileLayer_inv read
  · exact .inr (origin ▸ readFile_eq_ok_iff.mp held)
  · exact .inl empty

theorem genuine_builtinLayer : Genuine host selection builtinLayer :=
  .inr rfl

/-- A layer that is listed takes part, unless it is empty. -/
theorem genuine_of_mem (found : layers host selection = .ok listed) {layer : Layer}
    (member : layer ∈ listed) : Genuine host selection layer := by
  obtain ⟨overrides, given, rfl⟩ | ⟨counts, rfl⟩ | ⟨path, place, read⟩ | read | rfl :=
    (mem_layers_iff found layer).mp member
  · exact genuine_overrideLayer given
  · exact genuine_environmentLayer counts
  · exact genuine_project place read
  · exact genuine_user read
  · exact genuine_builtinLayer

theorem layers_origins (found : layers host selection = .ok listed) :
    (listed.map Layer.origin).Sublist Origin.descending := by
  obtain ⟨user, project, held, place, rfl⟩ := layers_inv found
  have commandLine : ((selection.overrides.toList.map overrideLayer).map Layer.origin).Sublist
      [.commandLine] := by
    cases selection.overrides <;> simp [overrideLayer]
  have environment : ((if selection.environment then [environmentLayer host] else []).map
      Layer.origin).Sublist [.environment] := by
    cases selection.environment <;> simp [environmentLayer]
  have fromProject : (project.toList.map Layer.origin).Sublist [.project] := by
    cases project with
    | none => simp
    | some layer =>
        obtain ⟨path, -, read⟩ := (place layer).mp rfl
        simp [(fileLayer_inv read).1]
  have below : [user, builtinLayer].map Layer.origin = [.user, .builtin] := by
    simp [(fileLayer_inv held).1, builtinLayer]
  simp only [List.map_append, below]
  exact ((commandLine.append environment).append fromProject).append_right _

/-- Layers are listed by descending rank. -/
theorem layers_pairwise (found : layers host selection = .ok listed) :
    listed.Pairwise fun higher lower => lower.origin.rank < higher.origin.rank :=
  List.pairwise_map.mp (Origin.descending_pairwise.sublist (layers_origins found))

end Listed

section Merged

variable {path : List String}

theorem mergeLayers_cons (layer : Layer) (below : List Layer) :
    mergeLayers (layer :: below) = (mergeLayers below).merge layer.values := rfl

/-- Layers that have nothing to say about a path leave what is below them. -/
theorem get?_mergeLayers_append {above : List Layer} (nonempty : path ≠ [])
    (keyed : ∀ layer ∈ above, (Document.table layer.values).Keyed)
    (silent : ∀ layer ∈ above, ¬ layer.values.Settles path) (below : List Layer) :
    (mergeLayers (above ++ below)).get? path = (mergeLayers below).get? path := by
  induction above with
  | nil => rfl
  | cons layer above ih =>
      obtain ⟨layerKeyed, keyed⟩ := List.forall_mem_cons.mp keyed
      obtain ⟨layerSilent, silent⟩ := List.forall_mem_cons.mp silent
      have passes : (mergeLayers (layer :: (above ++ below))).get? path =
          (mergeLayers (above ++ below)).get? path :=
        (Table.laidOver layerKeyed nonempty).silent layerSilent
      rw [List.cons_append, passes, ih keyed silent]

/-- Empty layers change nothing. -/
theorem mergeLayers_filter (listed : List Layer) :
    mergeLayers (listed.filter (!·.values.isEmpty)) = mergeLayers listed := by
  induction listed with
  | nil => rfl
  | cons layer below ih =>
      cases empty : layer.values with
      | nil =>
          rw [List.filter_cons_of_neg (by simp [empty]), ih, mergeLayers_cons, empty,
            Table.merge_nil]
      | cons entry values =>
          rw [List.filter_cons_of_pos (by simp [empty]), mergeLayers_cons, mergeLayers_cons, ih]

end Merged

theorem not_settles_nil {path : List String} (nonempty : path ≠ []) :
    ¬ Table.Settles [] path := by
  obtain ⟨key, path, rfl⟩ := List.exists_cons_of_ne_nil nonempty
  rintro (held | blocked)
  · cases held
  · obtain ⟨-, value, found, -⟩ := Table.blocks_cons_iff.mp blocked
    cases found

theorem load_inv {host : Host} {selection : Selection} {loaded : Loaded}
    (accepted : load host selection = .ok loaded) :
    layers host selection = .ok loaded.layers ∧
      loaded.settings.data = mergeLayers loaded.layers := by
  obtain ⟨listed, found, later⟩ := bind_eq_ok_iff.mp accepted
  unfold strict at later
  split at later
  · next settings checked =>
      obtain rfl := Except.ok.inj later
      split at checked
      · obtain rfl := Except.ok.inj checked
        exact ⟨found, rfl⟩
      · cases checked
  · cases later

section Decided

variable {host : Host} {selection : Selection} {path : List String}

/-- If a layer has something to say about a path, then some layer decides about it. -/
theorem exists_decides {origin : Origin} {values : Table}
    (consulted : Consults host selection origin values) (settles : values.Settles path) :
    ∃ origin values, Decides host selection path origin values := by
  by_contra undecided
  -- Above every layer that has something to say there is another one.
  have raised : ∀ rank, ∃ origin values, Consults host selection origin values ∧
      values.Settles path ∧ rank ≤ origin.rank := by
    intro rank
    induction rank with
    | zero => exact ⟨origin, values, consulted, settles, Nat.zero_le _⟩
    | succ rank ih =>
        obtain ⟨lower, held, consulted, settles, reached⟩ := ih
        by_contra top
        refine undecided ⟨lower, held, consulted, settles, ?_⟩
        intro higher other there above speaks
        exact top ⟨higher, other, there, speaks, by omega⟩
  obtain ⟨origin, -, -, -, beyond⟩ := raised 5
  cases origin <;> simp [Origin.rank] at beyond

variable {listed : List Layer}

/-- The layer that decides about a path, in the list of layers. -/
theorem Decides.split {origin : Origin} {values : Table} (nonempty : path ≠ [])
    (decides : Decides host selection path origin values)
    (found : layers host selection = .ok listed) :
    ∃ above layer below, listed = above ++ layer :: below ∧ layer.values = values ∧
      ∀ higher ∈ above, ¬ higher.values.Settles path := by
  obtain ⟨consulted, -, none_higher⟩ := decides
  obtain ⟨layer, member, rfl, rfl⟩ := exists_mem_of_consults found consulted
  obtain ⟨above, below, rfl⟩ := List.append_of_mem member
  have sorted := (List.pairwise_append.mp (layers_pairwise found)).2.2
  refine ⟨above, layer, below, rfl, rfl, fun higher inside => ?_⟩
  obtain empty | consulted := genuine_of_mem found (List.mem_append_left _ inside)
  · rw [empty]
    exact not_settles_nil nonempty
  · exact none_higher _ _ consulted (sorted higher inside layer List.mem_cons_self)

/-- A setting is decided by the highest layer that takes part and holds something at its path, or
something on the way that is no table: a plain value of that layer is the setting, a table of that
layer is merged with others to a table, and a path that the layer blocks is unset. A path that no
layer decides about is unset. Layers that are empty or take no part change nothing. -/
theorem highest_settling_layer_decides {loaded : Loaded}
    (options : ∀ overrides, selection.overrides = some overrides →
      (Document.table overrides).Keyed)
    (accepted : load host selection = .ok loaded) :
    (∀ path, path ≠ [] →
      (∀ origin values, Decides host selection path origin values →
        (∀ value, values.get? path = some value → value.isTable = false →
          loaded.settings.data.get? path = some value) ∧
        (∀ inner, values.get? path = some (.table inner) →
          ∃ merged, loaded.settings.data.get? path = some (.table merged)) ∧
        (values.Blocks path → loaded.settings.data.get? path = none)) ∧
      ((∀ origin values, ¬ Decides host selection path origin values) →
        loaded.settings.data.get? path = none)) ∧
    loaded.settings.data = mergeLayers (loaded.layers.filter (!·.values.isEmpty)) ∧
    ∀ origin values, values ≠ [] →
      (Consults host selection origin values ↔
        ∃ layer ∈ loaded.layers, layer.origin = origin ∧ layer.values = values) := by
  obtain ⟨found, data⟩ := load_inv accepted
  have keyed : ∀ layer ∈ loaded.layers, (Document.table layer.values).Keyed := by
    intro layer member
    obtain empty | consulted := genuine_of_mem found member
    · rw [empty]
      exact Document.keyed_nil
    · exact consulted.keyed options
  refine ⟨fun path nonempty => ⟨fun origin values decides => ?_, fun undecided => ?_⟩, ?_,
    fun origin values some => ⟨exists_mem_of_consults found, ?_⟩⟩
  · obtain ⟨above, layer, below, split, rfl, silent⟩ := decides.split nonempty found
    rw [split] at keyed
    have keyedAbove : ∀ layer ∈ above, (Document.table layer.values).Keyed :=
      fun layer inside => keyed layer (List.mem_append_left _ inside)
    have keyedLayer := keyed layer (by simp)
    have laid : (mergeLayers below).LaidOver layer.values path :=
      Table.laidOver keyedLayer nonempty
    have passes := get?_mergeLayers_append nonempty keyedAbove silent (layer :: below)
    rw [data, split, passes, mergeLayers_cons]
    exact ⟨laid.plain, fun inner held => ⟨_, laid.table inner held⟩, laid.blocked⟩
  · have silent : ∀ layer ∈ loaded.layers, ¬ layer.values.Settles path := by
      intro layer member settles
      obtain empty | consulted := genuine_of_mem found member
      · rw [empty] at settles
        exact not_settles_nil nonempty settles
      · obtain ⟨origin, values, decides⟩ := exists_decides consulted settles
        exact undecided origin values decides
    have passes := get?_mergeLayers_append nonempty keyed silent []
    rw [List.append_nil] at passes
    obtain ⟨key, path, rfl⟩ := List.exists_cons_of_ne_nil nonempty
    rw [data, passes]
    rfl
  · rw [data, mergeLayers_filter]
  · rintro ⟨layer, member, rfl, rfl⟩
    exact (genuine_of_mem found member).resolve_left some

end Decided

/-- A plain value among the options hides the tables that lie below it. -/
theorem options_hide_tables :
    let host : Host :=
      { environment := [("HOME", "/home/me"), ("OMPRENDER_RENDER__STRICT", "true"),
          ("OMPRENDER_EXTRA__A", "7")]
        files := ⟨[(["home", "me", ".config", "omprender", "config.toml"],
          .file "extra.b = 1\nrender.on_error = 'empty'\n")]⟩ }
    let selection : Selection := { overrides := some [("extra", .int 5)] }
    ∃ loaded, load host selection = .ok loaded ∧
      loaded.settings.data.get? ["extra"] = some (.int 5) ∧
      loaded.settings.data.get? ["extra", "b"] = none ∧
      loaded.settings.data.get? ["render", "strict"] = some (.bool true) ∧
      loaded.settings.data.get? ["render", "on_error"] = some (.string "empty") := by
  intro host selection
  have succeeds : (load host selection).toOption.isSome = true := by decide +kernel
  cases accepted : load host selection with
  | error fault => rw [accepted] at succeeds; cases succeeds
  | ok loaded =>
  have options : ∀ overrides, selection.overrides = some overrides →
      (Document.table overrides).Keyed := by
    intro overrides given
    obtain rfl := Option.some.inj given
    exact Document.keyed_nil.insert "extra" (Document.keyed_of_not_isTable rfl trivial)
  have law := (highest_settling_layer_decides options accepted).1
  have highest {path : List String} (settles : Table.Settles [("extra", .int 5)] path) :
      Decides host selection path .commandLine [("extra", .int 5)] :=
    ⟨rfl, settles, fun higher _ _ above => by cases higher <;> simp [Origin.rank] at above⟩
  have plain := (law ["extra"] (by simp)).1 _ _ (highest (.inl rfl))
  have blocks : Table.Blocks [("extra", .int 5)] ["extra", "b"] :=
    ⟨["extra"], ["b"], .int 5, rfl, by simp, rfl, rfl⟩
  have below := (law ["extra", "b"] (by simp)).1 _ _ (highest (.inr blocks))
  -- The options say nothing about the section, and the variables nothing about the other key.
  have silent (key : String) : ¬ Table.Settles [("extra", .int 5)] ["render", key] := by
    rw [Table.settles_cons_iff (by simp)]
    rintro ⟨value, ⟨⟩, -⟩
  let given : Table :=
    [("render", .table [("strict", .bool true)]), ("extra", .table [("a", .int 7)])]
  have quiet : ¬ given.Settles ["render", "on_error"] := by
    rw [Table.settles_cons_iff (by simp)]
    rintro ⟨value, ⟨⟩, other | ⟨inner, ⟨⟩, held | blocked⟩⟩
    · cases other
    · cases held
    · exact (Table.blocks_cons_iff.mp blocked).1 rfl
  let text := "extra.b = 1\nrender.on_error = 'empty'\n"
  let held : Table :=
    [("extra", .table [("b", .int 1)]), ("render", .table [("on_error", .string "empty")])]
  have nowhere : projectFile? host selection.start = none := by cbv
  have file : host.read host.settingsFile = .ok text := by cbv
  have document : Toml.read host.room text = .ok held := by cbv
  have fromVariables : Decides host selection ["render", "strict"] .environment given := by
    refine ⟨⟨rfl, by rfl⟩, .inl rfl, fun higher other given above => ?_⟩
    obtain rfl : higher = .commandLine := by
      cases higher <;> simp [Origin.rank] at above ⊢
    exact Option.some.inj given ▸ silent "strict"
  have fromFile : Decides host selection ["render", "on_error"] .user held := by
    refine ⟨⟨text, file, document⟩, .inl rfl, fun higher other given above => ?_⟩
    cases higher with
    | commandLine => exact Option.some.inj given ▸ silent "on_error"
    | environment => exact given.2 ▸ quiet
    | project =>
        obtain ⟨path, place, -⟩ := given
        rw [nowhere] at place
        cases place
    | user | builtin => simp [Origin.rank] at above
  have strict := (law ["render", "strict"] (by simp)).1 _ _ fromVariables
  have marker := (law ["render", "on_error"] (by simp)).1 _ _ fromFile
  exact ⟨loaded, rfl, plain.1 _ rfl rfl, below.2.2 blocks, strict.1 _ rfl rfl,
    marker.1 _ rfl rfl⟩

end Promptline.Settings
