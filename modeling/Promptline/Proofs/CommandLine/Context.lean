import Promptline.Proofs.CommandLine.Output
import Promptline.Proofs.Context.Dump
import Promptline.Proofs.Document.Json

/-!
# Showing the context

The command that shows the context writes it as JSON.  A snapshot may give a count of any size, and
JSON is written with machine integers, so a context that has been accepted need not be one that can
be shown.  Nothing else can go wrong.
-/

namespace Promptline

namespace Context

open Json (Style Writes)

/-- The counts of a context, in the order in which its data gives them. -/
def Field.counts : List (Field .count) :=
  [ahead, behind, stashCount, precision, totalMemory, freeMemory]

theorem Field.mem_counts (field : Field .count) : field ∈ counts := by
  cases field <;> simp [counts]

/-- Every count that templates see fits an unsigned machine word. -/
def CountsFit (context : Context) : Prop :=
  ∀ field : Field .count, field.value context.seen < 2 ^ 64

instance (context : Context) : Decidable context.CountsFit :=
  decidable_of_iff (∀ field ∈ Field.counts, field.value context.seen < 2 ^ 64)
    ⟨fun fit field => fit field field.mem_counts, fun fit field _ => fit field⟩

/-- No data of a context lacks a form in JSON. -/
theorem isPlain_toDocument {context : Context} (unpublished : context.segments = []) :
    context.toDocument.isPlain = true := by
  simp only [toDocument, fields, segmentsValue, unpublished, Entries.mapValues, List.map_nil]
  simp only [Value.entriesToDocument, Value.toDocument, Value.leafDocument, Record.toDocument,
    Record.fields, Git.fields, System.fields]
  exact congrArg (· && true) (Document.entriesArePlain_mapValues_string context.env.entries)

/-- The integers in the data of a context are the counts that templates see. -/
theorem integers_toDocument {context : Context} (unpublished : context.segments = []) :
    context.toDocument.integers = Field.counts.map (Field.value context.seen) := by
  have settings := Document.entryIntegers_mapValues_string context.env.entries
  simp only [toDocument, fields, segmentsValue, unpublished, Entries.mapValues, List.map_nil,
    Value.entriesToDocument, Value.toDocument, Value.leafDocument, Document.integers,
    Document.entryIntegers] at settings ⊢
  rw [settings]
  rfl

theorem isWord_iff_of_nonneg {n : Int} (nonneg : 0 ≤ n) : Json.isWord n = true ↔ n < 2 ^ 64 := by
  have low : (Nat.pow 2 63 : Int) = 2 ^ 63 := rfl
  have high : (Nat.pow 2 64 : Int) = 2 ^ 64 := rfl
  rw [Json.isWord, Bool.and_eq_true, decide_eq_true_eq, decide_eq_true_eq, low, high]
  omega

/-- A context without published fields and without negative counts is written exactly if its counts
fit. -/
theorem admitted_iff_countsFit {context : Context} (consistent : context.Consistent)
    (unpublished : context.segments = []) :
    (∀ n ∈ context.toDocument.integers, Style.indented.Admits n) ↔ context.CountsFit := by
  have admits (field : Field .count) :
      Style.indented.Admits (field.value context.seen) ↔ field.value context.seen < 2 ^ 64 := by
    rw [← isWord_iff_of_nonneg (consistent.seen.nonneg field), Style.Admits]
    exact or_iff_right (by decide)
  rw [integers_toDocument unpublished, List.forall_mem_map]
  exact ⟨fun all field => (admits field).mp (all field field.mem_counts),
    fun fit field _ => (admits field).mpr (fit field)⟩

/-- A context that a snapshot has made of the stand-in context is written exactly if its counts
fit; otherwise an integer is refused. -/
theorem write_merged {now : Moment} {data : Document} {context : Context}
    (accepted : (sample now).merge data = .ok context) :
    ((∃ text, Json.write .indented context.toDocument = .ok text) ↔ context.CountsFit) ∧
      (¬ context.CountsFit →
        Json.write .indented context.toDocument = .error .beyondWord) := by
  have consistent : context.Consistent := (consistent_sample now).merge accepted
  have unpublished : context.segments = [] := segments_merge accepted
  have writes := Json.writes_write .indented (isPlain_toDocument unpublished)
  have fits := admitted_iff_countsFit consistent unpublished
  exact ⟨writes.ok_iff.trans fits, fun beyond => writes.eq_error_iff.mpr (mt fits.mp beyond)⟩

/-- A snapshot file that is accepted is a snapshot that is accepted. -/
theorem merge_of_load {host : Host} {path : FilePath} {base context : Context}
    (loaded : base.load host path = .ok context) :
    ∃ data, base.merge data = .ok context := by
  have merges {data : Document}
      (accepted : (base.merge data).mapError SnapshotFileFault.refused = .ok context) :
      ∃ data, base.merge data = .ok context := by
    refine ⟨data, ?_⟩
    cases merged : base.merge data with
    | ok same => rw [merged] at accepted; exact congrArg Except.ok (Except.ok.inj accepted)
    | error fault => rw [merged] at accepted; cases accepted
  unfold load at loaded
  split at loaded
  · cases loaded
  · exact merges loaded
  · split at loaded
    · cases loaded
    · exact merges loaded

end Context

namespace CommandLine

variable {launch : Launch}

theorem Surroundings.showContext_eq (around : Surroundings) {snapshot : Option FilePath}
    {context : Context} (seen : contextOf around.host snapshot = .ok context) :
    around.showContext snapshot = .ofDocument context.toDocument := by
  unfold Surroundings.showContext
  rw [seen]

/-- The command that shows the context ends and prints as writing the context goes. -/
theorem Launch.run_context {snapshot : Option FilePath} {context : Context}
    (asked : launch.command? = some (.context snapshot))
    (seen : contextOf launch.host snapshot = .ok context) :
    launch.run.ending = (Report.ofDocument context.toDocument).ending ∧
      launch.run.output = Run.outputOf (Report.ofDocument context.toDocument).printed := by
  have performed : launch.around.performArguments launch.arguments =
      .ofDocument context.toDocument := by
    rw [Launch.performArguments_eq asked, Surroundings.perform]
    exact launch.around.showContext_eq seen
  rw [Launch.run_ending, Launch.run_output, performed]
  exact ⟨rfl, rfl⟩

/-- A context that an accepted snapshot has made of the stand-in context can be shown exactly if no
count in it is too large for a machine word; a count that is too large is what stands in the way
otherwise.  So a run that shows the context of an accepted snapshot file prints it and succeeds if
its counts fit, and prints nothing and fails on the integer if not. -/
theorem context_is_shown_iff_counts_fit {now : Moment} {data : Document} {context : Context}
    (accepted : (Context.sample now).merge data = .ok context) :
    ((∃ text, Json.write .indented context.toDocument = .ok text) ↔ context.CountsFit) ∧
      (¬ context.CountsFit →
        Json.write .indented context.toDocument = .error .beyondWord) ∧
      ∀ (launch : Launch) (path : FilePath),
        launch.command? = some (.context (some path)) →
        (Context.sample launch.host.now).load launch.host path = .ok context →
        (context.CountsFit → launch.run.ending = .success ∧
          ∃ text, Json.write .indented context.toDocument = .ok text ∧
            launch.run.output = Run.outputOf [text]) ∧
        (¬ context.CountsFit → launch.run.ending = .unwritable .beyondWord ∧
          launch.run.output = Run.outputOf []) := by
  obtain ⟨written, beyond⟩ := Context.write_merged accepted
  refine ⟨written, beyond, fun launch path asked loaded => ?_⟩
  have seen : contextOf launch.host (some path) = .ok context := by
    unfold contextOf
    simp only [loaded]
    rfl
  obtain ⟨ending, output⟩ := Launch.run_context asked seen
  refine ⟨fun fit => ?_, fun large => ?_⟩
  · obtain ⟨text, shown⟩ := written.mpr fit
    simp only [Report.ofDocument, shown] at ending output
    exact ⟨ending, text, shown, output⟩
  · simp only [Report.ofDocument, beyond large] at ending output
    exact ⟨ending, output⟩

/-- The largest count that can be shown, and the next one, in snapshot files. -/
theorem memory_is_shown_up_to_a_word :
    let path : FilePath := .ofString "c.toml"
    let host (memory : String) : Host :=
      { files := ⟨[(path.parts, .file ("[System]\nPhysicalTotalMemory = " ++ memory ++ "\n"))]⟩ }
    let run (memory : String) := Run.ofArguments (host memory) ["context", "--context", "c.toml"]
    (run "18446744073709551615").ending = .success ∧
      (run "18446744073709551616").ending = .unwritable .beyondWord ∧
      (run "18446744073709551616").output = "" := by
  intro path host run
  -- The settings are the built-in ones, and the file is accepted.
  have ends (memory : String) (fit : Bool)
      (starts : renderingOf? (Run.startOf (host memory) {}) = some {})
      (accepted : ((Context.sample (host memory).now).load (host memory) path).toOption.map
        (fun context => decide context.CountsFit) = some fit) :
      (fit = true → (run memory).ending = .success) ∧
        (fit = false → (run memory).ending = .unwritable .beyondWord ∧
          (run memory).output = "") := by
    have helpless : asksForHelp ["context", "--context", "c.toml"] = false := by decide
    have read : RunOptions.read ["context", "--context", "c.toml"] =
        .ok ({}, ["context", "--context", "c.toml"]) := by
      decide +kernel
    obtain ⟨launch, hosted, lined, arguments, -⟩ := Launch.exists_launch helpless read starts
    have asked : launch.command? = some (.context (some path)) := by
      rw [Launch.command?, arguments]
      decide +kernel
    have same : launch.run = run memory := by rw [Launch.run, hosted, lined]
    cases loaded : (Context.sample (host memory).now).load (host memory) path with
    | error fault => rw [loaded] at accepted; cases accepted
    | ok context =>
        rw [loaded] at accepted
        obtain ⟨data, merged⟩ := Context.merge_of_load loaded
        obtain ⟨-, -, runs⟩ := context_is_shown_iff_counts_fit merged
        obtain ⟨succeeds, fails⟩ := runs launch path asked (by rw [hosted]; exact loaded)
        rw [same] at succeeds fails
        have fits : decide context.CountsFit = fit := Option.some.inj accepted
        exact ⟨fun holds => (succeeds (of_decide_eq_true (fits.trans holds))).1,
          fun not => fails (of_decide_eq_false (fits.trans not))⟩
  exact ⟨(ends _ true (by decide +kernel) (by decide +kernel)).1 rfl,
    (ends _ false (by decide +kernel) (by decide +kernel)).2 rfl⟩

/-- A snapshot is accepted that gives the context an amount of memory beyond a machine word, and
the context cannot be shown. -/
theorem accepted_snapshots_are_not_always_shown :
    let now : Moment := ⟨2024, 1, 2, 3, 4, 5, 0, none, false⟩
    let data : Document :=
      .table [("System", .table [("PhysicalTotalMemory", .int 18446744073709551616)])]
    ∃ context, (Context.sample now).merge data = .ok context ∧
      ¬ ∃ text, Json.write .indented context.toDocument = .ok text := by
  intro now data
  refine ⟨_, rfl, ?_⟩
  rintro ⟨text, written⟩
  cases written

end CommandLine

end Promptline
