import Mathlib.Data.Finset.Card
import Mathlib.Data.List.DropRight
import Promptline.Proofs.Resolve.Memory

/-!
# Sessions that share a cache

Any number of resolvers may share one parse cache, and lookups and clears may come between their
resolutions.  The cache shows in no answer, and its size counts the distinct texts that were looked
up since the last clear and can be kept.
-/

namespace Promptline

namespace Entries

variable {α : Type}

/-- The names entered are exactly those with a property, each entered once. -/
structure Lists (entries : Entries α) (p : String → Prop) : Prop where
  /-- No name is entered twice. -/
  nodup : (names entries).Nodup
  /-- The names that are entered. -/
  mem_names_iff : ∀ name, name ∈ names entries ↔ p name

namespace Lists

variable {entries : Entries α} {p q : String → Prop} {name : String}

theorem congr (lists : entries.Lists p) (same : ∀ name, p name ↔ q name) : entries.Lists q :=
  ⟨lists.nodup, fun name => (lists.mem_names_iff name).trans (same name)⟩

theorem of_get? (lists : entries.Lists p) {value : α} (known : get? name entries = some value) :
    p name := by
  apply (lists.mem_names_iff name).mp
  by_contra absent
  simp [get?_eq_none_iff.mpr absent] at known

theorem insert (lists : entries.Lists p) (value : α) (unknown : get? name entries = none) :
    (Entries.insert name value entries).Lists fun other => p other ∨ other = name := by
  have absent : name ∉ names entries := get?_eq_none_iff.mp unknown
  constructor
  · rw [names_insert value unknown, ← List.concat_eq_append]
    exact lists.nodup.concat absent
  · intro other
    rw [names_insert value unknown, List.mem_append, lists.mem_names_iff, List.mem_singleton]

theorem length_eq [DecidablePred p] (lists : entries.Lists p) {sources : List String}
    (listed : ∀ name, p name → name ∈ sources) :
    entries.length = (sources.filter p).toFinset.card := by
  have same : (names entries).toFinset = (sources.filter p).toFinset := by
    ext name
    rw [List.mem_toFinset, List.mem_toFinset, lists.mem_names_iff, List.mem_filter]
    constructor
    · intro holds
      exact ⟨listed name holds, by simpa using holds⟩
    · rintro ⟨-, holds⟩
      simpa using holds
  rw [← same, List.toFinset_card_of_nodup lists.nodup, names, List.length_map]

end Lists

end Entries

namespace Cache

/-- The cache holds these texts, each once, except expressions that cannot be kept. -/
structure Holds (cache : Cache) (templates expressions : List String) : Prop where
  /-- The templates that are held. -/
  templates : cache.templates.Lists (· ∈ templates)
  /-- The expressions that are held. -/
  expressions : cache.expressions.Lists fun source =>
    source ∈ expressions ∧ Expression.isKept source = true

theorem holds_empty : Holds {} [] [] := by
  refine ⟨⟨?_, ?_⟩, ⟨?_, ?_⟩⟩ <;> simp [Entries.names]

theorem Holds.learn {cache : Cache} {templates expressions : List String}
    (holds : cache.Holds templates expressions) (source : String) :
    (cache.learn source).Holds templates (expressions ++ [source]) := by
  refine ⟨by simpa using holds.templates, ?_⟩
  cases known : Entries.get? source cache.expressions with
  | some entry =>
      have held := holds.expressions.of_get? known
      rw [learn_of_known known]
      refine holds.expressions.congr fun other => ?_
      rw [List.mem_append, List.mem_singleton]
      constructor
      · rintro ⟨listed, kept⟩
        exact ⟨.inl listed, kept⟩
      · rintro ⟨listed | rfl, kept⟩
        · exact ⟨listed, kept⟩
        · exact held
  | none =>
      cases kept : Expression.kept? source with
      | none =>
          have dropped : Expression.isKept source = false := by simp [Expression.isKept, kept]
          rw [learn_of_not_kept known kept]
          refine holds.expressions.congr fun other => ?_
          rw [List.mem_append, List.mem_singleton]
          constructor
          · rintro ⟨listed, remains⟩
            exact ⟨.inl listed, remains⟩
          · rintro ⟨listed | rfl, remains⟩
            · exact ⟨listed, remains⟩
            · simp [dropped] at remains
      | some entry =>
          have remembered : Expression.isKept source = true := by simp [Expression.isKept, kept]
          rw [learn_of_unknown known, kept]
          refine (holds.expressions.insert entry known).congr fun other => ?_
          rw [List.mem_append, List.mem_singleton]
          constructor
          · rintro (⟨listed, remains⟩ | rfl)
            · exact ⟨.inl listed, remains⟩
            · exact ⟨.inr rfl, remembered⟩
          · rintro ⟨listed | rfl, remains⟩
            · exact .inl ⟨listed, remains⟩
            · exact .inr rfl

theorem Holds.learnAll {cache : Cache} {templates expressions : List String}
    (holds : cache.Holds templates expressions) (sources : List String) :
    (cache.learnAll sources).Holds templates (expressions ++ sources) := by
  induction sources generalizing cache expressions with
  | nil => simpa [Cache.learnAll] using holds
  | cons source rest ih => simpa [Cache.learnAll] using ih (holds.learn source)

theorem Holds.learnTemplate {cache : Cache} {templates expressions : List String}
    (holds : cache.Holds templates expressions) (source : String) :
    (cache.learnTemplate source).Holds (templates ++ [source]) expressions := by
  cases known : Entries.get? source cache.templates with
  | some parsed =>
      have held := holds.templates.of_get? known
      rw [learnTemplate_of_known known]
      refine ⟨holds.templates.congr fun other => ?_, holds.expressions⟩
      rw [List.mem_append, List.mem_singleton]
      constructor
      · exact .inl
      · rintro (listed | rfl)
        · exact listed
        · exact held
  | none =>
      rw [learnTemplate_of_unknown known]
      refine ⟨(holds.templates.insert _ known).congr fun other => ?_, holds.expressions⟩
      rw [List.mem_append, List.mem_singleton]

/-- A cache counts the distinct texts that it holds. -/
theorem Holds.size_eq {cache : Cache} {templates expressions : List String}
    (holds : cache.Holds templates expressions) :
    cache.size =
      templates.toFinset.card + (expressions.filter Expression.isKept).toFinset.card := by
  have held_templates := holds.templates.length_eq fun _ member => member
  have held_expressions := holds.expressions.length_eq fun _ member => member.1
  rw [size, held_templates, held_expressions, Nat.add_comm]
  congr 2 <;> ext source <;> simp

end Cache

namespace Session

/-- One use of a shared cache. -/
inductive Step
  /-- Resolve a template; each resolver has its own functions and marker, each resolution its own
  scope and segment. -/
  | resolve (pass : Pass) (marker : ErrorMarker) (template : String)
  /-- Look an expression up. -/
  | expression (source : String)
  /-- Look a template up. -/
  | template (source : String)
  /-- Forget everything. -/
  | clear

/-- What a step gives back. -/
inductive Answer
  /-- The text and the issues, or the integer that is too long; and the issues reported so far. -/
  | resolution (answer : Except DigitLimit Resolution) (reported : List Issue)
  /-- The expression, or why the text is none. -/
  | expression (answer : Except ExpressionFault Expression)
  /-- The parsed template. -/
  | template (parsed : Template.Parsed)
  /-- Nothing. -/
  | cleared

namespace Step

/-- Take a step with a cache. -/
def perform (cache : Cache) : Step → Answer × Cache
  | resolve pass marker source =>
      let outcome := pass.resolve marker source cache
      (.resolution outcome.answer outcome.reported, outcome.cache)
  | expression source =>
      let (answer, after) := cache.expression source
      (.expression answer, after)
  | template source =>
      let (parsed, after) := cache.template source
      (.template parsed, after)
  | clear => (.cleared, {})

/-- What a step gives back with a new cache. -/
def alone (step : Step) : Answer :=
  (step.perform {}).1

/-- Whether a step forgets everything. -/
def isClear : Step → Bool
  | clear => true
  | _ => false

/-- The template texts that a step looks up. -/
def templateTexts : Step → List String
  | resolve _ _ source => [source]
  | expression _ => []
  | template source => [source]
  | clear => []

/-- The expression texts that a step looks up, in order. -/
def expressionTexts : Step → List String
  | resolve pass _ source => (pass.transcript source).lookups
  | expression source => [source]
  | template _ => []
  | clear => []

/-- With a sound cache a step gives what it gives with a new one. -/
theorem perform_fst (step : Step) {cache : Cache} (sound : cache.Sound) :
    (step.perform cache).1 = step.alone := by
  cases step with
  | resolve pass marker source =>
      simp only [alone, perform, pass.resolve_eq marker source sound,
        pass.resolve_eq marker source Cache.sound_empty]
  | expression source =>
      simp only [alone, perform, sound.expression_eq source,
        Cache.sound_empty.expression_eq source]
  | template source =>
      simp only [alone, perform, sound.template_eq source, Cache.sound_empty.template_eq source]
  | clear => rfl

theorem perform_sound (step : Step) {cache : Cache} (sound : cache.Sound) :
    (step.perform cache).2.Sound := by
  cases step with
  | resolve pass marker source =>
      simp only [perform, pass.resolve_eq marker source sound]
      exact (sound.learnTemplate source).learnAll _
  | expression source => exact sound.learn source
  | template source => exact sound.learnTemplate source
  | clear => exact Cache.sound_empty

/-- A step other than a clear adds the texts that it looks up. -/
theorem perform_holds {step : Step} (kept : step.isClear = false) {cache : Cache}
    (sound : cache.Sound) {templates expressions : List String}
    (holds : cache.Holds templates expressions) :
    (step.perform cache).2.Holds (templates ++ step.templateTexts)
      (expressions ++ step.expressionTexts) := by
  cases step with
  | resolve pass marker source =>
      simp only [perform, pass.resolve_eq marker source sound]
      exact (holds.learnTemplate source).learnAll _
  | expression source =>
      rw [templateTexts, List.append_nil]
      exact holds.learn source
  | template source =>
      rw [expressionTexts, List.append_nil]
      exact holds.learnTemplate source
  | clear => contradiction

end Step

/-- The cache after steps that start with a new one. -/
def cacheAfter (steps : List Step) : Cache :=
  steps.foldl (fun cache step => (step.perform cache).2) {}

/-- The steps after the last clear. -/
def sinceClear (steps : List Step) : List Step :=
  steps.rtakeWhile fun step => !step.isClear

/-- The number of distinct template texts and of distinct expression texts that were looked up
since the last clear; an expression counts if parsing it ends in an expression or a parse error. -/
def distinctTexts (steps : List Step) : Nat :=
  ((sinceClear steps).flatMap Step.templateTexts).toFinset.card +
    (((sinceClear steps).flatMap Step.expressionTexts).filter Expression.isKept).toFinset.card

@[simp]
theorem cacheAfter_concat (past : List Step) (step : Step) :
    cacheAfter (past ++ [step]) = (step.perform (cacheAfter past)).2 := by
  simp [cacheAfter, List.foldl_append]

theorem sinceClear_concat (past : List Step) (step : Step) :
    sinceClear (past ++ [step]) = if step.isClear then [] else sinceClear past ++ [step] := by
  cases cleared : step.isClear with
  | true => simp [sinceClear, cleared]
  | false => simp [sinceClear, cleared]

theorem cacheAfter_sound (steps : List Step) : (cacheAfter steps).Sound := by
  induction steps using List.reverseRecOn with
  | nil => exact Cache.sound_empty
  | append_singleton past step ih =>
      rw [cacheAfter_concat]
      exact step.perform_sound ih

/-- After any steps the cache holds what was looked up since the last clear. -/
theorem cacheAfter_holds (steps : List Step) :
    (cacheAfter steps).Holds ((sinceClear steps).flatMap Step.templateTexts)
      ((sinceClear steps).flatMap Step.expressionTexts) := by
  induction steps using List.reverseRecOn with
  | nil => exact Cache.holds_empty
  | append_singleton past step ih =>
      rw [cacheAfter_concat, sinceClear_concat]
      cases cleared : step.isClear with
      | true =>
          cases step with
          | clear => exact Cache.holds_empty
          | _ => contradiction
      | false =>
          simpa [List.flatMap_append] using
            Step.perform_holds cleared (cacheAfter_sound past) ih

theorem cacheAfter_size (steps : List Step) : (cacheAfter steps).size = distinctTexts steps :=
  (cacheAfter_holds steps).size_eq

/-- The answer to each step, with the size of the cache after it. -/
def run (cache : Cache) : List Step → List (Answer × Nat)
  | [] => []
  | step :: rest =>
      ((step.perform cache).1, (step.perform cache).2.size) :: run (step.perform cache).2 rest

theorem run_cacheAfter (past steps : List Step) :
    run (cacheAfter past) steps =
      steps.mapIdx fun position step =>
        (step.alone, distinctTexts (past ++ steps.take (position + 1))) := by
  induction steps generalizing past with
  | nil => rfl
  | cons step rest ih =>
      rw [run, step.perform_fst (cacheAfter_sound past), ← cacheAfter_concat,
        cacheAfter_size, ih (past ++ [step]), List.mapIdx_cons]
      simp [List.append_assoc]

/-- The cache is transparent: in every session each step gives what it gives with a new cache, and
after each step the cache counts the distinct texts that were looked up since the last clear. -/
theorem run_eq_mapIdx_alone (steps : List Step) :
    run {} steps =
      steps.mapIdx fun position step =>
        (step.alone, distinctTexts (steps.take (position + 1))) :=
  run_cacheAfter [] steps

end Session

end Promptline
