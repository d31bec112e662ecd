import Promptline.Evaluate

/-!
# What expressions see of the repository

Outside a repository every field of the repository record reads as its zero, whatever the record
holds.  Here a record is replaced by what templates see of it, and every built-in function and every
expression is shown to tell no difference.
-/

namespace Promptline

@[simp]
theorem Git.visible_visible (git : Git) : git.visible.visible = git.visible := by
  cases inside : git.isRepo with
  | true => simp [visible, inside]
  | false => rw [visible_of_isRepo_eq_false inside]; rfl

namespace Value

/-- A repository record as templates see it, and any other value as it is. -/
def seen : Value → Value
  | .record (.git git) => .record (.git git.visible)
  | value => value

theorem seen_of_ne_git {value : Value} (other : ∀ git, value ≠ .record (.git git)) :
    value.seen = value := by
  unfold seen
  split
  · next git => exact absurd rfl (other git)
  · rfl

@[simp]
theorem seen_seen (value : Value) : value.seen.seen = value.seen := by
  cases value with
  | record r => cases r <;> simp [seen]
  | _ => rfl

/-- Two values look alike only if they are equal or repository records that look alike. -/
theorem eq_or_git_of_seen_eq {first second : Value} (alike : first.seen = second.seen) :
    first = second ∨
      ∃ git other, first = .record (.git git) ∧ second = .record (.git other) ∧
        git.visible = other.visible := by
  by_cases left : ∃ git, first = .record (.git git)
  · obtain ⟨git, rfl⟩ := left
    by_cases right : ∃ other, second = .record (.git other)
    · obtain ⟨other, rfl⟩ := right
      simp only [seen, Value.record.injEq, Record.git.injEq] at alike
      exact .inr ⟨git, other, rfl, rfl, alike⟩
    · rw [seen_of_ne_git fun other same => right ⟨other, same⟩] at alike
      exact absurd ⟨git.visible, alike.symm⟩ right
  · rw [seen_of_ne_git fun git same => left ⟨git, same⟩] at alike
    by_cases right : ∃ other, second = .record (.git other)
    · obtain ⟨other, rfl⟩ := right
      exact absurd ⟨other.visible, alike⟩ left
    · rw [seen_of_ne_git fun other same => right ⟨other, same⟩] at alike
      exact .inl alike

/-- A function that cannot tell a value from what templates see of it gives the same for values
that look alike. -/
theorem congr_of_seen {α : Type} {f : Value → α} (blind : ∀ value, f value.seen = f value)
    {first second : Value} (alike : first.seen = second.seen) : f first = f second := by
  rw [← blind first, alike, blind second]

section Blind

variable (value other : Value) (function : String)

@[simp]
theorem isTruthy_seen : value.seen.isTruthy = value.isTruthy := by
  unfold seen
  split <;> rfl

@[simp]
theorem text_seen : value.seen.text = value.text := by
  unfold seen
  split <;> rfl

@[simp]
theorem asNumber_seen : value.seen.asNumber function = value.asNumber function := by
  unfold seen
  split <;> rfl

@[simp]
theorem asInteger_seen : value.seen.asInteger function = value.asInteger function := by
  rw [asInteger, asInteger, asNumber_seen]

@[simp]
theorem asFloat_seen : value.seen.asFloat function = value.asFloat function := by
  rw [asFloat, asFloat, asNumber_seen]

@[simp]
theorem asText_seen : value.seen.asText function = value.asText function := by
  unfold seen
  split <;> rfl

end Blind

end Value

namespace Comparison

theorem pair_seen_left (function : String) (a b : Value) :
    pair function a.seen b = pair function a b := by
  unfold Value.seen
  split
  · cases b <;> rfl
  · rfl

theorem pair_seen_right (function : String) (a b : Value) :
    pair function a b.seen = pair function a b := by
  unfold Value.seen
  split
  · cases a <;> rfl
  · rfl

@[simp]
theorem pair_seen (function : String) (a b : Value) :
    pair function a.seen b.seen = pair function a b := by
  rw [pair_seen_left, pair_seen_right]

@[simp]
theorem same_seen (function : String) (a b : Value) :
    same function a.seen b.seen = same function a b := by
  rw [same, same, pair_seen]

theorem ne_seen (a b : Value) : ne a.seen b.seen = ne a b := by
  rw [ne, ne, same_seen]

@[simp]
theorem eqAny_seen (first : Value) (others : List Value) :
    eqAny first.seen (others.map Value.seen) = eqAny first others := by
  induction others with
  | nil => rfl
  | cons other rest ih => rw [List.map_cons, eqAny, eqAny, same_seen, ih]

@[simp]
theorem ordered_seen (function : String) (wanted : Ordering → Bool) (a b : Value) :
    ordered function wanted a.seen b.seen = ordered function wanted a b := by
  rw [ordered, ordered, pair_seen]

end Comparison

namespace Arithmetic

theorem combine_seen (function : String) (ofInts : Int → Int → Int)
    (ofFloats : Float → Float → Float) (a b : Value) :
    combine function ofInts ofFloats a.seen b.seen = combine function ofInts ofFloats a b := by
  rw [combine, combine, Value.asNumber_seen, Value.asNumber_seen]

theorem div_seen (a b : Value) : div a.seen b.seen = div a b := by
  rw [div, div, Value.asFloat_seen, Value.asFloat_seen]

theorem mod_seen (a b : Value) : mod a.seen b.seen = mod a b := by
  rw [mod, mod, Value.asInteger_seen, Value.asInteger_seen]

theorem round_seen (a b : Value) : round a.seen b.seen = round a b := by
  rw [round, round, Value.asFloat_seen, Value.asInteger_seen]

theorem float64_seen (a : Value) : float64 a.seen = float64 a := by
  unfold Value.seen
  split <;> rfl

theorem int_seen (a : Value) : int a.seen = int a := by
  unfold Value.seen
  split <;> rfl

end Arithmetic

namespace Textual

theorem len_seen (value : Value) : len value.seen = len value := by
  unfold Value.seen
  split <;> rfl

theorem lower_seen (s : Value) : lower s.seen = lower s := by
  rw [lower, lower, Value.asText_seen]

theorem upper_seen (s : Value) : upper s.seen = upper s := by
  rw [upper, upper, Value.asText_seen]

theorem trim_seen (s : Value) : trim s.seen = trim s := by
  rw [trim, trim, Value.asText_seen]

theorem replace_seen (old new s : Value) :
    replace old.seen new.seen s.seen = replace old new s := by
  rw [replace, replace, Value.asText_seen, Value.asText_seen, Value.asText_seen]

theorem contains_seen (part s : Value) : contains part.seen s.seen = contains part s := by
  rw [contains, contains, Value.asText_seen, Value.asText_seen]

/-- The only built-in function that may hand a record on hands on what templates see of it. -/
theorem default_seen (fallback value : Value) :
    (default fallback.seen value.seen).seen = (default fallback value).seen := by
  rw [default, default, Value.isTruthy_seen]
  cases value.isTruthy <;> simp

end Textual

/-- A function that gives the same, as far as templates see, for operands that look alike. -/
def Body.Discreet : Body → Prop
  | .eager apply =>
      ∀ args, (apply (args.map Value.seen)).map Value.seen = (apply args).map Value.seen
  | .shortCircuit _ => True

namespace Function

theorem unary_discreet {f : Value → Except Fault Value} (blind : ∀ a, f a.seen = f a) :
    (unary f).body.Discreet := by
  intro args
  match args with
  | [] => rfl
  | [a] => exact congrArg (Except.map Value.seen) (blind a)
  | _ :: _ :: _ => rfl

theorem binary_discreet {f : Value → Value → Except Fault Value}
    (discreet : ∀ a b, (f a.seen b.seen).map Value.seen = (f a b).map Value.seen) :
    (binary f).body.Discreet := by
  intro args
  match args with
  | [] => rfl
  | [_] => rfl
  | [a, b] => exact discreet a b
  | _ :: _ :: _ :: _ => rfl

theorem binary_discreet_of_blind {f : Value → Value → Except Fault Value}
    (blind : ∀ a b, f a.seen b.seen = f a b) : (binary f).body.Discreet :=
  binary_discreet fun a b => congrArg (Except.map Value.seen) (blind a b)

theorem test_discreet {f : Value → Value → Except Fault Bool}
    (blind : ∀ a b, f a.seen b.seen = f a b) : (test f).body.Discreet :=
  binary_discreet_of_blind fun a b => by rw [blind a b]

theorem ternary_discreet {f : Value → Value → Value → Except Fault Value}
    (blind : ∀ a b c, f a.seen b.seen c.seen = f a b c) : (ternary f).body.Discreet := by
  intro args
  match args with
  | [] => rfl
  | [_] => rfl
  | [_, _] => rfl
  | [a, b, c] => exact congrArg (Except.map Value.seen) (blind a b c)
  | _ :: _ :: _ :: _ :: _ => rfl

theorem equality_discreet : equality.body.Discreet := by
  intro args
  cases args with
  | nil => rfl
  | cons first others =>
      simp only [List.map_cons, Comparison.eqAny_seen]

end Function

namespace Registry

/-- No function of the registry can tell values that look alike. -/
def Discreet (registry : Registry) : Prop :=
  ∀ entry ∈ registry.functions, entry.2.body.Discreet

/-- No built-in function can tell values that look alike. -/
theorem builtin_discreet : builtin.Discreet := by
  simp only [Discreet, builtin, List.forall_mem_cons]
  exact ⟨Function.binary_discreet_of_blind Arithmetic.round_seen,
    Function.binary_discreet_of_blind Arithmetic.div_seen,
    Function.binary_discreet_of_blind (Arithmetic.combine_seen "sub" _ _),
    Function.binary_discreet_of_blind (Arithmetic.combine_seen "add" _ _),
    Function.binary_discreet_of_blind (Arithmetic.combine_seen "mul" _ _),
    Function.binary_discreet_of_blind Arithmetic.mod_seen,
    Function.unary_discreet Arithmetic.float64_seen,
    Function.unary_discreet Arithmetic.int_seen,
    Function.equality_discreet,
    Function.test_discreet Comparison.ne_seen,
    Function.test_discreet (Comparison.ordered_seen "lt" _),
    Function.test_discreet (Comparison.ordered_seen "le" _),
    Function.test_discreet (Comparison.ordered_seen "gt" _),
    Function.test_discreet (Comparison.ordered_seen "ge" _),
    trivial,
    trivial,
    Function.unary_discreet fun a => by rw [Value.isTruthy_seen],
    Function.unary_discreet Textual.len_seen,
    Function.unary_discreet Textual.lower_seen,
    Function.unary_discreet Textual.upper_seen,
    Function.unary_discreet Textual.trim_seen,
    Function.ternary_discreet Textual.replace_seen,
    Function.binary_discreet_of_blind Textual.contains_seen,
    Function.binary_discreet fun a b => congrArg Except.ok (Textual.default_seen a b),
    fun _ absent => absurd absent List.not_mem_nil⟩

end Registry

end Promptline
