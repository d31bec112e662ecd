/-!
# Computations that may fail

What is known of the parts of a computation whose answer is known, and computations whose answers
look alike.
-/

namespace Promptline

section Inversion

variable {ε α β : Type} {first : Except ε α} {next : α → Except ε β}

theorem bind_eq_ok_iff {result : β} :
    first >>= next = .ok result ↔ ∃ middle, first = .ok middle ∧ next middle = .ok result := by
  cases first with
  | ok middle => simp [bind, Except.bind]
  | error fault => simp [bind, Except.bind]

theorem bind_eq_error_iff {fault : ε} :
    first >>= next = .error fault ↔
      first = .error fault ∨ ∃ middle, first = .ok middle ∧ next middle = .error fault := by
  cases first with
  | ok middle => simp [bind, Except.bind]
  | error fault => simp [bind, Except.bind]

theorem map_eq_ok_iff {f : α → β} {result : β} :
    first.map f = .ok result ↔ ∃ middle, first = .ok middle ∧ f middle = result := by
  cases first with
  | ok middle => simp [Except.map]
  | error fault => simp [Except.map]

theorem map_eq_error_iff {f : α → β} {fault : ε} :
    first.map f = .error fault ↔ first = .error fault := by
  cases first with
  | ok middle => simp [Except.map]
  | error fault => simp [Except.map]

end Inversion

section Alike

variable {ε α β γ δ : Type} {see : α → β} {first second : Except ε α}

/-- Answers that look alike are the same error, or values that look alike. -/
theorem error_or_ok_of_map_eq (alike : first.map see = second.map see) :
    (∃ fault, first = .error fault ∧ second = .error fault) ∨
      ∃ value other, first = .ok value ∧ second = .ok other ∧ see value = see other := by
  cases first with
  | error fault =>
      cases second with
      | error other => exact .inl ⟨fault, rfl, congrArg Except.error (Except.error.inj alike).symm⟩
      | ok value => cases alike
  | ok value =>
      cases second with
      | error fault => cases alike
      | ok other => exact .inr ⟨value, other, rfl, rfl, Except.ok.inj alike⟩

/-- Computations that look alike may be continued by continuations that look alike. -/
theorem map_bind_congr {view : γ → δ} (alike : first.map see = second.map see)
    {next other : α → Except ε γ}
    (continues : ∀ a b, see a = see b → (next a).map view = (other b).map view) :
    (first >>= next).map view = (second >>= other).map view := by
  obtain ⟨fault, rfl, rfl⟩ | ⟨a, b, rfl, rfl, same⟩ := error_or_ok_of_map_eq alike
  · rfl
  · exact continues a b same

end Alike

end Promptline
