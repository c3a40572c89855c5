import ScreenedSuite.Failure

/-! # Outcomes of steps in sequence

A computation in `Except` succeeds exactly when all of its parts do. Two computations agree when
both fail with the same failure or both succeed with related values, and agreement of the parts
carries over to the whole (`ScreenedSuite.Outcome.Agree.bind`).
-/

namespace ScreenedSuite.Outcome

variable {ε α β γ δ : Type}

/-- A sequence succeeds exactly when both of its parts do. -/
theorem bind_eq_ok_iff {first : Except ε α} {next : α → Except ε β} {value : β} :
    (first >>= next) = .ok value ↔ ∃ middle, first = .ok middle ∧ next middle = .ok value := by
  cases first with
  | error failure =>
      constructor
      · intro succeeded
        cases succeeded
      · rintro ⟨middle, absurdity, _⟩
        cases absurdity
  | ok middle =>
      constructor
      · intro succeeded
        exact ⟨middle, rfl, succeeded⟩
      · rintro ⟨other, same, succeeded⟩
        cases same
        exact succeeded

/-- Where a value is only put into another form, what succeeds has that form. -/
theorem map_eq_ok_iff {first : Except ε α} {form : α → β} {value : β} :
    (do let middle ← first; return form middle) = .ok value ↔
      ∃ middle, first = .ok middle ∧ form middle = value := by
  rw [bind_eq_ok_iff]
  simp only [pure, Except.pure, Except.ok.injEq]

/-- A sequence fails exactly when its first part does, or its second part after it. -/
theorem bind_eq_error_iff {first : Except ε α} {next : α → Except ε β} {failure : ε} :
    (first >>= next) = .error failure ↔
      first = .error failure ∨ ∃ middle, first = .ok middle ∧ next middle = .error failure := by
  cases first with
  | error other =>
      constructor
      · intro failed
        cases failed
        exact .inl rfl
      · rintro (failed | ⟨middle, absurdity, _⟩)
        · cases failed
          rfl
        · cases absurdity
  | ok middle =>
      constructor
      · intro failed
        exact .inr ⟨middle, rfl, failed⟩
      · rintro (absurdity | ⟨other, same, failed⟩)
        · cases absurdity
        · cases same
          exact failed

/-- Where a value is only put into another form, nothing else fails. -/
theorem map_eq_error_iff {first : Except ε α} {form : α → β} {failure : ε} :
    (do let middle ← first; return form middle) = .error failure ↔ first = .error failure := by
  rw [bind_eq_error_iff]
  constructor
  · rintro (failed | ⟨middle, _, absurdity⟩)
    · exact failed
    · cases absurdity
  · exact .inl

/-- Two outcomes agree when both fail with the same failure, or both succeed with related
values. -/
inductive Agree (related : α → β → Prop) : Except ε α → Except ε β → Prop
  | ok {left : α} {right : β} (values : related left right) : Agree related (.ok left) (.ok right)
  | error (failure : ε) : Agree related (.error failure) (.error failure)

/-- Agreement of the parts carries over to the sequence. -/
theorem Agree.bind {related : α → β → Prop} {after : γ → δ → Prop}
    {left : Except ε α} {right : Except ε β}
    {leftNext : α → Except ε γ} {rightNext : β → Except ε δ} (first : Agree related left right)
    (next : ∀ a b, related a b → Agree after (leftNext a) (rightNext b)) :
    Agree after (left >>= leftNext) (right >>= rightNext) := by
  cases first with
  | error failure => exact .error failure
  | ok values => exact next _ _ values

end ScreenedSuite.Outcome
