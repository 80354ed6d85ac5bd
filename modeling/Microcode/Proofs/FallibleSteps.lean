import Mathlib.Data.List.Forall2

/-!
# Steps that can fail

A sequence of steps succeeds exactly if each step does, on the result of the one before.
The laws below take such sequences apart.
-/

namespace Microcode

/-- A step behind another succeeds exactly if both do. -/
theorem bind_eq_ok_iff {ε α β : Type} (first : Except ε α) (next : α → Except ε β)
    (result : β) :
    (first >>= next) = .ok result ↔ ∃ value, first = .ok value ∧ next value = .ok result := by
  cases first <;> simp [bind, Except.bind]

/-- A sequence of two steps fails if the first one does, or the second one on its result. -/
theorem bind_eq_error_iff {ε α β : Type} (first : Except ε α) (next : α → Except ε β)
    (cause : ε) :
    (first >>= next) = .error cause ↔
      first = .error cause ∨ ∃ value, first = .ok value ∧ next value = .error cause := by
  cases first <;> simp [bind, Except.bind]

/-- Another wording of the error leaves the successes. -/
theorem mapError_eq_ok_iff {ε δ α : Type} (worded : ε → δ) (step : Except ε α) (result : α) :
    step.mapError worded = .ok result ↔ step = .ok result := by
  cases step <;> simp [Except.mapError]

/-- A result that is computed from that of a step is there exactly if the step succeeds. -/
theorem map_eq_ok_iff {ε α β : Type} (computed : α → β) (step : Except ε α) (result : β) :
    step.map computed = .ok result ↔ ∃ value, step = .ok value ∧ computed value = result := by
  cases step <;> simp [Except.map]

/-- There is a result exactly if the step succeeds with it. -/
theorem toOption_eq_some_iff {ε α : Type} (step : Except ε α) (result : α) :
    step.toOption = some result ↔ step = .ok result := by
  cases step <;> simp [Except.toOption]

/-- Items are read one by one exactly if each of them is. -/
theorem mapM_eq_some_iff {α β : Type} (read : α → Option β) (items : List α) (values : List β) :
    items.mapM read = some values ↔
      List.Forall₂ (fun item value => read item = some value) items values := by
  induction items generalizing values with
  | nil => cases values <;> simp
  | cons item rest inductionHypothesis =>
    have step : (item :: rest).mapM read = some values ↔ ∃ value others,
        read item = some value ∧ rest.mapM read = some others ∧ values = value :: others := by
      simp only [List.mapM_cons, Option.bind_eq_bind, Option.bind_eq_some_iff, Option.pure_def,
        Option.some.injEq, exists_and_left, @eq_comm _ _ values]
    rw [step, List.forall₂_cons_left_iff]
    simp only [inductionHypothesis]

end Microcode
