/-! What the result of a computation says about the results that it was made from. -/

namespace TextGrammar

variable {α β ε δ : Type}

theorem ok_of_map_eq_ok {f : α → β} {result : Except ε α} {value : β}
    (mapped : f <$> result = .ok value) : ∃ inner, result = .ok inner ∧ f inner = value := by
  cases result with
  | error error => cases mapped
  | ok inner =>
      cases mapped
      exact ⟨inner, rfl, rfl⟩

theorem ok_of_bind_eq_ok {f : α → Except ε β} {result : Except ε α} {value : β}
    (bound : result >>= f = .ok value) : ∃ inner, result = .ok inner ∧ f inner = .ok value := by
  cases result with
  | error error => cases bound
  | ok inner => exact ⟨inner, rfl, bound⟩

theorem ok_of_mapError_eq_ok {f : ε → δ} {result : Except ε α} {value : α}
    (mapped : result.mapError f = .ok value) : result = .ok value := by
  cases result with
  | error error => cases mapped
  | ok inner =>
      cases mapped
      rfl

theorem error_of_mapError_eq_error {f : ε → δ} {result : Except ε α} {error : δ}
    (mapped : result.mapError f = .error error) :
    ∃ original, result = .error original ∧ f original = error := by
  cases result with
  | error original =>
      cases mapped
      exact ⟨original, rfl, rfl⟩
  | ok value => cases mapped

theorem exists_mapM_eq_ok_iff (f : α → Except ε β) (items : List α) :
    (∃ values, items.mapM f = .ok values) ↔ ∀ item ∈ items, ∃ value, f item = .ok value := by
  induction items with
  | nil => simp [pure, Except.pure]
  | cons item rest ih =>
      rw [List.mapM_cons, List.forall_mem_cons, ← ih]
      cases f item with
      | error error => simp [bind, Except.bind]
      | ok value => cases rest.mapM f <;> simp [bind, Except.bind, pure, Except.pure]

def errorOf? : Except ε α → Option ε
  | .error error => some error
  | .ok _ => none

theorem errorOf?_eq_some_iff {result : Except ε α} {error : ε} :
    errorOf? result = some error ↔ result = .error error := by
  cases result <;> simp [errorOf?]

theorem errorOf?_eq_none_iff {result : Except ε α} :
    errorOf? result = none ↔ ∃ value, result = .ok value := by
  cases result <;> simp [errorOf?]

theorem errorOf?_map (g : α → β) (result : Except ε α) :
    errorOf? (g <$> result) = errorOf? result := by
  cases result <;> rfl

end TextGrammar
