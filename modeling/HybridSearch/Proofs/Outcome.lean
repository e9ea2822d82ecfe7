/-! Steps that may fail. What a step came to is opened by one equation for each way of putting steps
together: one behind the other, and one for each element of a list. -/

namespace HybridSearch.Outcome

variable {ε α β : Type}

theorem pure_eq_ok_iff {value result : α} :
    (pure value : Except ε α) = .ok result ↔ value = result := by
  simp [pure, Except.pure]

theorem bind_eq_ok_iff {first : Except ε α} {next : α → Except ε β} {result : β} :
    (first >>= next) = .ok result ↔ ∃ value, first = .ok value ∧ next value = .ok result := by
  cases first with
  | error failure => simp [bind, Except.bind]
  | ok value => simp [bind, Except.bind]

theorem bind_eq_error_iff {first : Except ε α} {next : α → Except ε β} {failure : ε} :
    (first >>= next) = .error failure ↔
      first = .error failure ∨ ∃ value, first = .ok value ∧ next value = .error failure := by
  cases first with
  | error failure => simp [bind, Except.bind]
  | ok value => simp [bind, Except.bind]

theorem map_eq_ok_iff {outcome : Except ε α} {transform : α → β} {result : β} :
    outcome.map transform = .ok result ↔ ∃ value, outcome = .ok value ∧ transform value = result := by
  cases outcome with
  | error failure => simp [Except.map]
  | ok value => simp [Except.map]

theorem map_eq_error_iff {outcome : Except ε α} {transform : α → β} {failure : ε} :
    outcome.map transform = .error failure ↔ outcome = .error failure := by
  cases outcome with
  | error failure => simp [Except.map]
  | ok value => simp [Except.map]

/-! ## One step for each element -/

/-- All steps gave a value exactly when the outcomes, one by one, are those values. -/
theorem mapM_eq_ok_iff (step : α → Except ε β) (values : List α) (results : List β) :
    values.mapM step = .ok results ↔ values.map step = results.map .ok := by
  induction values generalizing results with
  | nil => cases results <;> simp [pure, Except.pure]
  | cons first rest induction =>
      rw [List.mapM_cons, bind_eq_ok_iff]
      simp only [bind_eq_ok_iff, induction]
      cases results with
      | nil => simp [pure, Except.pure]
      | cons result others =>
          simp only [pure, Except.pure, Except.ok.injEq, List.cons.injEq, List.map_cons]
          constructor
          · intro succeeded
            rcases succeeded with ⟨value, firstOk, values, restOk, rfl, rfl⟩
            exact ⟨firstOk, restOk⟩
          · intro succeeded
            rcases succeeded with ⟨firstOk, restOk⟩
            exact ⟨result, firstOk, others, restOk, rfl, rfl⟩

/-- What is read off the results can be read off the values, if it can for each of them. -/
theorem map_results_of_mapM {γ : Type} {step : α → Except ε β} {values : List α}
    {results : List β} (succeeded : values.mapM step = .ok results) (ofResult : β → γ)
    (ofValue : α → γ)
    (agree : ∀ value result, step value = .ok result → ofResult result = ofValue value) :
    results.map ofResult = values.map ofValue := by
  rw [mapM_eq_ok_iff] at succeeded
  induction values generalizing results with
  | nil => simp_all
  | cons first rest induction =>
      cases results with
      | nil => cases succeeded
      | cons result others =>
          rw [List.map_cons, List.map_cons, List.cons.injEq] at succeeded
          rw [List.map_cons, List.map_cons, agree first result succeeded.1,
            induction succeeded.2]

/-- A failure is that of one of the steps. -/
theorem exists_of_mapM_eq_error {step : α → Except ε β} {values : List α} {failure : ε}
    (failed : values.mapM step = .error failure) : ∃ value ∈ values, step value = .error failure := by
  induction values with
  | nil => cases failed
  | cons first rest induction =>
      rw [List.mapM_cons, bind_eq_error_iff] at failed
      rcases failed with firstFailed | ⟨value, _, restFailed⟩
      · exact ⟨first, by simp, firstFailed⟩
      · rw [bind_eq_error_iff] at restFailed
        rcases restFailed with restFailed | ⟨results, _, impossible⟩
        · rcases induction restFailed with ⟨value, member, valueFailed⟩
          exact ⟨value, by simp [member], valueFailed⟩
        · cases impossible

/-- There are results exactly when every step gives one. -/
theorem exists_mapM_eq_ok_iff (step : α → Except ε β) (values : List α) :
    (∃ results, values.mapM step = .ok results) ↔
      ∀ value ∈ values, ∃ result, step value = .ok result := by
  constructor
  · intro finished value member
    rcases finished with ⟨results, succeeded⟩
    rw [mapM_eq_ok_iff] at succeeded
    have inOutcomes : step value ∈ results.map Except.ok :=
      succeeded ▸ List.mem_map_of_mem member
    rcases List.mem_map.mp inOutcomes with ⟨result, _, equal⟩
    exact ⟨result, equal.symm⟩
  · intro each
    cases outcome : values.mapM step with
    | ok results => exact ⟨results, rfl⟩
    | error failure =>
        rcases exists_of_mapM_eq_error outcome with ⟨value, member, failed⟩
        rcases each value member with ⟨result, succeeded⟩
        rw [failed] at succeeded
        cases succeeded

end HybridSearch.Outcome
