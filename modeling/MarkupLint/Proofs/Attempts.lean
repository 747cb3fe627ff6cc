namespace MarkupLint

/-!
# Steps that may fail

Steps that are taken one after the other succeed if each of them does.  This is how
files are found, patterns are read and the entries of a report are printed.
-/

theorem exists_ok_of_bind_eq_ok
    {ε α β : Type}
    {first : Except ε α}
    {further : α → Except ε β}
    {result : β}
    (succeeds : first >>= further = .ok result) :
    ∃ between, first = .ok between ∧ further between = .ok result := by
  cases first with
  | error error =>
      cases succeeds
  | ok between =>
      exact ⟨between, rfl, succeeds⟩

section

variable
  {ε α β : Type}
  {attempt : α → Except ε β}
  {items : List α}

theorem mapM_cons_eq_ok_iff
    {item : α}
    {results : List β} :
    (item :: items).mapM attempt = .ok results ↔
      ∃ result others,
        attempt item = .ok result ∧
          items.mapM attempt = .ok others ∧
          result :: others = results := by
  rw [List.mapM_cons]
  cases attempt item with
  | error error =>
      simp [bind, Except.bind]
  | ok result =>
      cases items.mapM attempt with
      | error error =>
          simp [bind, Except.bind]
      | ok others =>
          simp [bind, Except.bind, pure, Except.pure]

/-- A list can be treated exactly if each of its items can. -/
theorem exists_mapM_eq_ok_iff :
    (∃ results, items.mapM attempt = .ok results) ↔
      ∀ item ∈ items, ∃ result, attempt item = .ok result := by
  induction items with
  | nil =>
      simp [pure, Except.pure]
  | cons item items inductionHypothesis =>
      rw [List.forall_mem_cons, ← inductionHypothesis]
      simp only [mapM_cons_eq_ok_iff]
      constructor
      · rintro ⟨results, result, others, attempted, othersAttempted, -⟩
        exact ⟨⟨result, attempted⟩, ⟨others, othersAttempted⟩⟩
      · rintro ⟨⟨result, attempted⟩, ⟨others, othersAttempted⟩⟩
        exact ⟨result :: others, result, others, attempted, othersAttempted, rfl⟩

theorem forall_mem_of_mapM_eq_ok
    {holds : β → Prop}
    (step : ∀ item result, attempt item = .ok result → holds result)
    {results : List β}
    (succeeds : items.mapM attempt = .ok results) :
    ∀ result ∈ results, holds result := by
  induction items generalizing results with
  | nil =>
      cases succeeds
      simp
  | cons item items inductionHypothesis =>
      obtain ⟨result, others, attempted, othersAttempted, rfl⟩ := mapM_cons_eq_ok_iff.mp succeeds
      rw [List.forall_mem_cons]
      exact ⟨step item result attempted, inductionHypothesis othersAttempted⟩

/-- A list is read back from what was made of it if each of its items is. -/
theorem mapM_eq_some_of_mapM_eq_ok
    {read : β → Option α}
    (readBack :
      ∀ item ∈ items, ∀ result, attempt item = .ok result → read result = some item)
    {results : List β}
    (succeeds : items.mapM attempt = .ok results) :
    results.mapM read = some items := by
  induction items generalizing results with
  | nil =>
      cases succeeds
      rfl
  | cons item items inductionHypothesis =>
      obtain ⟨result, others, attempted, othersAttempted, rfl⟩ := mapM_cons_eq_ok_iff.mp succeeds
      rw [List.forall_mem_cons] at readBack
      simp [readBack.1 result attempted, inductionHypothesis readBack.2 othersAttempted]

end

end MarkupLint
