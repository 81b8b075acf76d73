import Mathlib.Data.List.Forall2

/-!
Results that may be errors: when a chain of steps succeeds, each of its steps did.
-/

namespace ShardedSql

variable {ε α β γ : Type}

theorem bind_eq_ok {step : Except ε α} {next : α → Except ε β} {result : β} :
    (step >>= next) = .ok result ↔ ∃ middle, step = .ok middle ∧ next middle = .ok result := by
  cases step <;> simp [bind, Except.bind]

theorem map_eq_ok {step : Except ε α} {f : α → β} {result : β} :
    step.map f = .ok result ↔ ∃ middle, step = .ok middle ∧ f middle = result := by
  cases step <;> simp [Except.map]

theorem pure_eq_ok {value result : α} :
    (pure value : Except ε α) = .ok result ↔ value = result := by
  simp [pure, Except.pure]

theorem exists_error_iff {step : Except ε α} :
    (∃ error, step = .error error) ↔ ¬ ∃ result, step = .ok result := by
  cases step <;> simp

theorem exists_ok_of_isOk {step : Except ε α} (fine : step.isOk = true) :
    ∃ result, step = .ok result := by
  cases step with
  | ok result => exact ⟨result, rfl⟩
  | error => cases fine

/-- A list of steps succeeds with the results that the steps have one by one. -/
theorem mapM_eq_ok {step : α → Except ε β} {items : List α} {result : List β} :
    items.mapM step = .ok result ↔
      List.Forall₂ (fun item out => step item = .ok out) items result := by
  induction items generalizing result with
  | nil => cases result <;> simp [pure, Except.pure]
  | cons item rest ih =>
      rw [List.mapM_cons, bind_eq_ok]
      constructor
      · rintro ⟨out, found, others⟩
        obtain ⟨outs, rest_found, equal⟩ := bind_eq_ok.mp others
        rw [← pure_eq_ok.mp equal]
        exact .cons found (ih.mp rest_found)
      · intro each
        cases each with
        | cons found rest_found =>
            exact ⟨_, found, bind_eq_ok.mpr ⟨_, ih.mpr rest_found, rfl⟩⟩

/-- Each result is one of some item. -/
theorem exists_of_mem_mapM {step : α → Except ε β} {items : List α} {result : List β}
    (mapped : items.mapM step = .ok result) {out : β} (member : out ∈ result) :
    ∃ item ∈ items, step item = .ok out := by
  replace mapped := mapM_eq_ok.mp mapped
  induction mapped with
  | nil => cases member
  | @cons item first rest outs here _ ih =>
      rcases List.mem_cons.mp member with rfl | later
      · exact ⟨item, List.mem_cons_self .., here⟩
      · obtain ⟨other, inside, found⟩ := ih later
        exact ⟨other, List.mem_cons_of_mem _ inside, found⟩

/-- Each item has a result. -/
theorem exists_of_mem_of_mapM {step : α → Except ε β} {items : List α} {result : List β}
    (mapped : items.mapM step = .ok result) {item : α} (member : item ∈ items) :
    ∃ out ∈ result, step item = .ok out := by
  replace mapped := mapM_eq_ok.mp mapped
  induction mapped with
  | nil => cases member
  | @cons first out rest outs here _ ih =>
      rcases List.mem_cons.mp member with rfl | later
      · exact ⟨out, List.mem_cons_self .., here⟩
      · obtain ⟨other, inside, found⟩ := ih later
        exact ⟨other, List.mem_cons_of_mem _ inside, found⟩

theorem exists_mapM_eq_ok_iff {step : α → Except ε β} {items : List α} :
    (∃ result, items.mapM step = .ok result) ↔ ∀ item ∈ items, ∃ out, step item = .ok out := by
  constructor
  · rintro ⟨result, mapped⟩ item member
    obtain ⟨out, -, found⟩ := exists_of_mem_of_mapM mapped member
    exact ⟨out, found⟩
  · intro each
    induction items with
    | nil => exact ⟨[], rfl⟩
    | cons item rest ih =>
        obtain ⟨out, found⟩ := each item List.mem_cons_self
        obtain ⟨outs, others⟩ := ih fun other member => each other (List.mem_cons_of_mem _ member)
        exact ⟨out :: outs, mapM_eq_ok.mpr (.cons found (mapM_eq_ok.mp others))⟩

theorem mapM_eq_ok_map {step : α → Except ε β} {f : α → β} {items : List α}
    (each : ∀ item ∈ items, step item = .ok (f item)) : items.mapM step = .ok (items.map f) := by
  rw [mapM_eq_ok, List.forall₂_map_right_iff, List.forall₂_same]
  exact each

/-- What each result has in common with its item, the results have in common with the items. -/
theorem map_eq_map_of_mapM {step : α → Except ε β} {f : α → γ} {g : β → γ} {items : List α}
    {result : List β} (mapped : items.mapM step = .ok result)
    (each : ∀ item out, step item = .ok out → g out = f item) : result.map g = items.map f := by
  rw [mapM_eq_ok] at mapped
  induction mapped with
  | nil => rfl
  | cons here _ ih => rw [List.map_cons, List.map_cons, each _ _ here, ih]

/-- Two runs over a list, one after the other, are one run of both steps. -/
theorem mapM_bind_eq_ok {first : α → Except ε β} {second : β → Except ε γ} {items : List α}
    {between : List β} {result : List γ} (half : items.mapM first = .ok between)
    (whole : between.mapM second = .ok result) :
    items.mapM (fun item => first item >>= second) = .ok result := by
  rw [mapM_eq_ok] at *
  induction half generalizing result with
  | nil =>
      cases whole
      exact .nil
  | cons here _ ih =>
      cases whole with
      | cons found rest_found => exact .cons (bind_eq_ok.mpr ⟨_, here, found⟩) (ih rest_found)

/-- A run that succeeds has taken a step for each item. -/
theorem exists_step_of_foldlM {step : α → β → Except ε α} {items : List β} {start last : α}
    (run : items.foldlM step start = .ok last) {item : β} (member : item ∈ items) :
    ∃ before after, step before item = .ok after := by
  induction items generalizing start with
  | nil => cases member
  | cons first rest ih =>
      rw [List.foldlM_cons, bind_eq_ok] at run
      obtain ⟨next, here, run⟩ := run
      rcases List.mem_cons.mp member with rfl | later
      · exact ⟨start, next, here⟩
      · exact ih run later

/-- A run stops at the first step that fails. -/
theorem foldlM_eq_error {step : α → β → Except ε α} {before after : List β} {item : β}
    {start between : α} {reason : ε} (run : before.foldlM step start = .ok between)
    (failed : step between item = .error reason) :
    (before ++ item :: after).foldlM step start = .error reason := by
  rw [List.foldlM_append, run]
  change List.foldlM step between (item :: after) = _
  rw [List.foldlM_cons, failed]
  rfl

end ShardedSql
