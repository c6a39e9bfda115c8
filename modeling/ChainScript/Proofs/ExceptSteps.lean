/-! Computations that may fail, taken apart step by step. -/

namespace ChainScript

universe u v w
variable {ε : Type u} {ε' : Type w} {α β : Type v}

@[simp] theorem ok_bind (value : α) (next : α → Except ε β) : (Except.ok value >>= next) = next value := rfl

@[simp] theorem error_bind (fault : ε) (next : α → Except ε β) :
    (Except.error fault >>= next) = .error fault := rfl

@[simp] theorem map_ok (f : α → β) (value : α) : (f <$> (Except.ok value : Except ε α)) = .ok (f value) := rfl

@[simp] theorem map_error (f : α → β) (fault : ε) :
    (f <$> (Except.error fault : Except ε α)) = .error fault := rfl

theorem bind_eq_ok {step : Except ε α} {next : α → Except ε β} {result : β} :
    step >>= next = .ok result ↔ ∃ value, step = .ok value ∧ next value = .ok result := by
  cases step with
  | ok value => simp
  | error fault => simp

theorem bind_eq_error {step : Except ε α} {next : α → Except ε β} {fault : ε} :
    step >>= next = .error fault ↔
      step = .error fault ∨ ∃ value, step = .ok value ∧ next value = .error fault := by
  cases step with
  | ok value => simp
  | error cause => simp

theorem map_eq_ok {step : Except ε α} {f : α → β} {result : β} :
    f <$> step = .ok result ↔ ∃ value, step = .ok value ∧ f value = result := by
  cases step with
  | ok value => simp
  | error fault => simp

theorem map_eq_error {step : Except ε α} {f : α → β} {fault : ε} :
    f <$> step = .error fault ↔ step = .error fault := by
  cases step with
  | ok value => simp
  | error cause => simp

theorem mapError_eq_ok {step : Except ε α} {f : ε → ε'} {value : α} :
    step.mapError f = .ok value ↔ step = .ok value := by
  cases step with
  | ok own =>
    constructor
    · intro same
      cases same
      rfl
    · intro same
      cases same
      rfl
  | error cause =>
    constructor
    · intro failed
      cases failed
    · intro failed
      cases failed

theorem mapError_eq_error {step : Except ε α} {f : ε → ε'} {fault : ε'} :
    step.mapError f = .error fault ↔ ∃ cause, step = .error cause ∧ f cause = fault := by
  cases step with
  | ok own =>
    constructor
    · intro succeeded
      cases succeeded
    · rintro ⟨cause, succeeded, -⟩
      cases succeeded
  | error own =>
    constructor
    · intro same
      cases same
      exact ⟨own, rfl, rfl⟩
    · rintro ⟨cause, same, rfl⟩
      cases same
      rfl

theorem mapM_cons_eq_ok {item : α} {items : List α} {f : α → Except ε β} {values : List β} :
    (item :: items).mapM f = .ok values ↔
      ∃ value others, f item = .ok value ∧ items.mapM f = .ok others ∧ value :: others = values := by
  rw [List.mapM_cons]
  simp only [bind_eq_ok, pure, Except.pure, Except.ok.injEq, exists_and_left]

/-- The values of a list of computations, each beside the item that it comes from. -/
theorem mapM_eq_ok_iff {items : List α} {f : α → Except ε β} {values : List β} :
    items.mapM f = .ok values ↔ ∃ pairs : List (α × β), pairs.map Prod.fst = items ∧ pairs.map Prod.snd = values ∧
      ∀ pair ∈ pairs, f pair.1 = .ok pair.2 := by
  induction items generalizing values with
  | nil =>
    rw [List.mapM_nil]
    constructor
    · intro empty
      cases empty
      exact ⟨[], rfl, rfl, List.forall_mem_nil _⟩
    · rintro ⟨pairs, firsts, rfl, -⟩
      rw [List.map_eq_nil_iff.mp firsts]
      rfl
  | cons item items ih =>
    rw [List.mapM_cons]
    constructor
    · intro whole
      obtain ⟨value, first, rest⟩ := bind_eq_ok.mp whole
      obtain ⟨others, following, made⟩ := bind_eq_ok.mp rest
      cases made
      obtain ⟨pairs, rfl, rfl, each⟩ := ih.mp following
      exact ⟨(item, value) :: pairs, rfl, rfl, List.forall_mem_cons.mpr ⟨first, each⟩⟩
    · rintro ⟨pairs, firsts, rfl, each⟩
      obtain ⟨⟨_, value⟩, pairs, rfl, rfl, rfl⟩ := List.map_eq_cons_iff.mp firsts
      obtain ⟨first, others⟩ := List.forall_mem_cons.mp each
      rw [first, ok_bind, ih.mpr ⟨pairs, rfl, rfl, others⟩]
      rfl

/-- The failure of a list of computations is that of the first one to fail; those behind it are not run. -/
theorem mapM_eq_error_iff {items : List α} {f : α → Except ε β} {fault : ε} :
    items.mapM f = .error fault ↔ ∃ before item after, items = before ++ item :: after ∧
      (∀ other ∈ before, ∃ value, f other = .ok value) ∧ f item = .error fault := by
  induction items with
  | nil =>
    constructor
    · intro empty
      cases empty
    · rintro ⟨before, item, after, whole, -⟩
      cases before <;> cases whole
  | cons item items ih =>
    rw [List.mapM_cons]
    constructor
    · intro failed
      rcases bind_eq_error.mp failed with first | ⟨value, own, rest⟩
      · exact ⟨[], item, items, rfl, List.forall_mem_nil _, first⟩
      rcases bind_eq_error.mp rest with following | ⟨others, -, made⟩
      · obtain ⟨before, other, after, rfl, values, fails⟩ := ih.mp following
        exact ⟨item :: before, other, after, rfl, List.forall_mem_cons.mpr ⟨⟨value, own⟩, values⟩, fails⟩
      · cases made
    · rintro ⟨before, other, after, whole, values, fails⟩
      cases before with
      | nil =>
        cases whole
        rw [fails, error_bind]
      | cons first before =>
        cases whole
        obtain ⟨⟨value, own⟩, values⟩ := List.forall_mem_cons.mp values
        rw [own, ok_bind, ih.mpr ⟨before, other, after, rfl, values, fails⟩, error_bind]

theorem exists_of_mapM_eq_error {items : List α} {f : α → Except ε β} {fault : ε}
    (failed : items.mapM f = .error fault) : ∃ item ∈ items, f item = .error fault := by
  obtain ⟨before, item, after, rfl, -, fails⟩ := mapM_eq_error_iff.mp failed
  exact ⟨item, List.mem_append_right before List.mem_cons_self, fails⟩

end ChainScript
