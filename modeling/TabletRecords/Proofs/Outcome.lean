/-!
Outcomes of stateful operations. A sequence of two operations succeeds where both do, and fails
where one of them does, in the state in which that one left off.
-/
namespace TabletRecords.Outcome

variable {ε σ α β : Type}

theorem bind_eq_ok_iff {first : EStateM ε σ α} {next : α → EStateM ε σ β} {before after : σ}
    {result : β} :
    (first >>= next) before = .ok result after ↔
      ∃ value middle, first before = .ok value middle ∧ next value middle = .ok result after := by
  show EStateM.bind first next before = _ ↔ _
  unfold EStateM.bind
  cases first before with
  | ok value middle =>
    constructor
    · intro h
      exact ⟨value, middle, rfl, h⟩
    · rintro ⟨_, _, h, later⟩
      cases h
      exact later
  | error fault middle => simp

theorem bind_eq_error_iff {first : EStateM ε σ α} {next : α → EStateM ε σ β} {before after : σ}
    {fault : ε} :
    (first >>= next) before = .error fault after ↔
      first before = .error fault after ∨
        ∃ value middle, first before = .ok value middle ∧
          next value middle = .error fault after := by
  show EStateM.bind first next before = _ ↔ _
  unfold EStateM.bind
  cases first before with
  | ok value middle =>
    constructor
    · intro h
      exact .inr ⟨value, middle, rfl, h⟩
    · rintro (h | ⟨_, _, h, later⟩) <;> cases h
      exact later
  | error fault middle => simp

theorem bind_eq_of_ok {first : EStateM ε σ α} {next : α → EStateM ε σ β} {before middle : σ}
    {value : α} (done : first before = .ok value middle) :
    (first >>= next) before = next value middle := by
  show EStateM.bind first next before = _
  rw [EStateM.bind, done]

theorem bind_eq_of_error {first : EStateM ε σ α} {next : α → EStateM ε σ β} {before after : σ}
    {fault : ε} (failed : first before = .error fault after) :
    (first >>= next) before = .error fault after := by
  show EStateM.bind first next before = _
  rw [EStateM.bind, failed]

theorem map_eq_ok_iff {read : EStateM ε σ α} {f : α → β} {before after : σ} {result : β} :
    (f <$> read) before = .ok result after ↔
      ∃ value, read before = .ok value after ∧ f value = result := by
  show EStateM.map f read before = _ ↔ _
  unfold EStateM.map
  cases read before with
  | ok value middle =>
    constructor
    · intro h
      cases h
      exact ⟨value, rfl, rfl⟩
    · rintro ⟨_, h, rfl⟩
      cases h
      rfl
  | error fault middle => simp

@[simp] theorem throw_bind (fault : ε) (next : α → EStateM ε σ β) :
    (throw fault >>= next) = throw fault := rfl

theorem ite_throw_eq_ok_iff {p : Prop} [Decidable p] {fault : ε} {next : EStateM ε σ α}
    {before after : σ} {result : α} :
    (if p then throw fault else next) before = .ok result after ↔
      ¬p ∧ next before = .ok result after := by
  by_cases h : p
  · simp only [h, if_true, not_true, false_and, iff_false]
    intro failed
    cases failed
  · simp [h]

theorem ite_else_throw_eq_ok_iff {p : Prop} [Decidable p] {fault : ε} {next : EStateM ε σ α}
    {before after : σ} {result : α} :
    (if p then next else throw fault) before = .ok result after ↔
      p ∧ next before = .ok result after := by
  by_cases h : p
  · simp [h]
  · simp only [h, if_false, false_and, iff_false]
    intro failed
    cases failed

@[simp] theorem pure_apply (value : α) (state : σ) :
    (pure value : EStateM ε σ α) state = .ok value state := rfl

@[simp] theorem get_apply (state : σ) : (get : EStateM ε σ σ) state = .ok state state := rfl

/-! The same for operations without a state. -/

theorem except_bind_eq_ok_iff {first : Except ε α} {next : α → Except ε β} {result : β} :
    (first >>= next) = .ok result ↔ ∃ value, first = .ok value ∧ next value = .ok result := by
  cases first with
  | ok value => simp [bind, Except.bind]
  | error fault => simp [bind, Except.bind]

theorem except_bind_ne_error {first : Except ε α} {next : α → Except ε β} {fault : ε}
    (never : first ≠ .error fault) (never' : ∀ value, next value ≠ .error fault) :
    (first >>= next) ≠ .error fault := by
  cases first with
  | ok value => exact never' value
  | error other => exact fun failed => never (congrArg Except.error (Except.error.inj failed))

@[simp] theorem except_ok_bind (value : α) (next : α → Except ε β) :
    (Except.ok value >>= next) = next value := rfl

@[simp] theorem except_throw_bind (fault : ε) (next : α → Except ε β) :
    (throw fault >>= next) = throw fault := rfl

@[simp] theorem mapError_ok {ε' : Type} (f : ε → ε') (value : α) :
    (Except.ok value).mapError f = .ok value := rfl

theorem mapError_eq_ok_iff {ε' : Type} {f : ε → ε'} {first : Except ε α} {result : α} :
    first.mapError f = .ok result ↔ first = .ok result := by
  cases first with
  | ok value =>
    show Except.ok value = Except.ok result ↔ _
    rw [Except.ok.injEq, Except.ok.injEq]
  | error fault =>
    constructor
    · intro h
      cases h
    · intro h
      cases h

theorem except_ite_throw_eq_ok_iff {p : Prop} [Decidable p] {fault : ε} {next : Except ε α}
    {result : α} :
    (if p then throw fault else next) = .ok result ↔ ¬p ∧ next = .ok result := by
  by_cases h : p
  · simp only [h, if_true, not_true, false_and, iff_false]
    intro failed
    cases failed
  · simp [h]

end TabletRecords.Outcome
