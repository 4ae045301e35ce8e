import TabletRecords.Arena.Account

/-!
Charging several lists. Lists are charged one after another, and all of them fit as soon as their
sum does; a list of no sizes fits every account.
-/
namespace TabletRecords.Arena.Account

variable {account after : Account}

theorem chargeAll_nil_eq_ok_iff : account.chargeAll [] = .ok after ↔ account = after := by
  simp [chargeAll, pure, Except.pure]

theorem chargeAll_append_eq_ok_iff {first second : List Nat} :
    account.chargeAll (first ++ second) = .ok after ↔
      ∃ middle, account.chargeAll first = .ok middle ∧ middle.chargeAll second = .ok after := by
  unfold chargeAll
  rw [List.foldlM_append]
  cases List.foldlM charge account first with
  | ok middle => simp [bind, Except.bind]
  | error refusal => simp [bind, Except.bind]

theorem chargeAll_append_eq_error_iff {first second : List Nat} {refusal : Exhausted} :
    account.chargeAll (first ++ second) = .error refusal ↔
      account.chargeAll first = .error refusal ∨
        ∃ middle, account.chargeAll first = .ok middle ∧
          middle.chargeAll second = .error refusal := by
  unfold chargeAll
  rw [List.foldlM_append]
  cases List.foldlM charge account first with
  | ok middle => simp [bind, Except.bind]
  | error refusal => simp [bind, Except.bind]

theorem chargeAll_singleton {size : Nat} : account.chargeAll [size] = account.charge size := by
  simp [chargeAll]

theorem chargeAll_eq_ok_iff {sizes : List Nat} :
    account.chargeAll sizes = .ok after ↔
      (sizes = [] ∨ account.used + total sizes ≤ account.limit) ∧
        after = { account with used := account.used + total sizes } := by
  induction sizes generalizing account with
  | nil =>
    rw [chargeAll_nil_eq_ok_iff]
    simp [eq_comm]
  | cons size sizes ih =>
    rw [← List.singleton_append, chargeAll_append_eq_ok_iff]
    simp only [chargeAll_singleton, charge_eq_ok_iff, ih, total_append, total_cons, total_nil]
    constructor
    · rintro ⟨_, ⟨fits, rfl⟩, rest, rfl⟩
      refine ⟨.inr ?_, by simp [Nat.add_assoc]⟩
      rcases rest with rfl | rest
      · simpa using fits
      · simp only at rest
        omega
    · rintro ⟨fits, rfl⟩
      have room : account.used + (size + total sizes) ≤ account.limit := by
        simpa using fits
      refine ⟨_, ⟨by omega, rfl⟩, .inr ?_, by simp [Nat.add_assoc]⟩
      simp only
      omega

theorem chargeAll_of_room {sizes : List Nat} (room : account.used + total sizes ≤ account.limit) :
    account.chargeAll sizes = .ok { account with used := account.used + total sizes } :=
  chargeAll_eq_ok_iff.mpr ⟨.inr room, rfl⟩

theorem chargeAll_filter_ne_zero (within : account.used ≤ account.limit) (sizes : List Nat) :
    account.chargeAll (sizes.filter (· ≠ 0)) = account.chargeAll sizes := by
  induction sizes generalizing account with
  | nil => rfl
  | cons size sizes ih =>
    by_cases empty : size = 0
    · have unmoved : account.charge 0 = .ok account := charge_eq_ok_iff.mpr ⟨within, rfl⟩
      rw [List.filter_cons_of_neg (by simpa using empty), ih within, empty]
      simp only [chargeAll, List.foldlM_cons, unmoved]
      rfl
    · rw [List.filter_cons_of_pos (by simpa using empty)]
      simp only [chargeAll, List.foldlM_cons]
      cases charged : account.charge size with
      | error refusal => rfl
      | ok middle =>
        obtain ⟨fits, rfl⟩ := charge_eq_ok_iff.mp charged
        exact ih fits

/-- Sizes are refused at the first of them that does not fit on top of those before it. -/
theorem chargeAll_eq_error_iff {sizes : List Nat} {refusal : Exhausted} :
    account.chargeAll sizes = .error refusal ↔
      ∃ earlier size later, sizes = earlier ++ size :: later ∧
        (earlier = [] ∨ account.used + total earlier ≤ account.limit) ∧
          account.limit < account.used + total earlier + size ∧
            refusal = ⟨account.label, size, account.used + total earlier, account.limit⟩ := by
  constructor
  · intro refused
    induction sizes generalizing account with
    | nil => simp [chargeAll, pure, Except.pure] at refused
    | cons size sizes ih =>
      rw [← List.singleton_append, chargeAll_append_eq_error_iff, chargeAll_singleton] at refused
      rcases refused with refused | ⟨middle, charged, refused⟩
      · obtain ⟨full, rfl⟩ := charge_eq_error_iff.mp refused
        exact ⟨[], size, sizes, rfl, .inl rfl, full, rfl⟩
      · obtain ⟨fits, rfl⟩ := charge_eq_ok_iff.mp charged
        obtain ⟨earlier, next, later, rfl, room, full, rfl⟩ := ih refused
        refine ⟨size :: earlier, next, later, rfl, .inr ?_, ?_, ?_⟩
        · rcases room with rfl | room
          · simpa using fits
          · simpa [Nat.add_assoc] using room
        · simpa [Nat.add_assoc] using full
        · simp [Nat.add_assoc]
  · rintro ⟨earlier, size, later, rfl, room, full, rfl⟩
    have charged := chargeAll_eq_ok_iff.mpr ⟨room, rfl⟩
    rw [← List.singleton_append]
    refine chargeAll_append_eq_error_iff.mpr (.inr ⟨_, charged, ?_⟩)
    refine chargeAll_append_eq_error_iff.mpr (.inl ?_)
    rw [chargeAll_singleton]
    exact charge_eq_error_iff.mpr ⟨full, rfl⟩

theorem release_of_chargeAll {sizes : List Nat} (charged : account.chargeAll sizes = .ok after) :
    after.release (total sizes) = account := by
  obtain ⟨-, rfl⟩ := chargeAll_eq_ok_iff.mp charged
  have covered : ¬ account.used + total sizes < total sizes :=
    Nat.not_lt.mpr (Nat.le_add_left _ _)
  simp [release, covered]

theorem release_release (first second : Nat) :
    (account.release first).release second = account.release (first + second) := by
  have short : (decide (account.used < first) || decide (account.used - first < second)) =
      decide (account.used < first + second) := by
    rw [← Bool.decide_or, decide_eq_decide]
    omega
  simp only [release, Nat.sub_sub, Bool.or_assoc]
  exact congrArg (fun short => Account.mk _ _ _ (account.overdrawn || short)) short

end TabletRecords.Arena.Account
