import TabletRecords.Charging
import TabletRecords.Proofs.Arena.Posting
import TabletRecords.Proofs.Wire.Framing

/-!
Charging operations. One that succeeds has moved the ledger by its charges and by what it let go,
and one that fails has left no trace in it: `Restores`.
-/
namespace TabletRecords

open Arena (Account ArenaId Ledger)
open Outcome
open Wire (Format Intake IntakeState)

namespace Charging

variable {α β : Type}

/-- An operation that fails leaves the ledger as it was. -/
def Restores (operation : Charging α) : Prop :=
  ∀ before fault after, operation before = .error fault after → after = before

theorem Restores.pure (value : α) : Restores (pure value : Charging α) := by
  intro before fault after failed
  cases failed

theorem Restores.throw (fault : Fault) : Restores (throw fault : Charging α) := by
  intro before _ after failed
  cases failed
  rfl

theorem ofExcept_eq_ok_iff {result : Except Fault α} {before after : Ledger} {value : α} :
    (MonadExcept.ofExcept result : Charging α) before = .ok value after ↔
      result = .ok value ∧ before = after := by
  cases result with
  | ok found =>
    constructor
    · intro h
      cases h
      exact ⟨rfl, rfl⟩
    · rintro ⟨h, rfl⟩
      cases h
      rfl
  | error fault =>
    constructor
    · intro h
      cases h
    · rintro ⟨h, -⟩
      cases h

theorem ofExcept_eq_error_iff {result : Except Fault α} {before after : Ledger} {fault : Fault} :
    (MonadExcept.ofExcept result : Charging α) before = .error fault after ↔
      result = .error fault ∧ before = after := by
  cases result with
  | ok value =>
    constructor
    · intro h
      cases h
    · rintro ⟨h, -⟩
      cases h
  | error found =>
    constructor
    · intro h
      cases h
      exact ⟨rfl, rfl⟩
    · rintro ⟨h, rfl⟩
      cases h
      rfl

theorem Restores.ofExcept_bind (result : Except Fault α) {next : α → Charging β}
    (later : ∀ value, Restores (next value)) :
    Restores ((MonadExcept.ofExcept result : Charging α) >>= next) := by
  cases result with
  | ok value => exact later value
  | error fault => exact .throw fault

theorem Restores.get_bind {next : Ledger → Charging α} (later : ∀ ledger, Restores (next ledger)) :
    Restores (get >>= next) := by
  intro before fault after failed
  exact later before before fault after failed

theorem Restores.ite {p : Prop} [Decidable p] {first second : Charging α}
    (restores : Restores first) (restores' : Restores second) :
    Restores (if p then first else second) := by
  by_cases h : p
  · rwa [if_pos h]
  · rwa [if_neg h]

theorem Restores.bind_pure {first : Charging α} {f : α → β} (restores : Restores first) :
    Restores (first >>= fun value => Pure.pure (f value)) := by
  intro before fault after failed
  rcases bind_eq_error_iff.mp failed with failed | ⟨value, middle, -, failed⟩
  · exact restores _ _ _ failed
  · cases failed

theorem holding_cons_eq_ok_iff {arena : ArenaId} {size : Nat} {sizes : List Nat}
    {next : Charging α} {before after : Ledger} {result : α} :
    holding arena (size :: sizes) next before = .ok result after ↔
      ∃ account, (before.account arena).charge size = .ok account ∧
        holding arena sizes next (before.set arena account) = .ok result after := by
  rw [holding]
  constructor
  · intro held
    dsimp only at held
    split at held
    · cases held
    · next account charged =>
      split at held <;> cases held
      next held => exact ⟨account, charged, held⟩
  · rintro ⟨account, charged, held⟩
    simp only [charged, held]

theorem holding_eq_ok_iff {arena : ArenaId} {sizes : List Nat} {next : Charging α}
    {before after : Ledger} {result : α} :
    holding arena sizes next before = .ok result after ↔
      ∃ account, (before.account arena).chargeAll sizes = .ok account ∧
        next (before.set arena account) = .ok result after := by
  induction sizes generalizing before with
  | nil =>
    simp only [Account.chargeAll_nil_eq_ok_iff]
    constructor
    · intro h
      exact ⟨_, rfl, by rwa [Ledger.set_account_self]⟩
    · rintro ⟨_, rfl, h⟩
      rwa [Ledger.set_account_self] at h
  | cons size sizes ih =>
    rw [holding_cons_eq_ok_iff, ← List.singleton_append]
    simp only [ih, Ledger.account_set_self, Ledger.set_set,
      Account.chargeAll_append_eq_ok_iff, Account.chargeAll_singleton]
    constructor
    · rintro ⟨account, charged, account', fits, done⟩
      exact ⟨account', ⟨account, charged, fits⟩, done⟩
    · rintro ⟨account', ⟨account, charged, fits⟩, done⟩
      exact ⟨account, charged, account', fits, done⟩

theorem error_of_holding {arena : ArenaId} {sizes : List Nat} {next : Charging α}
    {before after : Ledger} {fault : Fault}
    (failed : holding arena sizes next before = .error fault after) :
    (∃ refusal, fault = .exhausted refusal) ∨ ∃ held after', next held = .error fault after' := by
  induction sizes generalizing before after with
  | nil => exact .inr ⟨before, after, failed⟩
  | cons size sizes ih =>
    rw [holding] at failed
    dsimp only at failed
    split at failed
    · next refusal _ =>
      cases failed
      exact .inl ⟨refusal, rfl⟩
    · split at failed
      · cases failed
      · next failed' =>
        cases failed
        exact ih failed'

theorem holding_of_refused {arena : ArenaId} {sizes : List Nat} {next : Charging α}
    {before : Ledger} {refusal : Arena.Exhausted}
    (refused : (before.account arena).chargeAll sizes = .error refusal) :
    holding arena sizes next before = .error (.exhausted refusal) before := by
  induction sizes generalizing before with
  | nil => cases refused
  | cons size sizes ih =>
    rw [← List.singleton_append, Account.chargeAll_append_eq_error_iff,
      Account.chargeAll_singleton] at refused
    unfold holding
    rcases refused with refused | ⟨account, charged, refused⟩
    · simp only [refused]
    · -- The first list has been charged; once a later one is refused it is given back.
      have later : holding arena sizes next (before.set arena account) =
          .error (.exhausted refusal) (before.set arena account) :=
        ih (by rwa [Ledger.account_set_self])
      simp only [charged, later, Ledger.release, Ledger.account_set_self,
        Account.release_of_charge charged, Ledger.set_set, Ledger.set_account_self]

theorem Restores.holding {arena : ArenaId} {next : Charging α} (restores : Restores next)
    (sizes : List Nat) : Restores (holding arena sizes next) := by
  induction sizes with
  | nil => exact restores
  | cons size sizes ih =>
    intro before fault after failed
    unfold Charging.holding at failed
    split at failed
    · cases failed
      rfl
    · next account charged =>
      split at failed <;> cases failed
      next later failed =>
        rw [ih _ _ _ failed, Ledger.release, Ledger.account_set_self,
          Account.release_of_charge charged, Ledger.set_set, Ledger.set_account_self]

theorem intake_eq_ok_iff {read : Intake α} {arena : ArenaId} {bytes : List UInt8}
    {next : α → Charging β} {before after : Ledger} {result : β} :
    intake read arena bytes next before = .ok result after ↔
      ∃ value state,
        read { cursor := .start bytes, account := before.account arena } = .ok value state ∧
          next value (before.set arena state.account) = .ok result after := by
  unfold intake
  cases read { cursor := .start bytes, account := before.account arena } with
  | error error state => simp
  | ok value state =>
    constructor
    · intro h
      dsimp only at h
      split at h <;> cases h
      next done => exact ⟨value, state, rfl, done⟩
    · rintro ⟨_, _, h, done⟩
      cases h
      simp only [done]

theorem intake_map {γ : Type} (read : Intake α) (arena : ArenaId) (bytes : List UInt8)
    (next : α → Charging β) (f : β → γ) :
    intake read arena bytes (fun value => f <$> next value) = f <$> intake read arena bytes next := by
  funext ledger
  show intake read arena bytes (fun value => EStateM.map f (next value)) ledger =
    EStateM.map f (intake read arena bytes next) ledger
  unfold intake EStateM.map
  dsimp only
  cases read { cursor := .start bytes, account := ledger.account arena } with
  | error error state => rfl
  | ok value state =>
    dsimp only
    cases next value (ledger.set arena state.account) <;> rfl

theorem Restores.intake {read : Intake α} {arena : ArenaId} {bytes : List UInt8}
    {next : α → Charging β}
    (grows : ∀ before error after, read before = .error error after → before.Grows after)
    (grows_of_ok : ∀ before value after, read before = .ok value after → before.Grows after)
    (restores : ∀ value, Restores (next value)) : Restores (intake read arena bytes next) := by
  intro before fault after failed
  unfold Charging.intake at failed
  split at failed
  · next error state failed' =>
    cases failed
    rw [(grows _ _ _ failed').undone rfl, Ledger.set_account_self]
  · next value state taken =>
    split at failed <;> cases failed
    next later failed =>
      have undone := (grows_of_ok _ _ _ taken).undone rfl
      rw [restores value _ _ _ failed, Ledger.release, Ledger.account_set_self, ← IntakeState.undone,
        undone, Ledger.set_set, Ledger.set_account_self]

variable {format : Format α} {legal : α → Prop}

theorem readRecord_eq_ok_iff (lawful : format.Lawful legal) {version : Int32} {most : Nat}
    {arena : ArenaId} {buffer : List UInt8} {position : Nat} {next : Wire.Header → α → Charging β}
    {before after : Ledger} {result : β} :
    readRecord format version most arena buffer position next before = .ok result after ↔
      ∃ header value account,
        Wire.Record.Stands format version most header value buffer position ∧ legal value ∧
          (before.account arena).chargeAll (format.charges value) = .ok account ∧
            next header value (before.set arena account) = .ok result after := by
  unfold readRecord
  constructor
  · intro done
    cases taken : Wire.Record.read version most buffer position with
    | error error =>
      simp only [taken] at done
      cases done
    | ok record =>
      obtain ⟨header, body⟩ := record
      simp only [taken] at done
      obtain ⟨value, state, taken', later⟩ := intake_eq_ok_iff.mp done
      obtain ⟨⟨hlegal, rfl, fits⟩, -⟩ := (Wire.Record.body_eq_ok_iff lawful).mp taken'
      obtain ⟨⟨version, nonneg, limit, size⟩, within, found⟩ := Wire.Record.read_eq_ok_iff.mp taken
      rw [lawful.length_bytes] at size
      exact ⟨header, value, state.account, ⟨version, nonneg, limit, size, within, found⟩, hlegal,
        fits, later⟩
  · rintro ⟨header, value, account, stands, hlegal, fits, done⟩
    simp only [stands.read_eq_ok lawful]
    refine intake_eq_ok_iff.mpr ⟨value, ⟨⟨[], (format.bytes value).length⟩, account,
      format.footprint value⟩, ?_, done⟩
    exact (Wire.Record.body_eq_ok_iff lawful).mpr ⟨⟨hlegal, rfl, fits⟩, rfl, rfl⟩

theorem Restores.readRecord (lawful : format.Lawful legal) {version : Int32} {most : Nat}
    {arena : ArenaId} {buffer : List UInt8} {position : Nat} {next : Wire.Header → α → Charging β}
    (restores : ∀ header value, Restores (next header value)) :
    Restores (readRecord format version most arena buffer position next) := by
  unfold Charging.readRecord
  cases Wire.Record.read version most buffer position with
  | error error => exact .throw _
  | ok record =>
    refine .intake (fun _ _ _ => Wire.Record.body_grows lawful) ?_ (restores record.1)
    intro before value after taken
    exact Wire.Record.body_grows_of_ok lawful taken

/-- Every outcome of an operation is accounted for: what a result holds and what was let go, and no
trace of a failure. -/
structure Accounts (operation : Charging α) (charges : α → List (ArenaId × Nat))
    (released : List (ArenaId × Nat)) : Prop where
  restores : Restores operation
  posting : ∀ before result after, before.Fresh → operation before = .ok result after →
    before.Posting (charges result) released after

theorem Accounts.ofExcept_bind {result : Except Fault α} {next : α → Charging β}
    {charges : β → List (ArenaId × Nat)} {released : List (ArenaId × Nat)}
    (later : ∀ value, Accounts (next value) charges released) :
    Accounts ((MonadExcept.ofExcept result : Charging α) >>= next) charges released where
  restores := .ofExcept_bind result fun value => (later value).restores
  posting := by
    intro before value after fresh done
    obtain ⟨checked, _, found, done⟩ := bind_eq_ok_iff.mp done
    obtain ⟨-, rfl⟩ := ofExcept_eq_ok_iff.mp found
    exact (later checked).posting _ _ _ fresh done

theorem Accounts.map {operation : Charging α} {charges : α → List (ArenaId × Nat)}
    {released : List (ArenaId × Nat)} (accounts : Accounts operation charges released) (f : α → β)
    {charges' : β → List (ArenaId × Nat)} (charges_eq : ∀ value, charges' (f value) = charges value) :
    Accounts (operation >>= fun value => pure (f value)) charges' released where
  restores := accounts.restores.bind_pure
  posting := by
    intro before result after fresh done
    obtain ⟨value, _, done, h⟩ := bind_eq_ok_iff.mp done
    cases h
    rw [charges_eq]
    exact accounts.posting _ _ _ fresh done

theorem holding_checked_eq_ok_iff {p : Prop} [Decidable p] {value : α} {arena : ArenaId}
    {fault : Fault} {before after : Ledger} {held : Held α} :
    holding arena (format.charges value)
        (if p then pure ⟨value, some arena⟩ else throw fault) before = .ok held after ↔
      p ∧ held = ⟨value, some arena⟩ ∧ ∃ account,
        (before.account arena).chargeAll (format.charges value) = .ok account ∧
          after = before.set arena account := by
  simp only [holding_eq_ok_iff, ite_else_throw_eq_ok_iff]
  constructor
  · rintro ⟨account, fits, checked, h⟩
    cases h
    exact ⟨checked, rfl, account, fits, rfl⟩
  · rintro ⟨checked, rfl, account, fits, rfl⟩
    exact ⟨account, fits, checked, rfl⟩

theorem holding_checked_accounts {p : Prop} [Decidable p] (value : α) (arena : ArenaId)
    (fault : Fault) :
    Accounts (holding arena (format.charges value)
      (if p then pure (⟨value, some arena⟩ : Held α) else throw fault)) (·.charges format) [] where
  restores := (Restores.ite (.pure _) (.throw _)).holding _
  posting := by
    intro before held after _ done
    obtain ⟨-, rfl, account, fits, rfl⟩ := holding_checked_eq_ok_iff.mp done
    exact .of_chargeAll fits

theorem hold_eq_ok_iff {value : α} {arena : ArenaId} {before after : Ledger} {held : Held α} :
    hold format value arena before = .ok held after ↔
      held = ⟨value, some arena⟩ ∧ ∃ account,
        (before.account arena).chargeAll (format.charges value) = .ok account ∧
          after = before.set arena account := by
  rw [hold, holding_eq_ok_iff]
  constructor
  · rintro ⟨account, fits, h⟩
    cases h
    exact ⟨rfl, account, fits, rfl⟩
  · rintro ⟨rfl, account, fits, rfl⟩
    exact ⟨account, fits, rfl⟩

theorem hold_accounts (value : α) (arena : ArenaId) :
    Accounts (hold format value arena) (·.charges format) [] where
  restores := (Restores.pure _).holding _
  posting := by
    intro before held after _ done
    obtain ⟨rfl, account, fits, rfl⟩ := hold_eq_ok_iff.mp done
    exact .of_chargeAll fits

theorem receive_eq_ok_iff (lawful : format.Lawful legal) {bytes : List UInt8} {arena : ArenaId}
    {before after : Ledger} {held : Held α} :
    receive format bytes arena before = .ok held after ↔
      ∃ value account rest, held = ⟨value, some arena⟩ ∧ legal value ∧
        bytes = format.bytes value ++ rest ∧
          (before.account arena).chargeAll (format.charges value) = .ok account ∧
            after = before.set arena account := by
  unfold receive
  simp only [intake_eq_ok_iff, lawful.read_eq_ok_iff]
  constructor
  · rintro ⟨value, state, ⟨hlegal, ⟨rest, -⟩, fits, -⟩, h⟩
    cases h
    exact ⟨value, state.account, state.cursor.rest, rfl, hlegal, rest, fits, rfl⟩
  · rintro ⟨value, account, rest, rfl, hlegal, rfl, fits, rfl⟩
    exact ⟨value, ⟨⟨rest, 0 + (format.bytes value).length⟩, account, 0 + _⟩,
      ⟨hlegal, ⟨rfl, rfl⟩, fits, rfl⟩, rfl⟩

theorem value_of_receive (lawful : format.Lawful legal) {value : α} (hlegal : legal value)
    {rest : List UInt8} {arena : ArenaId} {before after : Ledger} {held : Held α}
    (done : receive format (format.bytes value ++ rest) arena before = .ok held after) :
    held.value = value := by
  obtain ⟨found, _, rest', rfl, hlegal', same, -⟩ := (receive_eq_ok_iff lawful).mp done
  exact (lawful.eq_of_bytes_append hlegal hlegal' same).symm

theorem receive_accounts (lawful : format.Lawful legal) (bytes : List UInt8) (arena : ArenaId) :
    Accounts (receive format bytes arena) (·.charges format) [] where
  restores := .intake (fun _ _ _ => lawful.grows)
    (fun _ _ _ taken => (lawful.read_eq_ok_iff.mp taken).2.grows) (fun _ => .pure _)
  posting := by
    intro before held after _ done
    obtain ⟨value, account, rest, rfl, -, -, fits, rfl⟩ := (receive_eq_ok_iff lawful).mp done
    exact .of_chargeAll fits

theorem replace_eq_ok_iff {old : Held α} {value : α} {arena : ArenaId} {before after : Ledger}
    {held : Held α} :
    replace format old value arena before = .ok held after ↔
      held = ⟨value, some arena⟩ ∧ ∃ account,
        (before.account arena).chargeAll (format.charges value) = .ok account ∧
          after = (before.set arena account).releaseAll (old.charges format) := by
  rw [replace, holding_eq_ok_iff]
  constructor
  · rintro ⟨account, fits, h⟩
    cases h
    exact ⟨rfl, account, fits, rfl⟩
  · rintro ⟨rfl, account, fits, rfl⟩
    exact ⟨account, fits, rfl⟩

theorem replace_accounts (old : Held α) (value : α) (arena : ArenaId) :
    Accounts (replace format old value arena) (·.charges format) (old.charges format) where
  restores := by
    refine Restores.holding ?_ _
    intro before fault after failed
    cases failed
  posting := by
    intro before held after _ done
    obtain ⟨rfl, account, fits, rfl⟩ := replace_eq_ok_iff.mp done
    exact (Arena.Ledger.Posting.of_chargeAll fits).releaseAll _

end Charging

end TabletRecords
