import TabletRecords.Parameter.Assign
import TabletRecords.Parameter.Record
import TabletRecords.Proofs.Charging
import TabletRecords.Proofs.Wire.Bodies

/-!
Operations on transfer parameters. A parameter keeps its arena and its settings for life, and each
operation that writes its snapshot charges the new lists before the old ones are let go.
-/
namespace TabletRecords

open Arena (Account ArenaId Ledger heldAt)
open Charging Outcome

theorem Held.heldAt_charges {α : Type} (format : Wire.Format α) (value : α)
    (arena payer : ArenaId) :
    heldAt arena (Held.charges format ⟨value, some payer⟩) =
      if payer = arena then format.footprint value else 0 :=
  Arena.heldAt_map arena payer (format.charges value)

namespace TransferParameter

variable {parameter result : TransferParameter} {before after : Ledger}

theorem ofSnapshot_eq_ok_iff {settings : Settings} {snapshot : Snapshot} :
    ofSnapshot settings snapshot before = .ok result after ↔
      ∃ account, (freshAccount settings).chargeAll (Snapshot.format.charges snapshot) = .ok account ∧
        result = ⟨⟨before.next⟩, settings, snapshot⟩ ∧ after = (before.openArena account).2 := by
  unfold ofSnapshot
  cases (freshAccount settings).chargeAll (Snapshot.format.charges snapshot) with
  | error refusal => simp
  | ok account =>
    constructor
    · intro h
      cases h
      exact ⟨account, rfl, rfl, rfl⟩
    · rintro ⟨_, h, rfl, rfl⟩
      cases h
      rfl

theorem ofSnapshot_restores (settings : Settings) (snapshot : Snapshot) :
    Restores (ofSnapshot settings snapshot) := by
  intro before fault after failed
  unfold ofSnapshot at failed
  split at failed <;> cases failed
  rfl

theorem ofSnapshot_accounts (settings : Settings) (snapshot : Snapshot) :
    Accounts (ofSnapshot settings snapshot) (·.held.charges Snapshot.format) [] where
  restores := ofSnapshot_restores settings snapshot
  posting := by
    intro before result after fresh done
    obtain ⟨account, fits, rfl, rfl⟩ := ofSnapshot_eq_ok_iff.mp done
    exact .openArena fresh rfl rfl fits

/-- A parameter owns its arena when the arena has been opened with the limit of the settings. -/
structure Owns (parameter : TransferParameter) (ledger : Ledger) : Prop where
  opened : parameter.arena.index < ledger.next
  limit : (ledger.account parameter.arena).limit = parameter.settings.arenaLimit

theorem owns_of_ofSnapshot {settings : Settings} {snapshot : Snapshot}
    (done : ofSnapshot settings snapshot before = .ok result after) : result.Owns after := by
  obtain ⟨account, fits, rfl, rfl⟩ := ofSnapshot_eq_ok_iff.mp done
  obtain ⟨-, rfl⟩ := Account.chargeAll_eq_ok_iff.mp fits
  refine ⟨Nat.lt_succ_self _, ?_⟩
  exact congrArg Account.limit (Ledger.account_openArena _ _)

theorem Owns.mono {charged released : List (ArenaId × Nat)} (owns : parameter.Owns before)
    (posting : before.Posting charged released after) : parameter.Owns after :=
  ⟨Nat.lt_of_lt_of_le owns.opened posting.next_le, (posting.limit _ owns.opened).trans owns.limit⟩

variable {α : Type} {format : Wire.Format α} {old new : α} {snapshot : Snapshot}

theorem setPart_eq_ok_iff :
    parameter.setPart format old new snapshot before = .ok result after ↔
      result = { parameter with snapshot } ∧ ∃ account,
        (before.account parameter.arena).chargeAll (format.charges new) = .ok account ∧
          after = (before.set parameter.arena account).releaseAll
            ((format.charges old).map (parameter.arena, ·)) := by
  simp only [setPart, bind_eq_ok_iff, replace_eq_ok_iff]
  constructor
  · rintro ⟨_, _, ⟨rfl, account, fits, rfl⟩, h⟩
    cases h
    exact ⟨rfl, account, fits, rfl⟩
  · rintro ⟨rfl, account, fits, rfl⟩
    exact ⟨_, _, ⟨rfl, account, fits, rfl⟩, rfl⟩

/-- Where the rest of the snapshot holds the same before and after, the part that is put in place of
another one accounts for the whole. -/
theorem setPart_accounts (parameter : TransferParameter) (rest : Nat)
    (new_eq : Snapshot.format.footprint snapshot = rest + format.footprint new)
    (old_eq : Snapshot.format.footprint parameter.snapshot = rest + format.footprint old) :
    Accounts (parameter.setPart format old new snapshot) (·.held.charges Snapshot.format)
      (parameter.held.charges Snapshot.format) where
  restores := (replace_accounts _ _ _).restores.bind_pure
  posting := by
    intro before result after fresh done
    obtain ⟨held, _, replaced, h⟩ := bind_eq_ok_iff.mp done
    cases h
    have posting := (replace_accounts _ _ _).posting _ _ _ fresh replaced
    obtain ⟨rfl, -⟩ := replace_eq_ok_iff.mp replaced
    refine posting.frame (fun arena => if parameter.arena = arena then rest else 0) ?_ ?_
    · intro arena
      rw [held, Held.heldAt_charges, Held.heldAt_charges, new_eq]
      split <;> rfl
    · intro arena
      rw [held, Held.heldAt_charges, Held.heldAt_charges, old_eq]
      split <;> rfl

theorem setAutoincrement_accounts (parameter : TransferParameter)
    (autoincrement : Autoincrement.Sequence) :
    Accounts (parameter.setAutoincrement autoincrement) (·.held.charges Snapshot.format)
      (parameter.held.charges Snapshot.format) := by
  apply setPart_accounts
  · rw [Snapshot.footprint_eq, Nat.add_comm]
  · rw [Snapshot.footprint_eq, Nat.add_comm]

theorem setBinding_accounts (parameter : TransferParameter) (binding : Binding) :
    Accounts (parameter.setBinding binding) (·.held.charges Snapshot.format)
      (parameter.held.charges Snapshot.format) := by
  apply setPart_accounts
  · rw [Snapshot.footprint_eq, Nat.add_left_comm, Nat.add_comm]
  · rw [Snapshot.footprint_eq, Nat.add_left_comm, Nat.add_comm]

theorem setSchema_accounts (parameter : TransferParameter) (schema : StorageSchema) :
    Accounts (parameter.setSchema schema) (·.held.charges Snapshot.format)
      (parameter.held.charges Snapshot.format) := by
  refine setPart_accounts parameter
    (Autoincrement.Sequence.format.footprint parameter.snapshot.autoincrement +
      (Binding.format.footprint parameter.snapshot.binding +
        CompactionQueue.format.footprint parameter.snapshot.compactions)) ?_ ?_
  · simp only [Snapshot.footprint_eq]
    omega
  · simp only [Snapshot.footprint_eq]
    omega

theorem setCompactions_accounts (parameter : TransferParameter) (compactions : CompactionQueue) :
    Accounts (parameter.setCompactions compactions) (·.held.charges Snapshot.format)
      (parameter.held.charges Snapshot.format) := by
  refine setPart_accounts parameter
    (Autoincrement.Sequence.format.footprint parameter.snapshot.autoincrement +
      (Binding.format.footprint parameter.snapshot.binding +
        StorageSchema.format.footprint parameter.snapshot.schema)) ?_ ?_
  · simp only [Snapshot.footprint_eq]
    omega
  · simp only [Snapshot.footprint_eq]
    omega

theorem assign_eq_ok_iff {source : TransferParameter} :
    parameter.assign source before = .ok result after ↔
      source.snapshot.isValid ∧
        parameter.setPart Snapshot.format parameter.snapshot source.snapshot source.snapshot before =
          .ok result after := by
  simp only [assign, refuse, ite_throw_eq_ok_iff, Bool.not_eq_true', Bool.not_eq_false]

theorem assign_accounts (parameter source : TransferParameter) :
    Accounts (parameter.assign source) (·.held.charges Snapshot.format)
      (parameter.held.charges Snapshot.format) where
  restores := by
    refine .ite (.throw _) ?_
    exact (setPart_accounts parameter 0 (Nat.zero_add _).symm (Nat.zero_add _).symm).restores
  posting := by
    intro before result after fresh done
    obtain ⟨-, done⟩ := assign_eq_ok_iff.mp done
    exact (setPart_accounts parameter 0 (Nat.zero_add _).symm (Nat.zero_add _).symm).posting
      _ _ _ fresh done

theorem reset_eq_ok_iff :
    parameter.reset before = .ok result after ↔
      result = { parameter with snapshot := {} } ∧
        after = before.releaseAll (parameter.held.charges Snapshot.format) := by
  constructor
  · intro h
    cases h
    exact ⟨rfl, rfl⟩
  · rintro ⟨rfl, rfl⟩
    rfl

theorem reset_accounts (parameter : TransferParameter) :
    Accounts parameter.reset (·.held.charges Snapshot.format)
      (parameter.held.charges Snapshot.format) where
  restores := by
    intro before fault after failed
    cases failed
  posting := by
    intro before result after _ done
    obtain ⟨rfl, rfl⟩ := reset_eq_ok_iff.mp done
    exact (Ledger.Posting.refl before []).releaseAll _

theorem read_eq_ok_iff {buffer : List UInt8} {position position' : Nat} :
    parameter.read buffer position before = .ok (result, position') after ↔
      ∃ header snapshot account,
        Wire.Record.Stands Snapshot.format Snapshot.currentVersion parameter.settings.recordLimit
          header snapshot buffer position ∧
        (snapshot.Legal ∧ snapshot.isValid ∧
          (before.account parameter.arena).chargeAll (Snapshot.format.charges snapshot) =
            .ok account) ∧
        (result = { parameter with snapshot } ∧ position' = position + header.size ∧
          after = (before.set parameter.arena account).releaseAll
            (parameter.held.charges Snapshot.format)) := by
  simp only [read, readRecord_eq_ok_iff Snapshot.format_lawful, bind_eq_ok_iff, get_apply,
    throw_bind, ite_else_throw_eq_ok_iff]
  constructor
  · rintro ⟨header, snapshot, account, stands, legal, fits, _, _, h, valid, _, _, dropped, made⟩
    cases h
    cases dropped
    cases made
    exact ⟨header, snapshot, account, stands, ⟨legal, valid, fits⟩, rfl, rfl, rfl⟩
  · rintro ⟨header, snapshot, account, stands, ⟨legal, valid, fits⟩, rfl, rfl, rfl⟩
    exact ⟨header, snapshot, account, stands, legal, fits, _, _, rfl, valid, (), _, rfl, rfl⟩

theorem read_accounts (parameter : TransferParameter) (buffer : List UInt8) (position : Nat) :
    Accounts (parameter.read buffer position) (·.1.held.charges Snapshot.format)
      (parameter.held.charges Snapshot.format) where
  restores := by
    refine .readRecord Snapshot.format_lawful fun header snapshot => .get_bind fun ledger => ?_
    refine .ite ?_ (.throw _)
    intro before fault after failed
    cases failed
  posting := by
    rintro before ⟨result, position'⟩ after _ done
    obtain ⟨header, snapshot, account, -, ⟨-, -, fits⟩, rfl, -, rfl⟩ := read_eq_ok_iff.mp done
    exact (Ledger.Posting.of_chargeAll fits).releaseAll _

theorem ofTablet_eq_ok_iff {tablet : Tablet} {schema : StorageSchema}
    {compactions : CompactionQueue} :
    ofTablet tablet schema compactions before = .ok result after ↔
      ∃ descriptor arena, tablet = .initialized descriptor arena ∧ descriptor.isValid ∧
        ofSnapshot {} (snapshotOf descriptor.toDescriptorBody schema compactions) before =
          .ok result after := by
  cases tablet with
  | uninitialized =>
    constructor
    · intro h
      cases h
    · rintro ⟨_, _, h, -⟩
      cases h
  | initialized descriptor arena =>
    simp only [ofTablet, refuse, ite_throw_eq_ok_iff, Bool.not_eq_true', Bool.not_eq_false]
    constructor
    · rintro ⟨valid, made⟩
      exact ⟨descriptor, arena, rfl, valid, made⟩
    · rintro ⟨_, _, h, valid, made⟩
      cases h
      exact ⟨valid, made⟩

theorem ofTablet_accounts (tablet : Tablet) (schema : StorageSchema)
    (compactions : CompactionQueue) :
    Accounts (ofTablet tablet schema compactions) (·.held.charges Snapshot.format) [] where
  restores := by
    cases tablet with
    | uninitialized => exact .throw _
    | initialized descriptor arena => exact .ite (.throw _) (ofSnapshot_restores _ _)
  posting := by
    intro before result after fresh done
    obtain ⟨descriptor, arena, -, -, made⟩ := ofTablet_eq_ok_iff.mp done
    exact (ofSnapshot_accounts _ _).posting _ _ _ fresh made

theorem restorePlaceholder_eq_ok_iff {name : TabletName} {dataTabletId : TabletId}
    {createScn : Scn} :
    restorePlaceholder name dataTabletId createScn before = .ok result after ↔
      (placeholderSnapshot name dataTabletId createScn).isValid ∧
        ofSnapshot {} (placeholderSnapshot name dataTabletId createScn) before =
          .ok result after := by
  simp only [restorePlaceholder, refuse, ite_throw_eq_ok_iff, Bool.not_eq_true', Bool.not_eq_false]

theorem restorePlaceholder_accounts (name : TabletName) (dataTabletId : TabletId)
    (createScn : Scn) :
    Accounts (restorePlaceholder name dataTabletId createScn) (·.held.charges Snapshot.format) []
    where
  restores := .ite (.throw _) (ofSnapshot_restores _ _)
  posting := by
    intro before result after fresh done
    obtain ⟨-, made⟩ := restorePlaceholder_eq_ok_iff.mp done
    exact (ofSnapshot_accounts _ _).posting _ _ _ fresh made

end TransferParameter

end TabletRecords
