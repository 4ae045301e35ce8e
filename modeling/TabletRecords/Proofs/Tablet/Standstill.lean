import TabletRecords.Proofs.Parameter.RoundTrip
import TabletRecords.Proofs.Tablet.Generations

/-!
Standstill. A change that has nothing to change leaves a tablet as it is: a later generation with
the values of the last one, the replacement of the parts by themselves, and an update by the
tablet's own snapshot.
-/
namespace TabletRecords

open Arena (Account ArenaId Ledger)
open Outcome

theorem newer_eq_left {α : Type} [LE α] [Max α] [Std.IsLinearOrder α] [Std.LawfulOrderMax α] {old : α}
    {new? : Option α} (older : ∀ new ∈ new?, new ≤ old) : newer old new? = old := by
  cases new? with
  | none => rfl
  | some new =>
    exact Std.le_antisymm (Std.max_le_iff.mpr ⟨Std.le_refl old, older new rfl⟩) (le_newer _ _)

namespace DescriptorBody

/-- A generation says of a body what holds of it already. -/
structure RepeatedBy (body : DescriptorBody) (generation : Generation) : Prop where
  snapshotVersion : generation.snapshotVersion = body.snapshotVersion
  multiVersionStart : generation.multiVersionStart = body.multiVersionStart
  transaction : generation.transaction = body.transaction
  binding : generation.binding = body.binding
  autoincrement : generation.autoincrement = body.autoincrement
  syncedSchemaVersion : generation.syncedSchemaVersion = body.syncedSchemaVersion
  clogCheckpoint : ∀ scn ∈ generation.clogCheckpoint?, scn ≤ body.clogCheckpoint
  ddlCheckpoint : ∀ scn ∈ generation.ddlCheckpoint?, scn ≤ body.ddlCheckpoint
  ddlStartLog : ∀ scn ∈ generation.ddlStartLog?, scn ≤ body.ddlStartLog
  ddlSnapshotVersion : ∀ version ∈ generation.ddlSnapshotVersion?, version ≤ body.ddlSnapshotVersion

variable {body : DescriptorBody}

theorem RepeatedBy.succeed_eq {generation : Generation} (repeated : body.RepeatedBy generation) :
    body.succeed generation = body := by
  obtain ⟨snapshotVersion, multiVersionStart, transaction, binding, autoincrement, synced, clog, ddl,
    start, snapshot⟩ := repeated
  rw [succeed, snapshotVersion, multiVersionStart, transaction, binding, autoincrement, synced,
    newer_eq_left clog, newer_eq_left ddl, newer_eq_left start, newer_eq_left snapshot, Std.max_self]

def parts (body : DescriptorBody) : Replacement where
  transaction := body.transaction
  binding := body.binding
  autoincrement := body.autoincrement

theorem replaceParts_parts (body : DescriptorBody) : body.replaceParts body.parts = body := rfl

theorem receive_snapshotOf (body : DescriptorBody) (schema : StorageSchema)
    (compactions : CompactionQueue) :
    body.receive (TransferParameter.snapshotOf body schema compactions) = body := rfl

end DescriptorBody

theorem Descriptor.Sound.framed_eq {descriptor : Descriptor} (sound : descriptor.Sound) :
    Descriptor.framed descriptor.version descriptor.toDescriptorBody = descriptor := by
  unfold Descriptor.framed
  rw [← sound.length]

namespace Tablet

def HasRoom (tablet : Tablet) (ledger : Ledger) (arena : ArenaId) : Prop :=
  ledger.used arena + 16 * tablet.descriptor.autoincrement.intervals.length +
    8 * tablet.descriptor.binding.hiddenTabletIds.length ≤ (ledger.account arena).limit

variable {descriptor : Descriptor} {payer arena : ArenaId} {ledger : Ledger}

theorem HasRoom.chargeAll (room : (initialized descriptor payer).HasRoom ledger arena) :
    ∃ account, (ledger.account arena).chargeAll
      (DescriptorBody.format.charges descriptor.toDescriptorBody) = .ok account :=
  ⟨_, Account.chargeAll_of_room (DescriptorBody.room_iff.mpr room)⟩

theorem init_of_body_eq (sound : descriptor.Sound) {request : InitRequest}
    (checked : request.check = .ok ()) (same : request.body = descriptor.toDescriptorBody)
    (room : (initialized descriptor payer).HasRoom ledger arena) :
    ∃ after, uninitialized.init arena request ledger = .ok (initialized descriptor arena) after := by
  obtain ⟨account, charged⟩ := room.chargeAll
  have framed : Descriptor.framed Descriptor.currentVersion request.body = descriptor := by
    rw [same, ← sound.version]
    exact sound.framed_eq
  have valid : request.body.isValid := same ▸ sound.isValid
  have small : request.body.recordSize < 0x80000000 := same ▸ sound.recordSize_lt
  rw [← same] at charged
  refine ⟨_, init_eq_ok_iff.mpr ⟨⟨rfl, checked, valid, small⟩, ?_, account, charged, rfl⟩⟩
  rw [framed]

theorem update_snapshotOf (sound : descriptor.Sound) {schema : StorageSchema}
    {compactions : CompactionQueue}
    (valid : (TransferParameter.snapshotOf descriptor.toDescriptorBody schema compactions).isValid)
    (room : (initialized descriptor payer).HasRoom ledger payer) :
    (initialized descriptor payer).update
        (TransferParameter.snapshotOf descriptor.toDescriptorBody schema compactions) ledger =
      .ok (initialized descriptor payer) ledger := by
  obtain ⟨account, charged⟩ := room.chargeAll
  -- The new lists are charged before the old ones are let go, and the two are the same.
  refine update_eq_ok_iff.mpr ⟨descriptor, payer, rfl, ⟨valid, rfl, sound.isValid,
    sound.recordSize_lt⟩, ?_, account, charged, ?_⟩
  · rw [DescriptorBody.receive_snapshotOf, sound.framed_eq]
  · exact (Ledger.releaseAll_of_chargeAll charged).symm

/-- What changes nothing of a reachable tablet in use leaves it the same in all of its fields, its
header and its place in the chain among them. A later generation that repeats the values of the
tablet makes a copy of it wherever its lists have room, and so does the replacement of its parts by
themselves. Its own snapshot, where that can be sent, updates it to what it is, and the ledger is
what it was. -/
theorem standstill {tablet : Tablet} (reachable : Session.Object.Reachable (.tablet tablet))
    (ready : tablet.isInitialized) :
    (∀ generation : Generation, tablet.descriptor.RepeatedBy generation →
      ∀ (arena : ArenaId) (before : Ledger), tablet.HasRoom before arena →
        ∃ copy after, uninitialized.init arena (.succeed tablet generation) before = .ok copy after ∧
          copy.same tablet) ∧
    (∀ (arena : ArenaId) (before : Ledger), tablet.HasRoom before arena →
      ∃ copy after,
        uninitialized.init arena (.patch tablet tablet.descriptor.parts none) before =
          .ok copy after ∧
        copy.same tablet) ∧
    (∀ (schema : StorageSchema) (compactions : CompactionQueue) (parameter : TransferParameter)
      (before after : Ledger),
      TransferParameter.ofTablet tablet schema compactions before = .ok parameter after →
      parameter.snapshot.isValid →
        ∀ payer ∈ tablet.arena?, ∀ ledger : Ledger, tablet.HasRoom ledger payer →
          tablet.update parameter.snapshot ledger = .ok tablet ledger) := by
  cases tablet with
  | uninitialized => cases ready
  | initialized descriptor payer =>
  have sound : descriptor.Sound := sound_of_reachable reachable
  have valid : (initialized descriptor payer).isValid := sound.isValid
  refine ⟨?_, ?_, ?_⟩
  · intro generation repeated arena before room
    have checked : (InitRequest.succeed (initialized descriptor payer) generation).check = .ok () := by
      rw [InitRequest.check_succeed_eq_ok_iff, repeated.snapshotVersion, repeated.multiVersionStart]
      exact ⟨valid, (valid_of_isValid valid).order, Std.le_refl _, Std.le_refl _⟩
    obtain ⟨after, done⟩ := init_of_body_eq sound checked repeated.succeed_eq room
    exact ⟨_, after, done, same_initialized_iff.mpr rfl⟩
  · intro arena before room
    have checked : (InitRequest.patch (initialized descriptor payer) descriptor.parts none).check =
        .ok () :=
      InitRequest.check_patch_eq_ok_iff.mpr ⟨valid, by simp⟩
    obtain ⟨after, done⟩ :=
      init_of_body_eq sound checked descriptor.toDescriptorBody.replaceParts_parts room
    exact ⟨_, after, done, same_initialized_iff.mpr rfl⟩
  · intro schema compactions parameter before after made sendable own owner ledger room
    obtain ⟨_, _, same, -, made⟩ := TransferParameter.ofTablet_eq_ok_iff.mp made
    obtain ⟨account, -, rfl, -⟩ := TransferParameter.ofSnapshot_eq_ok_iff.mp made
    cases same
    cases owner
    exact update_snapshotOf sound sendable room

def repetition : Generation where
  snapshotVersion := 5
  multiVersionStart := 4
  transaction := {}
  binding := successor.descriptor.binding
  autoincrement := ⟨[⟨16, 100⟩]⟩
  syncedSchemaVersion := 0
  clogCheckpoint? := some .zero
  ddlStartLog? := some .zero

theorem standstill_successor :
    Session.Object.Reachable (.tablet successor) ∧
    (∃ copy after, uninitialized.init ⟨1⟩ (.succeed successor repetition) (unusedLedger 24) =
      .ok copy after ∧ copy.same successor) ∧
    (∃ copy after,
      uninitialized.init ⟨1⟩ (.patch successor successor.descriptor.parts none) (unusedLedger 24) =
        .ok copy after ∧ copy.same successor) ∧
    ∃ parameter after,
      TransferParameter.ofTablet successor .placeholder {} .empty = .ok parameter after ∧
      successor.update parameter.snapshot (unusedLedger 24) = .ok successor (unusedLedger 24) := by
  obtain ⟨succeeds, patches, updates⟩ := standstill reachable_successor rfl
  have room (arena : ArenaId) : successor.HasRoom (unusedLedger 24) arena := by
    show 0 + 16 * 1 + 8 * 1 ≤ 24
    decide
  have repeated : successor.descriptor.RepeatedBy repetition := by
    refine ⟨rfl, rfl, rfl, rfl, rfl, rfl, ?_, nofun, ?_, nofun⟩ <;>
    · rintro scn ⟨⟩
      decide
  have made : ∃ after, TransferParameter.ofTablet successor .placeholder {} .empty =
      .ok { TransferParameter.sentSuccessor with arena := ⟨0⟩ } after := ⟨_, rfl⟩
  obtain ⟨after, made⟩ := made
  exact ⟨reachable_successor, succeeds repetition repeated _ _ (room _), patches _ _ (room _), _, after,
    made, updates _ _ _ _ _ made rfl ⟨0⟩ rfl _ (room _)⟩

end Tablet

end TabletRecords
