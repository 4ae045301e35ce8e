import TabletRecords.Proofs.Tablet.Acceptance

/-!
Reception. A snapshot reaches a tablet in two ways: a new tablet is initialized from it, or a tablet
in use is updated by it. Both ways take the same snapshots, need the same of the arena, and lead to
the same descriptor, up to what the snapshot does not carry.
-/
namespace TabletRecords

open Arena (ArenaId Ledger)
open Charging Outcome

/-- The snapshots that a tablet can be made of. A valid one can still be short of the schema that it
has been synchronised to, or of its checkpoints. -/
structure Snapshot.Adoptable (snapshot : Snapshot) : Prop where
  isValid : snapshot.isValid
  syncedSchemaVersion : 0 ≤ snapshot.syncedSchemaVersion
  started : snapshot.readiness.isPending ∨
    Scn.firstCheckpoint ≤ snapshot.startScn ∧ Scn.firstCheckpoint ≤ snapshot.clogCheckpoint

namespace DescriptorBody

variable {base : DescriptorBody} {snapshot : Snapshot}

theorem isValid_receive_iff :
    (snapshot.isValid ∧ (base.receive snapshot).isValid) ↔ snapshot.Adoptable := by
  constructor
  · rintro ⟨valid, received⟩
    have received := isValid_iff.mp received
    exact ⟨valid, received.syncedSchemaVersion, received.started⟩
  · rintro ⟨valid, synced, started⟩
    exact ⟨valid, isValid_iff.mpr { Snapshot.isValid_iff.mp valid with
      syncedSchemaVersion := synced, started }⟩

theorem affords_receive_iff {other : DescriptorBody} {ledger : Ledger} {arena : ArenaId} :
    ledger.Affords arena (base.receive snapshot) ↔ ledger.Affords arena (other.receive snapshot) :=
  ⟨fun affords => affords.congr rfl rfl, fun affords => affords.congr rfl rfl⟩

end DescriptorBody

namespace Tablet

variable {old : Descriptor} {snapshot : Snapshot} {arena : ArenaId} {before after : Ledger}
  {fault : Fault}

theorem update_accepted_iff (named : old.name = snapshot.name) :
    (∃ result after, (initialized old arena).update snapshot before = .ok result after) ↔
      snapshot.Adoptable ∧
        before.Affords arena (old.toDescriptorBody.receive snapshot) := by
  rw [← @DescriptorBody.isValid_receive_iff old.toDescriptorBody]
  constructor
  · rintro ⟨result, after, done⟩
    obtain ⟨_, _, same, ⟨valid, -, received, small⟩, -, account, charged, -⟩ :=
      update_eq_ok_iff.mp done
    cases same
    exact ⟨⟨valid, received⟩, ⟨account, charged⟩, small⟩
  · rintro ⟨⟨valid, received⟩, ⟨account, charged⟩, small⟩
    exact ⟨_, _, update_eq_ok_iff.mpr
      ⟨old, arena, rfl, ⟨valid, named, received, small⟩, rfl, account, charged, rfl⟩⟩

theorem update_refused (adoptable : snapshot.Adoptable) (named : old.name = snapshot.name)
    (failed : (initialized old arena).update snapshot before = .error fault after) :
    fault.OfResources := by
  have received : (old.toDescriptorBody.receive snapshot).isValid :=
    (DescriptorBody.isValid_receive_iff.mpr adoptable).2
  have admitted : ¬(!snapshot.isValid) = true := by rw [adoptable.isValid]; decide
  rw [update, if_neg admitted, if_neg (Decidable.not_not.mpr named)] at failed
  rcases error_of_holding failed with ⟨refusal, rfl⟩ | ⟨held, after', failed⟩
  · exact .exhausted refusal
  simp only [received, if_true] at failed
  rcases bind_eq_error_iff.mp failed with failed | ⟨_, _, -, failed⟩
  · exact Descriptor.ofBody_refused failed
  · cases failed

theorem update_of_foreign (foreign : snapshot.isValid = false ∨ old.name ≠ snapshot.name) :
    ∃ cause, (initialized old arena).update snapshot before = .error (.argument cause) before := by
  by_cases invalid : (!snapshot.isValid) = true
  · refine ⟨.snapshot, ?_⟩
    rw [update, if_pos invalid]
    rfl
  · have other : old.name ≠ snapshot.name := foreign.resolve_left (by simpa using invalid)
    refine ⟨.updateName snapshot.name old.name, ?_⟩
    rw [update, if_neg invalid, if_pos other]
    rfl

/-- What becomes of a snapshot in a new tablet and in a tablet in use. The two descriptors have the
same header and the same fields, except that the tablet in use keeps its place in the chain, and its
own watermarks of schema changes where the snapshot has none. There the new tablet has those of any
new one. -/
structure Receives (snapshot : Snapshot) (old copy updated : Descriptor) : Prop where
  updated : updated =
    { copy with
      hasNextTablet := old.hasNextTablet
      ddlCheckpoint := snapshot.ddlCheckpoint?.getD old.ddlCheckpoint
      ddlStartLog := snapshot.ddlStartLog?.getD old.ddlStartLog
      ddlSnapshotVersion := snapshot.ddlSnapshotVersion?.getD old.ddlSnapshotVersion }
  hasNextTablet : copy.hasNextTablet = false
  ddlCheckpoint (fresh : NewTablet) :
    copy.ddlCheckpoint = snapshot.ddlCheckpoint?.getD fresh.body.ddlCheckpoint
  ddlStartLog (fresh : NewTablet) :
    copy.ddlStartLog = snapshot.ddlStartLog?.getD fresh.body.ddlStartLog
  ddlSnapshotVersion (fresh : NewTablet) :
    copy.ddlSnapshotVersion = snapshot.ddlSnapshotVersion?.getD fresh.body.ddlSnapshotVersion

theorem receives_framed (old : Descriptor) (snapshot : Snapshot) :
    Receives snapshot old
      (Descriptor.framed Descriptor.currentVersion (DescriptorBody.beforeChanges.receive snapshot))
      (Descriptor.framed Descriptor.currentVersion (old.toDescriptorBody.receive snapshot)) where
  updated := by
    unfold Descriptor.framed
    rw [DescriptorBody.recordSize, DescriptorBody.recordSize, DescriptorBody.size_eq,
      DescriptorBody.size_eq]
    rfl
  hasNextTablet := rfl
  ddlCheckpoint _ := rfl
  ddlStartLog _ := rfl
  ddlSnapshotVersion _ := rfl

/-- A snapshot is received alike by a new tablet and by the tablet in use that it is of. Both accept
it exactly where it can be adopted and their arena affords it, and otherwise than for lack of
resources they refuse no snapshot that can be adopted. Where both accept it, their descriptors
differ only in what the snapshot does not carry. A tablet in use refuses every snapshot that is not
valid or not its own. -/
theorem receptions_agree {old : Descriptor} {payer : ArenaId}
    (reachable : Session.Object.Reachable (.tablet (initialized old payer))) (snapshot : Snapshot) :
    (∀ (arena : ArenaId) (before : Ledger),
      (∃ copy after, uninitialized.init arena (.receive snapshot) before = .ok copy after) ↔
        snapshot.Adoptable ∧ before.Affords arena (InitRequest.receive snapshot).body) ∧
    (old.name = snapshot.name → ∀ before : Ledger,
      (∃ updated after, (initialized old payer).update snapshot before = .ok updated after) ↔
        snapshot.Adoptable ∧ before.Affords payer (InitRequest.receive snapshot).body) ∧
    (snapshot.Adoptable → ∀ (before : Ledger) (fault : Fault) (after : Ledger),
      (∀ arena, uninitialized.init arena (.receive snapshot) before = .error fault after →
        fault.OfResources) ∧
      (old.name = snapshot.name →
        (initialized old payer).update snapshot before = .error fault after → fault.OfResources)) ∧
    (∀ (arena : ArenaId) (copy updated : Tablet) (before after before' after' : Ledger),
      uninitialized.init arena (.receive snapshot) before = .ok copy after →
      (initialized old payer).update snapshot before' = .ok updated after' →
        ∃ copied renewed, copy = initialized copied arena ∧ updated = initialized renewed payer ∧
          Receives snapshot old copied renewed) ∧
    (snapshot.isValid = false ∨ old.name ≠ snapshot.name → ∀ before : Ledger,
      ∃ cause, (initialized old payer).update snapshot before = .error (.argument cause) before) := by
  have adoptable_iff : (InitRequest.receive snapshot).check = .ok () ∧
      (InitRequest.receive snapshot).body.isValid ↔ snapshot.Adoptable := by
    rw [← @DescriptorBody.isValid_receive_iff DescriptorBody.beforeChanges]
    exact and_congr_left' InitRequest.require_eq_ok_iff
  refine ⟨?_, ?_, ?_, ?_, ?_⟩
  · intro arena before
    rw [init_accepted_iff, adoptable_iff]
  · intro named before
    rw [update_accepted_iff named]
    exact and_congr_right' DescriptorBody.affords_receive_iff
  · intro adoptable before fault after
    refine ⟨fun arena failed => ?_, fun named => update_refused adoptable named⟩
    obtain ⟨checked, valid⟩ := adoptable_iff.mpr adoptable
    rcases init_refused failed with scarce | unchecked | ⟨-, invalid, -⟩
    · exact scarce
    · rw [checked] at unchecked
      cases unchecked
    · rw [valid] at invalid
      cases invalid
  · intro arena copy updated before after before' after' done done'
    have sound : old.Sound := sound_of_reachable reachable
    obtain ⟨-, rfl, -⟩ := init_eq_ok_iff.mp done
    obtain ⟨_, _, same, -, rfl, -⟩ := update_eq_ok_iff.mp done'
    cases same
    rw [sound.version]
    exact ⟨_, _, rfl, rfl, receives_framed old snapshot⟩
  · exact fun foreign before => update_of_foreign foreign

def outline : Snapshot :=
  { TransferParameter.snapshotOf successor.descriptor.toDescriptorBody .placeholder {} with
    snapshotVersion := 9
    ddlCheckpoint? := none
    ddlStartLog? := none
    ddlSnapshotVersion? := none }

theorem receptions_agree_outline :
    Session.Object.Reachable (.tablet successor) ∧ outline.Adoptable ∧
      ∃ copy updated after after',
        uninitialized.init ⟨1⟩ (.receive outline) (unusedLedger 24) = .ok copy after ∧
        successor.update outline (unusedLedger 24) = .ok updated after' ∧
        ∃ copied renewed, copy = initialized copied ⟨1⟩ ∧ updated = initialized renewed ⟨0⟩ ∧
          Receives outline successor.descriptor copied renewed := by
  have adoptable : outline.Adoptable := ⟨by decide, by decide, by decide⟩
  have affords (arena : ArenaId) :
      (unusedLedger 24).Affords arena (InitRequest.receive outline).body :=
    (Ledger.affords_iff (Nat.zero_le _)).mpr ⟨Nat.le_refl 24, by decide⟩
  obtain ⟨copies, updates, -, agrees, -⟩ :=
    @receptions_agree successor.descriptor ⟨0⟩ reachable_successor outline
  obtain ⟨copy, after, copied⟩ := (copies ⟨1⟩ (unusedLedger 24)).mpr ⟨adoptable, affords _⟩
  obtain ⟨updated, after', renewed⟩ := (updates rfl (unusedLedger 24)).mpr ⟨adoptable, affords _⟩
  exact ⟨reachable_successor, adoptable, copy, updated, after, after', copied, renewed,
    agrees _ _ _ _ _ _ _ copied renewed⟩

end Tablet

end TabletRecords
