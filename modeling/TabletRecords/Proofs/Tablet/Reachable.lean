import TabletRecords.Proofs.Session.Reachable

/-!
Reachable tablets. Whatever steps a run takes, and whichever of them fail, a tablet that it ends
with is either untouched or has a valid descriptor under the header of its own record.
-/
namespace TabletRecords.Tablet

open Arena (ArenaId)
open Session (Step)

variable {tablet : Tablet}

theorem sound_of_reachable (reachable : Session.Object.Reachable (.tablet tablet)) :
    tablet.Sound := by
  obtain ⟨session, sound, name, found⟩ := reachable.sound
  exact (sound.find? found).valid

/-- A tablet is initialized exactly when it is valid. Once it is, its header is that of its own
record, its sequence names no column twice, and an arena pays for its lists; before that, it is
blank. -/
theorem reachable_invariant (reachable : Session.Object.Reachable (.tablet tablet)) :
    (tablet.isInitialized ↔ tablet.isValid) ∧
    (tablet.isInitialized →
      (0 ≤ tablet.descriptor.multiVersionStart ∧
        tablet.descriptor.multiVersionStart ≤ tablet.descriptor.snapshotVersion) ∧
      tablet.descriptor.version = Descriptor.currentVersion ∧
      (tablet.descriptor.length.toInt = tablet.recordSize ∧ tablet.recordSize < 0x80000000) ∧
      tablet.descriptor.autoincrement.columns.Nodup ∧
      tablet.arena?.isSome) ∧
    (¬tablet.isInitialized → tablet = uninitialized ∧ tablet.descriptor = .blank) := by
  have sound := sound_of_reachable reachable
  cases tablet with
  | uninitialized =>
    refine ⟨Iff.rfl, ?_, ?_⟩
    · intro initialized
      cases initialized
    · intro _
      exact ⟨rfl, rfl⟩
  | initialized descriptor arena =>
    have sound : descriptor.Sound := sound
    have valid := sound.isValid
    have columns : descriptor.autoincrement.columns.Nodup :=
      of_decide_eq_true sound.autoincrement
    refine ⟨iff_of_true rfl valid, ?_, ?_⟩
    · intro _
      have length : descriptor.length.toInt = descriptor.recordSize := sound.toInt_length
      have order := DescriptorBody.order_of_isValid valid
      exact ⟨order, sound.version, ⟨length, sound.recordSize_lt⟩, columns, rfl⟩
    · intro uninitialized
      exact absurd rfl uninitialized

/-- A run that creates a tablet, and then a later generation of it with a sequence and a hidden
tablet. -/
def succession : List Step :=
  [.openArena "a" "lists" 4096,
   .makeTablet "t",
   .initTablet "t" "a" (.create {
     logStreamId := ⟨1⟩
     tabletId := ⟨7⟩
     dataTabletId := ⟨7⟩
     lobMetaTabletId := ⟨8⟩
     lobPieceTabletId := ⟨9⟩
     createScn := ⟨1⟩
     snapshotVersion := 3
     compatMode := .mySql
     storeFlag := {}
     syncedSchemaVersion := 0 }),
   .makeSequence "s" "a" [⟨16, 100⟩],
   .makeBinding "b" ⟨7⟩ ⟨8⟩ ⟨9⟩,
   .setHidden "b" "a" [⟨10⟩],
   .makeTablet "u",
   .initTablet "u" "a" (.succeed "t" 5 4 { binding? := some "b", autoincrement? := some "s" }
     none none none none none)]

def successor : Tablet :=
  .initialized
    (Descriptor.framed Descriptor.currentVersion {
      logStreamId := ⟨1⟩
      tabletId := ⟨7⟩
      dataTabletId := ⟨7⟩
      refTabletId := ⟨9⟩
      createScn := ⟨1⟩
      startScn := .firstCheckpoint
      clogCheckpoint := .firstCheckpoint
      ddlCheckpoint := .firstCheckpoint
      ddlStartLog := .zero
      snapshotVersion := 5
      multiVersionStart := 4
      compatMode := .mySql
      autoincrement := ⟨[⟨16, 100⟩]⟩
      readiness := .fresh
      reportStatus := { mergeSnapshotVersion := 3, currentReportVersion := 3 }
      binding :=
        { dataTabletId := ⟨7⟩
          lobMetaTabletId := ⟨8⟩
          lobPieceTabletId := ⟨9⟩
          hiddenTabletIds := [⟨10⟩] } })
    ⟨0⟩

theorem reachable_successor : Session.Object.Reachable (.tablet successor) :=
  ⟨succession, "u", rfl⟩

theorem reachable_invariant_successor :
    Session.Object.Reachable (.tablet successor) ∧ successor.isValid ∧
      successor.descriptor.length.toInt = successor.recordSize ∧ successor.arena?.isSome := by
  obtain ⟨valid, ready, -⟩ := reachable_invariant reachable_successor
  obtain ⟨-, -, ⟨length, -⟩, -, paid⟩ := ready rfl
  exact ⟨reachable_successor, valid.mp rfl, length, paid⟩

end TabletRecords.Tablet
