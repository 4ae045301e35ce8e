import TabletRecords.Proofs.Session.History
import TabletRecords.Proofs.Tablet.RoundTrip

/-!
Times of creation. Every way to initialize or to change a tablet sees to it that its time of
creation is valid, except for reading a record: the validity of descriptors leaves this time out. A
tablet without a valid one is in use and can be written, but the snapshot that is sent of it is not
valid.
-/
namespace TabletRecords

open Arena (ArenaId Ledger)
open Charging Outcome
open Session (Object Step)

namespace InitRequest

theorem createScn_of_check_create {tablet : NewTablet}
    (checked : (create tablet).check = .ok ()) : tablet.createScn.isValid := by
  simp only [check, except_bind_eq_ok_iff, require_eq_ok_iff] at checked
  obtain ⟨_, -, _, valid, -⟩ := checked
  exact valid

end InitRequest

theorem Tablet.isInitialized_of_isValid {tablet : Tablet} (valid : tablet.isValid) :
    tablet.isInitialized := by
  rw [isValid, Bool.and_eq_true] at valid
  exact valid.1

namespace Session

def Object.Dated : Object → Prop
  | tablet t => t.isInitialized → t.descriptor.createScn.isValid
  | _ => True

theorem Object.dated_of_isValue {object : Object} (value : object.isValue) : object.Dated := by
  cases object with
  | tablet t => cases value
  | _ => trivial

variable {session : Session}

theorem InitSource.Asks.createScn {source : InitSource} {request : InitRequest}
    (asks : source.Asks session request) (all : session.All Object.Dated)
    (checked : request.check = .ok ()) : request.body.createScn.isValid := by
  have dated : ∀ {name : String} {old : Tablet}, session.find? name = some (.tablet old) →
      old.isValid → old.descriptor.createScn.isValid := fun found valid =>
    all _ _ found (Tablet.isInitialized_of_isValid valid)
  cases asks with
  | create tablet => exact InitRequest.createScn_of_check_create checked
  | succeed _ _ _ _ _ _ _ found fills =>
    exact dated found (InitRequest.check_succeed_eq_ok_iff.mp checked).1
  | receive found =>
    exact (Snapshot.isValid_iff.mp (InitRequest.require_eq_ok_iff.mp checked)).createScn
  | patch found fills => exact dated found (InitRequest.check_patch_eq_ok_iff.mp checked).1
  | bringForward found fills _ => exact dated found (InitRequest.check_patch_eq_ok_iff.mp checked).1

theorem find?_step_readTablet {name arena buffer : String} {payer : ArenaId} {bytes : List UInt8}
    {old result : Tablet} {settings : Settings} {position position' : Nat} {after : Ledger}
    (found : session.find? name = some (.tablet old))
    (named : session.find? arena = some (.arena payer))
    (found' : session.find? buffer = some (.buffer bytes))
    (done : old.read settings payer bytes position session.ledger = .ok (result, position') after) :
    (session.step (.readTablet name arena buffer position settings)).2.find? name =
      some (.tablet result) := by
  have wants : ∀ {α : Type} {name : String} {object : Object} {part? : Object → Option α} {value : α},
      session.find? name = some object → part? object = some value →
        Script.want name part? session = .ok value session := by
    intro α name object part? value found has
    have offered : (session.find? name).bind part? = some value := by rw [found]; exact has
    refine bind_eq_ok_iff.mpr ⟨session, session, rfl, ?_⟩
    rw [offered]
    rfl
  have script : (Step.readTablet name arena buffer position settings).script session =
      .ok (.position position')
        ({ session with ledger := after }.insert name (.tablet result)) := by
    refine bind_eq_ok_iff.mpr ⟨_, _, wants found rfl, ?_⟩
    refine bind_eq_ok_iff.mpr ⟨_, _, wants named rfl, ?_⟩
    refine bind_eq_ok_iff.mpr ⟨_, _, wants found' rfl, ?_⟩
    exact bind_eq_ok_iff.mpr ⟨_, _, Script.charging_eq_ok_iff.mpr ⟨_, done, rfl⟩, rfl⟩
  rw [Session.step, script]
  exact (find?_insert _ name name _).trans (if_pos rfl)

theorem passesOn_dated : PassesOn Object.Dated := by
  intro session step name object sound all puts unread
  cases puts with
  | copy target named found copies done =>
    exact Object.dated_of_isValue (Object.isValue_of_copy copies done)
  | makeTablet => exact nofun
  | initTablet found named asks done =>
    obtain ⟨⟨-, checked, -⟩, rfl, -⟩ := Tablet.init_eq_ok_iff.mp done
    exact fun _ => asks.createScn all checked
  | updateTablet found found' done =>
    obtain ⟨old, arena, -, ⟨valid, -⟩, rfl, -⟩ := Tablet.update_eq_ok_iff.mp done
    exact fun _ => (Snapshot.isValid_iff.mp valid).createScn
  | updateCreateScn found done =>
    obtain ⟨old, arena, -, ⟨valid, -⟩, rfl⟩ := Tablet.updateCreateScn_eq_ok_iff.mp done
    exact fun _ => valid
  | resetTablet found done =>
    obtain ⟨rfl, -⟩ := Tablet.reset_eq_ok_iff.mp done
    exact nofun
  | decode | readTablet => exact absurd rfl unread
  | _ => trivial

end Session

namespace Tablet

variable {descriptor : Descriptor} {arena : ArenaId}

theorem updateCreateScn_self_iff (sound : descriptor.Sound) :
    (initialized descriptor arena).updateCreateScn descriptor.createScn =
      .ok (initialized descriptor arena) ↔ descriptor.createScn.isValid := by
  rw [updateCreateScn_eq_ok_iff]
  constructor
  · rintro ⟨old, payer, h, ⟨valid, -⟩, -⟩
    exact valid
  · intro valid
    exact ⟨descriptor, arena, rfl,
      ⟨valid, (DescriptorBody.isValid_iff.mp sound.isValid).createdBeforeStart⟩, rfl⟩

theorem isValid_snapshotOf_iff {body : DescriptorBody} (valid : body.isValid)
    {schema : StorageSchema} {compactions : CompactionQueue} (schemaValid : schema.isValid)
    (queueValid : compactions.isValid) :
    (TransferParameter.snapshotOf body schema compactions).isValid ↔ body.createScn.isValid := by
  rw [Snapshot.isValid_iff]
  constructor
  · exact Snapshot.Valid.createScn
  · intro createScn
    exact { DescriptorBody.isValid_iff.mp valid with
      createScn, schema := schemaValid, compactions := queueValid }

theorem ofTablet_of_room (sound : descriptor.Sound) {schema : StorageSchema}
    {compactions : CompactionQueue}
    (room : Snapshot.format.footprint
      (TransferParameter.snapshotOf descriptor.toDescriptorBody schema compactions) ≤
        ({} : Settings).arenaLimit) (ledger : Ledger) :
    ∃ after, TransferParameter.ofTablet (initialized descriptor arena) schema compactions ledger =
      .ok ⟨⟨ledger.next⟩, {},
        TransferParameter.snapshotOf descriptor.toDescriptorBody schema compactions⟩ after := by
  have fits : (TransferParameter.freshAccount {}).used +
      Arena.total (Snapshot.format.charges
        (TransferParameter.snapshotOf descriptor.toDescriptorBody schema compactions)) ≤
          (TransferParameter.freshAccount {}).limit := by
    show 0 + _ ≤ _
    rw [Nat.zero_add]
    exact room
  exact ⟨_, TransferParameter.ofTablet_eq_ok_iff.mpr ⟨descriptor, arena, rfl, sound.isValid,
    TransferParameter.ofSnapshot_eq_ok_iff.mpr ⟨_, Arena.Account.chargeAll_of_room fits, rfl, rfl⟩⟩⟩

def loading (descriptor : Descriptor) : List Step :=
  [.openArena "a" "lists" (DescriptorBody.format.footprint descriptor.toDescriptorBody),
   .makeBuffer "r" descriptor.recordBytes,
   .makeTablet "t",
   .readTablet "t" "a" "r" 0 { recordLimit := descriptor.recordSize }]

theorem find?_loading (sound : descriptor.Sound) :
    (Session.run {} (loading descriptor)).find? "t" = some (.tablet (initialized descriptor ⟨0⟩)) := by
  have ready : ∃ session : Session,
      Session.run {} (loading descriptor) = (session.step (.readTablet "t" "a" "r" 0
        { recordLimit := descriptor.recordSize })).2 ∧
      session.find? "t" = some (.tablet .uninitialized) ∧
      session.find? "a" = some (.arena ⟨0⟩) ∧
      session.find? "r" = some (.buffer descriptor.recordBytes) ∧
      session.ledger = (Ledger.empty.openArena
        { label := "lists"
          limit := DescriptorBody.format.footprint descriptor.toDescriptorBody }).2 :=
    ⟨_, rfl, rfl, rfl, rfl, rfl⟩
  obtain ⟨session, run, found, named, found', opened⟩ := ready
  have unused : session.ledger.account ⟨0⟩ =
      { label := "lists"
        limit := DescriptorBody.format.footprint descriptor.toDescriptorBody } := by
    rw [opened]
    exact Ledger.account_openArena .empty _
  have room : session.ledger.used ⟨0⟩ + DescriptorBody.format.footprint
      descriptor.toDescriptorBody ≤ (session.ledger.account ⟨0⟩).limit := by
    rw [Ledger.used, unused]
    exact Nat.le_of_eq (Nat.zero_add _)
  have limit : descriptor.recordSize ≤
      ({ recordLimit := descriptor.recordSize } : Settings).recordLimit := Nat.le_refl _
  have stands : descriptor.recordBytes <+: descriptor.recordBytes.drop 0 := List.prefix_refl _
  obtain ⟨after, read⟩ := read_recordBytes sound limit (Nat.zero_le _) stands room
  rw [run]
  exact Session.find?_step_readTablet found named found' read

/-- The time of creation of a tablet in use is valid, as long as it is in the records that are read.
The tablet is given its own time again exactly where that is valid; and it is always sent if there
is room for what travels with it, but the snapshot that is sent is valid exactly where the time is.
-/
theorem isValid_createScn_iff {steps : List Step} {name : String} {tablet : Tablet}
    (found : (Session.run {} steps).find? name = some (.tablet tablet))
    (ready : tablet.isInitialized) :
    (Session.ReadsOnly Object.Dated {} steps → tablet.descriptor.createScn.isValid) ∧
    (tablet.updateCreateScn tablet.descriptor.createScn = .ok tablet ↔
      tablet.descriptor.createScn.isValid) ∧
    ∀ (schema : StorageSchema) (compactions : CompactionQueue) (ledger : Ledger),
      schema.isValid → compactions.isValid →
        tablet.descriptor.autoincrement.intervals.length * 16 +
            tablet.descriptor.binding.hiddenTabletIds.length * 8 +
            schema.rowkeyColumns.length * 16 + schema.columns.length * 16 +
            compactions.pending.length * 32 ≤ ({} : Settings).arenaLimit →
          ∃ parameter after,
            TransferParameter.ofTablet tablet schema compactions ledger = .ok parameter after ∧
              (parameter.snapshot.isValid ↔ tablet.descriptor.createScn.isValid) := by
  have sound := sound_of_reachable ⟨steps, name, found⟩
  cases tablet with
  | uninitialized => cases ready
  | initialized descriptor arena =>
    have sound : descriptor.Sound := sound
    refine ⟨?_, updateCreateScn_self_iff sound, ?_⟩
    · intro reads
      have all := Session.passesOn_dated.all_run Session.sound_empty (Session.all_empty _) reads
      exact all name _ found rfl
    · intro schema compactions ledger schemaValid queueValid room
      have fits : Snapshot.format.footprint (TransferParameter.snapshotOf
          descriptor.toDescriptorBody schema compactions) ≤ ({} : Settings).arenaLimit := by
        rw [Snapshot.footprint_eq_lengths]
        exact room
      obtain ⟨after, made⟩ := ofTablet_of_room sound fits ledger
      exact ⟨_, after, made, isValid_snapshotOf_iff sound.isValid schemaValid queueValid⟩

theorem isValid_createScn_iff_loading_successor :
    (Session.run {} (loading successor.descriptor)).find? "t" = some (.tablet successor) ∧
      successor.descriptor.createScn.isValid ∧
      successor.updateCreateScn successor.descriptor.createScn = .ok successor ∧
      ∃ parameter after,
        TransferParameter.ofTablet successor .placeholder {} .empty = .ok parameter after ∧
          parameter.snapshot.isValid := by
  have sound : Descriptor.Sound successor.descriptor := sound_of_reachable reachable_successor
  have found : (Session.run {} (loading successor.descriptor)).find? "t" = some (.tablet successor) :=
    find?_loading sound
  have valid : Object.Dated (.tablet successor) := fun _ => by decide
  have reads : Session.ReadsOnly Object.Dated {} (loading successor.descriptor) :=
    .cons rfl (.cons rfl (.cons rfl (.cons_of_reads rfl found valid trivial)))
  obtain ⟨dated, changes, sends⟩ := isValid_createScn_iff found rfl
  obtain ⟨parameter, after, made, valid⟩ := sends .placeholder {} .empty rfl rfl (by decide)
  exact ⟨found, dated reads, changes.mpr (dated reads), parameter, after, made, valid.mpr (dated reads)⟩

def undated : Descriptor :=
  Descriptor.framed Descriptor.currentVersion {
    logStreamId := ⟨1⟩
    tabletId := ⟨7⟩
    dataTabletId := ⟨7⟩
    startScn := .firstCheckpoint
    clogCheckpoint := .firstCheckpoint
    compatMode := .mySql }

/-- Records are not required to have a time of creation, and a tablet that is read from one without
it is in use. -/
theorem not_forall_isValid_createScn :
    ¬∀ (steps : List Step) (name : String) (tablet : Tablet),
      (Session.run {} steps).find? name = some (.tablet tablet) → tablet.isInitialized →
        tablet.descriptor.createScn.isValid := by
  intro dated
  have sound : undated.Sound := .framed rfl (by decide) (by decide) (by decide)
  have valid := dated _ _ _ (find?_loading sound) rfl
  exact absurd valid (by decide)

end Tablet

end TabletRecords
