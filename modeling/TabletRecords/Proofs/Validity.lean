import TabletRecords.Snapshot.Basic

/-!
Validity, condition by condition. What has to be shown of a valid body or of a valid snapshot, and
what can be used of it, goes by the name of the condition.
-/
namespace TabletRecords

structure DescriptorBody.Valid (body : DescriptorBody) : Prop where
  logStreamId : body.logStreamId.isValid
  tabletId : body.tabletId.isValid
  dataTabletId : body.dataTabletId.isValid
  createdBeforeStart : createdBeforeStart body.createScn body.startScn
  multiVersionStart : 0 ≤ body.multiVersionStart
  order : body.multiVersionStart ≤ body.snapshotVersion
  compatMode : body.compatMode.isValid
  syncedSchemaVersion : 0 ≤ body.syncedSchemaVersion
  readiness : body.readiness.isValid
  /-- Both checkpoints of the log are past their start, unless nothing is restored. -/
  started : body.readiness.isPending ∨
    Scn.firstCheckpoint ≤ body.startScn ∧ Scn.firstCheckpoint ≤ body.clogCheckpoint

theorem DescriptorBody.isValid_iff {body : DescriptorBody} : body.isValid ↔ body.Valid := by
  simp only [isValid, Bool.and_eq_true, Bool.or_eq_true, decide_eq_true_eq, and_assoc]
  constructor
  · rintro ⟨logStreamId, tabletId, dataTabletId, created, multiVersionStart, order, compatMode,
      syncedSchemaVersion, readiness, started⟩
    exact ⟨logStreamId, tabletId, dataTabletId, created, multiVersionStart, order, compatMode,
      syncedSchemaVersion, readiness, started⟩
  · intro valid
    exact ⟨valid.logStreamId, valid.tabletId, valid.dataTabletId, valid.createdBeforeStart,
      valid.multiVersionStart, valid.order, valid.compatMode, valid.syncedSchemaVersion,
      valid.readiness, valid.started⟩

structure Snapshot.Valid (snapshot : Snapshot) : Prop where
  logStreamId : snapshot.logStreamId.isValid
  tabletId : snapshot.tabletId.isValid
  dataTabletId : snapshot.dataTabletId.isValid
  createScn : snapshot.createScn.isValid
  createdBeforeStart : createdBeforeStart snapshot.createScn snapshot.startScn
  multiVersionStart : 0 ≤ snapshot.multiVersionStart
  order : snapshot.multiVersionStart ≤ snapshot.snapshotVersion
  compatMode : snapshot.compatMode.isValid
  readiness : snapshot.readiness.isValid
  schema : snapshot.schema.isValid
  compactions : snapshot.compactions.isValid

theorem Snapshot.isValid_iff {snapshot : Snapshot} : snapshot.isValid ↔ snapshot.Valid := by
  simp only [isValid, Bool.and_eq_true, decide_eq_true_eq, and_assoc]
  constructor
  · rintro ⟨logStreamId, tabletId, dataTabletId, createScn, created, multiVersionStart, order,
      compatMode, readiness, schema, compactions⟩
    exact ⟨logStreamId, tabletId, dataTabletId, createScn, created, multiVersionStart, order,
      compatMode, readiness, schema, compactions⟩
  · intro valid
    exact ⟨valid.logStreamId, valid.tabletId, valid.dataTabletId, valid.createScn,
      valid.createdBeforeStart, valid.multiVersionStart, valid.order, valid.compatMode,
      valid.readiness, valid.schema, valid.compactions⟩

end TabletRecords
