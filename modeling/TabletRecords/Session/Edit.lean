import TabletRecords.Snapshot.Basic

/-!
Edits: assignments to the fields that anyone may set. A field that an edit leaves out keeps its
value, and nothing is checked. Lists, and the mark of a placeholder, are not among these fields.
-/
namespace TabletRecords.Session

structure BindingEdit where
  redefined? : Option Bool := none
  snapshotVersion? : Option Int64 := none
  schemaVersion? : Option Int64 := none
  dataTabletId? : Option TabletId := none
  lobMetaTabletId? : Option TabletId := none
  lobPieceTabletId? : Option TabletId := none

def BindingEdit.apply (edit : BindingEdit) (binding : Binding) : Binding :=
  { binding with
    redefined := edit.redefined?.getD binding.redefined
    snapshotVersion := edit.snapshotVersion?.getD binding.snapshotVersion
    schemaVersion := edit.schemaVersion?.getD binding.schemaVersion
    dataTabletId := edit.dataTabletId?.getD binding.dataTabletId
    lobMetaTabletId := edit.lobMetaTabletId?.getD binding.lobMetaTabletId
    lobPieceTabletId := edit.lobPieceTabletId?.getD binding.lobPieceTabletId }

structure SchemaEdit where
  formatVersion? : Option Int32 := none
  schemaVersion? : Option Int64 := none
  compatMode? : Option CompatMode := none
  tableType? : Option TableType := none
  indexType? : Option IndexType := none
  rowStoreType? : Option RowStoreType := none
  usesBloomFilter? : Option Bool := none
  tabletSize? : Option Int64 := none
  percentFree? : Option Int64 := none
  blockSize? : Option Int64 := none
  progressiveMergeRound? : Option Int64 := none
  progressiveMergeCount? : Option Int64 := none
  masterKeyId? : Option UInt64 := none

def SchemaEdit.apply (edit : SchemaEdit) (schema : StorageSchema) : StorageSchema :=
  { schema with
    formatVersion := edit.formatVersion?.getD schema.formatVersion
    schemaVersion := edit.schemaVersion?.getD schema.schemaVersion
    compatMode := edit.compatMode?.getD schema.compatMode
    tableType := edit.tableType?.getD schema.tableType
    indexType := edit.indexType?.getD schema.indexType
    rowStoreType := edit.rowStoreType?.getD schema.rowStoreType
    usesBloomFilter := edit.usesBloomFilter?.getD schema.usesBloomFilter
    tabletSize := edit.tabletSize?.getD schema.tabletSize
    percentFree := edit.percentFree?.getD schema.percentFree
    blockSize := edit.blockSize?.getD schema.blockSize
    progressiveMergeRound := edit.progressiveMergeRound?.getD schema.progressiveMergeRound
    progressiveMergeCount := edit.progressiveMergeCount?.getD schema.progressiveMergeCount
    masterKeyId := edit.masterKeyId?.getD schema.masterKeyId }

structure QueueEdit where
  lastType? : Option CompactionType := none
  lastSnapshot? : Option Int64 := none
  awaitsCheck? : Option Bool := none

def QueueEdit.apply (edit : QueueEdit) (queue : CompactionQueue) : CompactionQueue :=
  { queue with
    lastType := edit.lastType?.getD queue.lastType
    lastSnapshot := edit.lastSnapshot?.getD queue.lastSnapshot
    awaitsCheck := edit.awaitsCheck?.getD queue.awaitsCheck }

/-- Assignments to the fields of a snapshot. A watermark may be assigned no value at all. -/
structure SnapshotEdit where
  logStreamId? : Option LogStreamId := none
  tabletId? : Option TabletId := none
  dataTabletId? : Option TabletId := none
  refTabletId? : Option TabletId := none
  createScn? : Option Scn := none
  startScn? : Option Scn := none
  clogCheckpoint? : Option Scn := none
  ddlCheckpoint? : Option (Option Scn) := none
  ddlStartLog? : Option (Option Scn) := none
  ddlSnapshotVersion? : Option (Option Int64) := none
  snapshotVersion? : Option Int64 := none
  multiVersionStart? : Option Int64 := none
  compatMode? : Option CompatMode := none
  readiness? : Option Readiness := none
  reportStatus? : Option ReportStatus := none
  transaction? : Option TransactionState := none
  storeFlag? : Option StoreFlag := none
  syncedSchemaVersion? : Option Int64 := none

def SnapshotEdit.apply (edit : SnapshotEdit) (snapshot : Snapshot) : Snapshot :=
  { snapshot with
    logStreamId := edit.logStreamId?.getD snapshot.logStreamId
    tabletId := edit.tabletId?.getD snapshot.tabletId
    dataTabletId := edit.dataTabletId?.getD snapshot.dataTabletId
    refTabletId := edit.refTabletId?.getD snapshot.refTabletId
    createScn := edit.createScn?.getD snapshot.createScn
    startScn := edit.startScn?.getD snapshot.startScn
    clogCheckpoint := edit.clogCheckpoint?.getD snapshot.clogCheckpoint
    ddlCheckpoint? := edit.ddlCheckpoint?.getD snapshot.ddlCheckpoint?
    ddlStartLog? := edit.ddlStartLog?.getD snapshot.ddlStartLog?
    ddlSnapshotVersion? := edit.ddlSnapshotVersion?.getD snapshot.ddlSnapshotVersion?
    snapshotVersion := edit.snapshotVersion?.getD snapshot.snapshotVersion
    multiVersionStart := edit.multiVersionStart?.getD snapshot.multiVersionStart
    compatMode := edit.compatMode?.getD snapshot.compatMode
    readiness := edit.readiness?.getD snapshot.readiness
    reportStatus := edit.reportStatus?.getD snapshot.reportStatus
    transaction := edit.transaction?.getD snapshot.transaction
    storeFlag := edit.storeFlag?.getD snapshot.storeFlag
    syncedSchemaVersion := edit.syncedSchemaVersion?.getD snapshot.syncedSchemaVersion }

end TabletRecords.Session
