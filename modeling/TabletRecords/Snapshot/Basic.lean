import TabletRecords.Compaction.Queue
import TabletRecords.Descriptor.Basic
import TabletRecords.Schema.Basic

/-!
Snapshots: what a node sends of a tablet to another one. A snapshot carries the schema and the
compaction queue next to the fields of the descriptor, and may leave out three of those.
-/
namespace TabletRecords

/-- What is transferred of a tablet, in the order of the record. -/
structure Snapshot where
  logStreamId : LogStreamId := .invalid
  tabletId : TabletId := .invalid
  dataTabletId : TabletId := .invalid
  refTabletId : TabletId := .invalid
  createScn : Scn := .invalid
  startScn : Scn := .invalid
  clogCheckpoint : Scn := .invalid
  /-- How far its schema changes are checkpointed, if the sender says so. -/
  ddlCheckpoint? : Option Scn := none
  ddlStartLog? : Option Scn := none
  ddlSnapshotVersion? : Option Int64 := none
  snapshotVersion : Int64 := 0
  multiVersionStart : Int64 := 0
  compatMode : CompatMode := .invalid
  autoincrement : Autoincrement.Sequence := {}
  readiness : Readiness := {}
  reportStatus : ReportStatus := {}
  transaction : TransactionState := {}
  binding : Binding := {}
  schema : StorageSchema := .blank
  compactions : CompactionQueue := {}
  storeFlag : StoreFlag := {}
  /-- The latest schema version that has been synchronised; the schema may be ahead of it. -/
  syncedSchemaVersion : Int64 := 0
deriving DecidableEq

namespace Snapshot

def currentVersion : Int32 := 1

def format : Wire.Format Snapshot :=
  (LogStreamId.format.pair <| TabletId.format.pair <| TabletId.format.pair <|
    TabletId.format.pair <| Scn.format.pair <| Scn.format.pair <| Scn.format.pair <|
    Scn.format.optional.pair <| Scn.format.optional.pair <| Wire.Format.int64.optional.pair <|
    Wire.Format.int64.pair <| Wire.Format.int64.pair <| (Wire.Format.tagged CompatMode).pair <|
    Autoincrement.Sequence.format.pair <| Readiness.format.pair <| ReportStatus.format.pair <|
    TransactionState.format.pair <| Binding.format.pair <| StorageSchema.format.pair <|
    CompactionQueue.format.pair <| StoreFlag.format.pair Wire.Format.int64).map
    (fun (logStreamId, tabletId, dataTabletId, refTabletId, createScn, startScn, clogCheckpoint,
        ddlCheckpoint?, ddlStartLog?, ddlSnapshotVersion?, snapshotVersion, multiVersionStart,
        compatMode, autoincrement, readiness, reportStatus, transaction, binding, schema,
        compactions, storeFlag, syncedSchemaVersion) =>
      { logStreamId, tabletId, dataTabletId, refTabletId, createScn, startScn, clogCheckpoint,
        ddlCheckpoint?, ddlStartLog?, ddlSnapshotVersion?, snapshotVersion, multiVersionStart,
        compatMode, autoincrement, readiness, reportStatus, transaction, binding, schema,
        compactions, storeFlag, syncedSchemaVersion })
    (fun snapshot =>
      (snapshot.logStreamId, snapshot.tabletId, snapshot.dataTabletId, snapshot.refTabletId,
        snapshot.createScn, snapshot.startScn, snapshot.clogCheckpoint, snapshot.ddlCheckpoint?,
        snapshot.ddlStartLog?, snapshot.ddlSnapshotVersion?, snapshot.snapshotVersion,
        snapshot.multiVersionStart, snapshot.compatMode, snapshot.autoincrement,
        snapshot.readiness, snapshot.reportStatus, snapshot.transaction, snapshot.binding,
        snapshot.schema, snapshot.compactions, snapshot.storeFlag, snapshot.syncedSchemaVersion))

/-- A snapshot can be sent if it names its tablet and its time of creation, has its versions in
order, a known dialect, a schema to read rows by and a valid queue. -/
def isValid (snapshot : Snapshot) : Bool :=
  snapshot.logStreamId.isValid
    && snapshot.tabletId.isValid
    && snapshot.dataTabletId.isValid
    && snapshot.createScn.isValid
    && createdBeforeStart snapshot.createScn snapshot.startScn
    && 0 ≤ snapshot.multiVersionStart
    && snapshot.multiVersionStart ≤ snapshot.snapshotVersion
    && snapshot.compatMode.isValid
    && snapshot.readiness.isValid
    && snapshot.schema.isValid
    && snapshot.compactions.isValid

def isPlaceholder (snapshot : Snapshot) : Bool := snapshot.schema.isPlaceholder

def recordSize (snapshot : Snapshot) : Nat := Wire.headerSize + format.size snapshot

instance : Inhabited Snapshot := ⟨{}⟩

instance : Text.Printable Snapshot :=
  ⟨fun snapshot => .record "MigrationTabletParam"
    [("ls_id", Text.tree snapshot.logStreamId),
     ("tablet_id", Text.tree snapshot.tabletId),
     ("data_tablet_id", Text.tree snapshot.dataTabletId),
     ("ref_tablet_id", Text.tree snapshot.refTabletId),
     ("create_scn", Text.tree snapshot.createScn),
     ("start_scn", Text.tree snapshot.startScn),
     ("clog_checkpoint_ts", Text.tree snapshot.clogCheckpoint),
     ("ddl_checkpoint_ts", Text.tree snapshot.ddlCheckpoint?),
     ("ddl_start_log_ts", Text.tree snapshot.ddlStartLog?),
     ("ddl_snapshot_version", Text.tree snapshot.ddlSnapshotVersion?),
     ("snapshot_version", Text.tree snapshot.snapshotVersion),
     ("multi_version_start", Text.tree snapshot.multiVersionStart),
     ("compat_mode", Text.tree snapshot.compatMode),
     ("autoinc_seq", Text.tree snapshot.autoincrement),
     ("ha_status", Text.tree snapshot.readiness),
     ("report_status", Text.tree snapshot.reportStatus),
     ("tx_data", Text.tree snapshot.transaction),
     ("ddl_data", Text.tree snapshot.binding),
     ("storage_schema", Text.tree snapshot.schema),
     ("medium_info_list", Text.tree snapshot.compactions),
     ("table_store_flag", Text.tree snapshot.storeFlag),
     ("max_sync_storage_schema_version", Text.tree snapshot.syncedSchemaVersion)]⟩

def treeIn (snapshot : Snapshot) (account : Arena.Account) : Text.Tree :=
  .record "MigrationTabletParam"
    (("arena", Text.tree account) :: (Text.tree snapshot).fields)

end Snapshot

end TabletRecords
