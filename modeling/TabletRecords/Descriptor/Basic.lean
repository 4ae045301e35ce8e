import TabletRecords.Autoincrement.Sequence
import TabletRecords.Binding.Basic
import TabletRecords.Readiness
import TabletRecords.ReportStatus.Basic
import TabletRecords.StoreFlag
import TabletRecords.TransactionState
import TabletRecords.Wire.Record

/-!
Tablet descriptors: what is kept of a tablet from one start to the next. A descriptor is stored as a
record, and it holds the header of that record.
-/
namespace TabletRecords

/-- Once the start of a tablet's log is known, the tablet was not created after it. -/
def createdBeforeStart (createScn startScn : Scn) : Bool :=
  startScn ≤ Scn.firstCheckpoint || createScn ≤ startScn

/-- The fields of a descriptor that follow the header of its record, in the order of the record. -/
structure DescriptorBody where
  logStreamId : LogStreamId := .invalid
  tabletId : TabletId := .invalid
  dataTabletId : TabletId := .invalid
  refTabletId : TabletId := .invalid
  hasNextTablet : Bool := false
  createScn : Scn := .invalid
  startScn : Scn := .invalid
  clogCheckpoint : Scn := .invalid
  ddlCheckpoint : Scn := .invalid
  ddlStartLog : Scn := .invalid
  ddlSnapshotVersion : Int64 := 0
  snapshotVersion : Int64 := 0
  multiVersionStart : Int64 := 0
  compatMode : CompatMode := .invalid
  autoincrement : Autoincrement.Sequence := {}
  readiness : Readiness := {}
  reportStatus : ReportStatus := {}
  transaction : TransactionState := {}
  binding : Binding := {}
  storeFlag : StoreFlag := {}
  syncedSchemaVersion : Int64 := 0
deriving DecidableEq

namespace DescriptorBody

/-- The fields in order. The two names come first, so that a record can be routed by them alone. -/
def format : Wire.Format DescriptorBody :=
  (LogStreamId.format.pair <| TabletId.format.pair <| TabletId.format.pair <|
    TabletId.format.pair <| Wire.Format.bool.pair <| Scn.format.pair <| Scn.format.pair <|
    Scn.format.pair <| Scn.format.pair <| Scn.format.pair <| Wire.Format.int64.pair <|
    Wire.Format.int64.pair <| Wire.Format.int64.pair <| (Wire.Format.tagged CompatMode).pair <|
    Autoincrement.Sequence.format.pair <| Readiness.format.pair <| ReportStatus.format.pair <|
    TransactionState.format.pair <| Binding.format.pair <| StoreFlag.format.pair
    Wire.Format.int64).map
    (fun (logStreamId, tabletId, dataTabletId, refTabletId, hasNextTablet, createScn, startScn,
        clogCheckpoint, ddlCheckpoint, ddlStartLog, ddlSnapshotVersion, snapshotVersion,
        multiVersionStart, compatMode, autoincrement, readiness, reportStatus, transaction, binding,
        storeFlag, syncedSchemaVersion) =>
      { logStreamId, tabletId, dataTabletId, refTabletId, hasNextTablet, createScn, startScn,
        clogCheckpoint, ddlCheckpoint, ddlStartLog, ddlSnapshotVersion, snapshotVersion,
        multiVersionStart, compatMode, autoincrement, readiness, reportStatus, transaction, binding,
        storeFlag, syncedSchemaVersion })
    (fun body =>
      (body.logStreamId, body.tabletId, body.dataTabletId, body.refTabletId, body.hasNextTablet,
        body.createScn, body.startScn, body.clogCheckpoint, body.ddlCheckpoint, body.ddlStartLog,
        body.ddlSnapshotVersion, body.snapshotVersion, body.multiVersionStart, body.compatMode,
        body.autoincrement, body.readiness, body.reportStatus, body.transaction, body.binding,
        body.storeFlag, body.syncedSchemaVersion))

def namesFormat : Wire.Format (LogStreamId × TabletId) := LogStreamId.format.pair TabletId.format

/-- A tablet has names, was created before its log starts, has its snapshots in order and a known
dialect, and has watermarks past their start unless its restore is pending. -/
def isValid (body : DescriptorBody) : Bool :=
  body.logStreamId.isValid
    && body.tabletId.isValid
    && body.dataTabletId.isValid
    && createdBeforeStart body.createScn body.startScn
    && 0 ≤ body.multiVersionStart
    && body.multiVersionStart ≤ body.snapshotVersion
    && body.compatMode.isValid
    && 0 ≤ body.syncedSchemaVersion
    && body.readiness.isValid
    && (body.readiness.isPending
      || (Scn.firstCheckpoint ≤ body.startScn && Scn.firstCheckpoint ≤ body.clogCheckpoint))

def recordSize (body : DescriptorBody) : Nat := Wire.headerSize + format.size body

instance : Inhabited DescriptorBody := ⟨{}⟩

end DescriptorBody

/-- All that is kept of a tablet: the header of its record, and the fields after it. -/
structure Descriptor extends Wire.Header, DescriptorBody
deriving DecidableEq

namespace Descriptor

def currentVersion : Int32 := 1

def blank : Descriptor where
  version := currentVersion
  length := 0

def ofBody (version : Int32) (body : DescriptorBody) : Except Wire.Error Descriptor := do
  let header ← Wire.Header.ofSize version body.recordSize
  return { header with toDescriptorBody := body }

instance : Inhabited Descriptor := ⟨blank⟩

instance : Text.Printable Descriptor :=
  ⟨fun descriptor => .record "TabletMeta"
    [("version", Text.tree descriptor.version),
     ("length", Text.tree descriptor.length),
     ("ls_id", Text.tree descriptor.logStreamId),
     ("tablet_id", Text.tree descriptor.tabletId),
     ("data_tablet_id", Text.tree descriptor.dataTabletId),
     ("ref_tablet_id", Text.tree descriptor.refTabletId),
     ("has_next_tablet", Text.tree descriptor.hasNextTablet),
     ("create_scn", Text.tree descriptor.createScn),
     ("start_scn", Text.tree descriptor.startScn),
     ("clog_checkpoint_ts", Text.tree descriptor.clogCheckpoint),
     ("ddl_checkpoint_ts", Text.tree descriptor.ddlCheckpoint),
     ("ddl_start_log_ts", Text.tree descriptor.ddlStartLog),
     ("ddl_snapshot_version", Text.tree descriptor.ddlSnapshotVersion),
     ("snapshot_version", Text.tree descriptor.snapshotVersion),
     ("multi_version_start", Text.tree descriptor.multiVersionStart),
     ("compat_mode", Text.tree descriptor.compatMode),
     ("autoinc_seq", Text.tree descriptor.autoincrement),
     ("ha_status", Text.tree descriptor.readiness),
     ("report_status", Text.tree descriptor.reportStatus),
     ("tx_data", Text.tree descriptor.transaction),
     ("ddl_data", Text.tree descriptor.binding),
     ("table_store_flag", Text.tree descriptor.storeFlag),
     ("max_sync_storage_schema_version", Text.tree descriptor.syncedSchemaVersion)]⟩

def markedTree (descriptor : Descriptor) (initialized : Bool) : Text.Tree :=
  .record "TabletMeta"
    ((Text.tree descriptor).fields ++ [("is_inited", Text.tree initialized)])

end Descriptor

end TabletRecords
