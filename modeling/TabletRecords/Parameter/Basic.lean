import TabletRecords.Schema.Build
import TabletRecords.Tablet.Basic

/-!
Transfer parameters: the form in which a tablet travels between nodes. A parameter owns an arena,
bounded by its settings, and the lists of its snapshot are charged there and nowhere else.
-/
namespace TabletRecords

open Arena (Account ArenaId Ledger)

/-- A snapshot with the arena that pays for it and the limits that hold for it. -/
structure TransferParameter where
  arena : ArenaId
  settings : Settings
  snapshot : Snapshot := {}

namespace TransferParameter

def freshAccount (settings : Settings) : Account where
  label := "migration_tablet_param"
  limit := settings.arenaLimit

/-- A parameter for a snapshot. Its arena is opened with the snapshot's lists charged to it, if
they fit. -/
def ofSnapshot (settings : Settings) (snapshot : Snapshot) : Charging TransferParameter :=
  fun ledger =>
    match (freshAccount settings).chargeAll (Snapshot.format.charges snapshot) with
    | .error refusal => .error (.exhausted refusal) ledger
    | .ok account =>
        let (arena, ledger) := ledger.openArena account
        .ok { arena, settings, snapshot } ledger

def blank (settings : Settings) : Charging TransferParameter := ofSnapshot settings {}

def snapshotOf (descriptor : DescriptorBody) (schema : StorageSchema)
    (compactions : CompactionQueue) : Snapshot where
  logStreamId := descriptor.logStreamId
  tabletId := descriptor.tabletId
  dataTabletId := descriptor.dataTabletId
  refTabletId := descriptor.refTabletId
  createScn := descriptor.createScn
  startScn := descriptor.startScn
  clogCheckpoint := descriptor.clogCheckpoint
  ddlCheckpoint? := some descriptor.ddlCheckpoint
  ddlStartLog? := some descriptor.ddlStartLog
  ddlSnapshotVersion? := some descriptor.ddlSnapshotVersion
  snapshotVersion := descriptor.snapshotVersion
  multiVersionStart := descriptor.multiVersionStart
  compatMode := descriptor.compatMode
  autoincrement := descriptor.autoincrement
  readiness := descriptor.readiness
  reportStatus := descriptor.reportStatus
  transaction := descriptor.transaction
  binding := descriptor.binding
  schema := schema
  compactions := compactions
  storeFlag := descriptor.storeFlag
  syncedSchemaVersion := descriptor.syncedSchemaVersion

def ofTablet (tablet : Tablet) (schema : StorageSchema) (compactions : CompactionQueue) :
    Charging TransferParameter :=
  match tablet with
  | .uninitialized => throw .notInitialized
  | .initialized descriptor _ =>
      if !descriptor.isValid then Charging.refuse (.sentDescriptor descriptor)
      else ofSnapshot {} (snapshotOf descriptor.toDescriptorBody schema compactions)

/-- The snapshot of a tablet whose restore has not started: a placeholder for its schema, nothing
restored, and no major storage unit. -/
def placeholderSnapshot (name : TabletName) (dataTabletId : TabletId) (createScn : Scn) :
    Snapshot where
  logStreamId := name.logStreamId
  tabletId := name.tabletId
  dataTabletId := dataTabletId
  createScn := createScn
  startScn := .firstCheckpoint
  clogCheckpoint := .firstCheckpoint
  compatMode := .mySql
  readiness := .restorePending
  schema := .placeholder
  storeFlag := .withoutMajor

def restorePlaceholder (name : TabletName) (dataTabletId : TabletId) (createScn : Scn) :
    Charging TransferParameter :=
  let snapshot := placeholderSnapshot name dataTabletId createScn
  if !snapshot.isValid then Charging.refuse (.placeholderName name)
  else ofSnapshot {} snapshot

def held (parameter : TransferParameter) : Held Snapshot :=
  ⟨parameter.snapshot, parameter.arena⟩

/-- Parameters are the same when they transfer the same, whatever their arenas and limits. -/
def same (a b : TransferParameter) : Bool := a.snapshot = b.snapshot

def reset (parameter : TransferParameter) : Charging TransferParameter := do
  Charging.drop Snapshot.format parameter.held
  return { parameter with snapshot := {} }

end TransferParameter

end TabletRecords
