import TabletRecords.Tablet.Basic

/-!
Initializing tablets. There are four ways in: a new tablet, a later generation of an old one, a
tablet received from another node, and an old tablet with replaced parts. Each way makes a body and
has conditions of its own; all share the last check, that the resulting descriptor is valid.
-/
namespace TabletRecords

open Arena (ArenaId)

structure NewTablet where
  logStreamId : LogStreamId
  tabletId : TabletId
  dataTabletId : TabletId
  lobMetaTabletId : TabletId
  lobPieceTabletId : TabletId
  createScn : Scn
  snapshotVersion : Int64
  compatMode : CompatMode
  storeFlag : StoreFlag
  syncedSchemaVersion : Int64

/-- What changes in a later generation of a tablet. A watermark that is left out keeps its old
value, and of two values the newer one counts. -/
structure Generation where
  snapshotVersion : Int64
  multiVersionStart : Int64
  transaction : TransactionState
  binding : Binding
  autoincrement : Autoincrement.Sequence
  syncedSchemaVersion : Int64
  clogCheckpoint? : Option Scn := none
  ddlCheckpoint? : Option Scn := none
  ddlStartLog? : Option Scn := none
  ddlSnapshotVersion? : Option Int64 := none

structure Replacement where
  transaction : TransactionState
  binding : Binding
  autoincrement : Autoincrement.Sequence

inductive InitRequest where
  | create (tablet : NewTablet)
  | succeed (old : Tablet) (generation : Generation)
  | receive (snapshot : Snapshot)
  | patch (old : Tablet) (replacement : Replacement) (snapshot? : Option Snapshot)

def newer {α : Type} [Max α] (old : α) : Option α → α
  | none => old
  | some new => max old new

def NewTablet.body (tablet : NewTablet) : DescriptorBody where
  logStreamId := tablet.logStreamId
  tabletId := tablet.tabletId
  dataTabletId := tablet.dataTabletId
  refTabletId := tablet.lobPieceTabletId
  createScn := tablet.createScn
  startScn := .firstCheckpoint
  clogCheckpoint := .firstCheckpoint
  ddlCheckpoint := .firstCheckpoint
  ddlStartLog := .zero
  snapshotVersion := tablet.snapshotVersion
  multiVersionStart := tablet.snapshotVersion
  compatMode := tablet.compatMode
  readiness := .fresh
  reportStatus :=
    { mergeSnapshotVersion := tablet.snapshotVersion
      currentReportVersion := tablet.snapshotVersion }
  binding :=
    { dataTabletId := tablet.dataTabletId
      lobMetaTabletId := tablet.lobMetaTabletId
      lobPieceTabletId := tablet.lobPieceTabletId }
  storeFlag := tablet.storeFlag
  syncedSchemaVersion := tablet.syncedSchemaVersion

namespace DescriptorBody

def succeed (old : DescriptorBody) (generation : Generation) : DescriptorBody :=
  { old with
    clogCheckpoint := newer old.clogCheckpoint generation.clogCheckpoint?
    ddlCheckpoint := newer old.ddlCheckpoint generation.ddlCheckpoint?
    ddlStartLog := newer old.ddlStartLog generation.ddlStartLog?
    ddlSnapshotVersion := newer old.ddlSnapshotVersion generation.ddlSnapshotVersion?
    snapshotVersion := generation.snapshotVersion
    multiVersionStart := generation.multiVersionStart
    autoincrement := generation.autoincrement
    transaction := generation.transaction
    binding := generation.binding
    syncedSchemaVersion := max old.syncedSchemaVersion generation.syncedSchemaVersion }

/-- The body that a snapshot describes. What the snapshot leaves out, and the chain of tablets,
which no snapshot carries, come from another body. -/
def receive (base : DescriptorBody) (snapshot : Snapshot) : DescriptorBody where
  logStreamId := snapshot.logStreamId
  tabletId := snapshot.tabletId
  dataTabletId := snapshot.dataTabletId
  refTabletId := snapshot.refTabletId
  hasNextTablet := base.hasNextTablet
  createScn := snapshot.createScn
  startScn := snapshot.startScn
  clogCheckpoint := snapshot.clogCheckpoint
  ddlCheckpoint := snapshot.ddlCheckpoint?.getD base.ddlCheckpoint
  ddlStartLog := snapshot.ddlStartLog?.getD base.ddlStartLog
  ddlSnapshotVersion := snapshot.ddlSnapshotVersion?.getD base.ddlSnapshotVersion
  snapshotVersion := snapshot.snapshotVersion
  multiVersionStart := snapshot.multiVersionStart
  compatMode := snapshot.compatMode
  autoincrement := snapshot.autoincrement
  readiness := snapshot.readiness
  reportStatus := snapshot.reportStatus
  transaction := snapshot.transaction
  binding := snapshot.binding
  storeFlag := snapshot.storeFlag
  syncedSchemaVersion := snapshot.syncedSchemaVersion

/-- What a tablet has of the watermarks of schema changes before the first change. -/
def beforeChanges : DescriptorBody :=
  { ddlCheckpoint := .firstCheckpoint, ddlStartLog := .zero }

def replaceParts (old : DescriptorBody) (replacement : Replacement) : DescriptorBody :=
  { old with
    autoincrement := replacement.autoincrement
    transaction := replacement.transaction
    binding := replacement.binding }

/-- The body brought forward by a snapshot. The oldest snapshot of the data does not pass the latest
one, and the start of the schema change log is the sender's, where it says so. -/
def bringForward (old : DescriptorBody) (snapshot : Snapshot) : DescriptorBody :=
  let snapshotVersion := max old.snapshotVersion snapshot.snapshotVersion
  { old with
    clogCheckpoint := max old.clogCheckpoint snapshot.clogCheckpoint
    ddlCheckpoint := newer old.ddlCheckpoint snapshot.ddlCheckpoint?
    ddlStartLog := snapshot.ddlStartLog?.getD old.ddlStartLog
    ddlSnapshotVersion := snapshot.ddlSnapshotVersion?.getD old.ddlSnapshotVersion
    snapshotVersion
    multiVersionStart := min (max old.multiVersionStart snapshot.multiVersionStart) snapshotVersion
    syncedSchemaVersion := max old.syncedSchemaVersion snapshot.syncedSchemaVersion }

end DescriptorBody

namespace InitRequest

def body : InitRequest → DescriptorBody
  | create tablet => tablet.body
  | succeed old generation => old.descriptor.toDescriptorBody.succeed generation
  | receive snapshot => DescriptorBody.beforeChanges.receive snapshot
  | patch old replacement none => old.descriptor.toDescriptorBody.replaceParts replacement
  | patch old replacement (some snapshot) =>
      (old.descriptor.toDescriptorBody.replaceParts replacement).bringForward snapshot

def require (condition : Bool) (cause : ArgumentFault) : Except Fault Unit :=
  if condition then .ok () else .error (.argument cause)

def uphold (condition : Bool) (cause : InvariantFault) : Except Fault Unit :=
  if condition then .ok () else .error (.invariant cause)

/-- The conditions of the way that a request takes, the first that fails deciding the fault. -/
def check : InitRequest → Except Fault Unit
  | create tablet => do
      require
        (tablet.logStreamId.isValid && tablet.tabletId.isValid && tablet.dataTabletId.isValid)
        (.identity tablet.logStreamId tablet.tabletId tablet.dataTabletId)
      require tablet.createScn.isValid (.createScn tablet.createScn)
      require (0 ≤ tablet.snapshotVersion && tablet.compatMode.isValid)
        (.firstSnapshot tablet.snapshotVersion tablet.compatMode)
  | succeed old generation => do
      require old.isValid .oldDescriptor
      uphold (generation.multiVersionStart ≤ generation.snapshotVersion)
        (.snapshotOrder generation.multiVersionStart generation.snapshotVersion)
      uphold (old.descriptor.snapshotVersion ≤ generation.snapshotVersion)
        (.snapshotBack old.descriptor.snapshotVersion generation.snapshotVersion)
      uphold (old.descriptor.multiVersionStart ≤ generation.multiVersionStart)
        (.multiVersionBack old.descriptor.multiVersionStart generation.multiVersionStart)
  | receive snapshot => require snapshot.isValid .snapshot
  | patch old _ none => require old.isValid .oldDescriptor
  | patch old _ (some snapshot) => do
      require old.isValid .oldDescriptor
      require snapshot.isValid .snapshot
      require (old.descriptor.name = snapshot.name)
        (.overrideName snapshot.name old.descriptor.name)

end InitRequest

/-- Initialize a tablet. The lists of the new descriptor are charged first, then the length of its
record is fixed, and then the conditions are checked. -/
def Tablet.init (tablet : Tablet) (arena : ArenaId) (request : InitRequest) : Charging Tablet :=
  if tablet.isInitialized then throw .initializedTwice
  else
    let body := request.body
    Charging.holding arena (DescriptorBody.format.charges body) do
      let descriptor ←
        MonadExcept.ofExcept
          ((Descriptor.ofBody Descriptor.currentVersion body).mapError .malformed)
      MonadExcept.ofExcept request.check
      unless body.isValid do throw (.invariant (.resulting descriptor))
      return initialized descriptor arena

end TabletRecords
