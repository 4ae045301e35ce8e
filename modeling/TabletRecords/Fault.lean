import TabletRecords.Snapshot.Basic

/-!
Faults: every way in which an operation on tablet metadata can fail. A fault keeps its cause as
data; `Fault.message` holds the wording and `Fault.kind` the class that callers branch on.
-/
namespace TabletRecords

structure TabletName where
  logStreamId : LogStreamId
  tabletId : TabletId
deriving DecidableEq

instance : ToString TabletName := ⟨fun name => s!"{name.logStreamId} {name.tabletId}"⟩

def DescriptorBody.name (body : DescriptorBody) : TabletName := ⟨body.logStreamId, body.tabletId⟩

def Snapshot.name (snapshot : Snapshot) : TabletName := ⟨snapshot.logStreamId, snapshot.tabletId⟩

/-- What a caller supplied that cannot be used. -/
inductive ArgumentFault where
  | duplicateColumn (intervals : List Autoincrement.Interval)
  | hiddenTablet (id : TabletId)
  | schema (refused : StorageSchema)
  | placeholderSchema
  | reportVersion (version : Int64)
  | identity (logStreamId : LogStreamId) (tabletId dataTabletId : TabletId)
  | createScn (scn : Scn)
  | firstSnapshot (version : Int64) (mode : CompatMode)
  | oldDescriptor
  | snapshot
  | overrideName (source target : TabletName)
  | updateName (source target : TabletName)
  | unwritableDescriptor
  | unwritableSnapshot
  | assignedSnapshot
  | sentDescriptor (descriptor : Descriptor)
  | placeholderName (name : TabletName)

def ArgumentFault.message : ArgumentFault → String
  | duplicateColumn intervals => "duplicate autoinc column in " ++ Text.describe intervals
  | hiddenTablet id => s!"invalid hidden tablet id {id}"
  | schema refused => "invalid storage schema: " ++ Text.describe refused
  | placeholderSchema => "placeholder storage schema is not queryable"
  | reportVersion version => s!"negative report version {version}"
  | identity logStreamId tabletId dataTabletId =>
      s!"invalid identity: ls_id={logStreamId} tablet_id={tabletId} data_tablet_id={dataTabletId}"
  | createScn scn => s!"invalid create_scn {scn}"
  | firstSnapshot version mode =>
      s!"invalid snapshot_version {version} or compat_mode " ++ Text.describe mode
  | oldDescriptor => "old tablet meta is not valid"
  | snapshot => "migration tablet param is not valid"
  | overrideName source target => s!"param for {source} cannot override tablet {target}"
  | updateName source target => s!"param for {source} does not match tablet {target}"
  | unwritableDescriptor => "cannot serialize an invalid tablet meta"
  | unwritableSnapshot => "cannot serialize an invalid migration tablet param"
  | assignedSnapshot => "cannot assign from an invalid migration tablet param"
  | sentDescriptor descriptor =>
      "cannot build a migration param from invalid tablet meta "
        ++ (descriptor.markedTree true).describe
  | placeholderName name => s!"invalid restore placeholder for {name}"

/-- What an operation would break. -/
inductive InvariantFault where
  | autoincrementBack (columnId current next : UInt64)
  | compactionOrder (snapshot floor : Int64)
  | snapshotOrder (multiVersionStart snapshotVersion : Int64)
  | snapshotBack (old new : Int64)
  | multiVersionBack (old new : Int64)
  | createdAfterStart (createScn startScn : Scn)
  | resulting (descriptor : Descriptor)
  | updated (descriptor : Descriptor)

def InvariantFault.message : InvariantFault → String
  | autoincrementBack columnId current next =>
      s!"autoinc for column {columnId} would move back from {current} to {next}"
  | compactionOrder snapshot floor => s!"medium snapshot {snapshot} is not after {floor}"
  | snapshotOrder multiVersionStart snapshotVersion =>
      s!"multi_version_start {multiVersionStart} is after snapshot_version {snapshotVersion}"
  | snapshotBack old new => s!"snapshot_version would regress from {old} to {new}"
  | multiVersionBack old new => s!"multi_version_start would regress from {old} to {new}"
  | createdAfterStart createScn startScn =>
      s!"create_scn {createScn} is after start_scn {startScn}"
  | resulting descriptor =>
      "resulting tablet meta is not valid: " ++ (descriptor.markedTree true).describe
  | updated descriptor =>
      "updated tablet meta is not valid: " ++ (descriptor.markedTree true).describe

inductive Fault where
  | initializedTwice
  | notInitialized
  | argument (cause : ArgumentFault)
  | invariant (cause : InvariantFault)
  | exhausted (refusal : Arena.Exhausted)
  | malformed (error : Wire.Error)

/-- The classes of faults, which do not depend on their wording. -/
inductive FaultKind where
  | initializedTwice
  | notInitialized
  | argument
  | invariant
  | exhausted
  | malformed
deriving DecidableEq

def FaultKind.name : FaultKind → String
  | initializedTwice => "re_init"
  | notInitialized => "not_init"
  | argument => "invalid_argument"
  | invariant => "invariant_violation"
  | exhausted => "alloc"
  | malformed => "format"

namespace Fault

def kind : Fault → FaultKind
  | initializedTwice => .initializedTwice
  | notInitialized => .notInitialized
  | argument _ => .argument
  | invariant _ => .invariant
  | exhausted _ => .exhausted
  | malformed _ => .malformed

def message : Fault → String
  | initializedTwice => "tablet meta is already initialized"
  | notInitialized => "tablet meta is not initialized"
  | argument cause => "invalid argument: " ++ cause.message
  | invariant cause => "invariant violation: " ++ cause.message
  | exhausted refusal => refusal.message
  | malformed error => error.message

def ofIntake : Wire.IntakeError → Fault
  | .wire error => malformed error
  | .arena refusal => exhausted refusal

end Fault

end TabletRecords
