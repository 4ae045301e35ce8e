import TabletRecords.Session.Edit
import TabletRecords.Session.Object
import TabletRecords.Tablet.Init

/-!
Steps of a session. A step names the objects that it works on, and `target` is the name under which
a step stores the object that it makes.
-/
namespace TabletRecords.Session

/-- The parts of a tablet that are replaced as a whole; what is left out is taken from the old
tablet. -/
structure PartSources where
  transaction? : Option TransactionState := none
  binding? : Option String := none
  autoincrement? : Option String := none

inductive InitSource where
  | create (tablet : NewTablet)
  | succeed (old : String) (snapshotVersion multiVersionStart : Int64) (parts : PartSources)
      (syncedSchemaVersion? : Option Int64) (clogCheckpoint? ddlCheckpoint? ddlStartLog? : Option Scn)
      (ddlSnapshotVersion? : Option Int64)
  | receive (parameter : String)
  | patch (old : String) (parts : PartSources) (parameter? : Option String)

inductive Step where
  | openArena (target label : String) (limit : Nat)
  | shareArena (target arena : String)
  | sameArena (first second : String)
  | charge (target arena : String) (size : Nat)
  | free (charge : String)
  | drop (name : String)
  | inspect (name : String)
  | describe (name : String)
  | json (name : String)
  | compare (first second : String)
  /-- Copy the value that an object is, or what it has of a kind. -/
  | copy (target source arena : String) (kind? : Option ValueKind := none)
  | decode (target arena : String) (kind : ValueKind) (bytes : List UInt8)
  | makeWords (target arena : String) (items : List UInt64)
  | pushWord (target source arena : String) (item : UInt64)
  | makeSequence (target arena : String) (intervals : List Autoincrement.Interval)
  | nextValue (name : String) (columnId : UInt64)
  | withNext (target source arena : String) (columnId nextValue : UInt64)
  | makeBinding (target : String) (dataTabletId lobMetaTabletId lobPieceTabletId : TabletId)
  | setHidden (name arena : String) (ids : List TabletId)
  | makeSchema (target arena : String) (schemaVersion : Int64) (compatMode : CompatMode)
      (rowkeyColumns : List RowkeyColumn) (columns : List Column)
  | makePlaceholderSchema (target arena : String)
  | checkQueryable (name : String)
  | makeQueue (target : String)
  | schedule (name arena : String) (compaction : Compaction)
  | editBinding (name : String) (edit : BindingEdit)
  | editSchema (name : String) (edit : SchemaEdit)
  | editQueue (name : String) (edit : QueueEdit)
  | editParameter (name : String) (edit : SnapshotEdit)
  | makeTablet (target : String)
  | initTablet (name arena : String) (source : InitSource)
  | updateTablet (name parameter : String)
  | updateCreateScn (name : String) (createScn : Scn)
  | reset (name : String)
  | makeParameter (target : String) (settings : Settings)
  /-- Copy the value that an object is, or what it has of a kind, into the part of a parameter that
  it fits. -/
  | attach (name part : String) (kind? : Option ValueKind := none)
  | assign (name source : String)
  | sendTablet (target tablet schema compactions : String)
  | makePlaceholder (target : String) (name : TabletName) (dataTabletId : TabletId)
      (createScn : Scn)
  | makeBuffer (target : String) (bytes : List UInt8)
  | patchBuffer (name : String) (position : Nat) (bytes : List UInt8)
  | resizeBuffer (name : String) (size : Nat)
  | makeRecord (target source : String)
  /-- Write the record of a tablet or a parameter into a buffer. A parameter has settings of its
  own. -/
  | write (name buffer : String) (position : Nat) (settings : Settings)
  | readTablet (name arena buffer : String) (position : Nat) (settings : Settings)
  | readParameter (name buffer : String) (position : Nat)
  | readName (buffer : String) (position : Nat)

inductive Answer where
  | done
  | object (object : Object)
  | truth (value : Bool)
  | text (value : String)
  | next (value? : Option UInt64)
  | position (position : Nat)
  | name (name : TabletName) (position : Nat)

inductive StepError where
  | fault (fault : Fault)
  | unusable (name : String)

end TabletRecords.Session
