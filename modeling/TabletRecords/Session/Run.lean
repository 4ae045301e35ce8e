import TabletRecords.Autoincrement.Advance
import TabletRecords.Binding.Hidden
import TabletRecords.Compaction.Schedule
import TabletRecords.Parameter.Assign
import TabletRecords.Parameter.Record
import TabletRecords.Session.Step
import TabletRecords.Tablet.Record
import TabletRecords.Tablet.Update

/-!
Running sessions. A session holds objects by name and the ledger of their arenas. A step that makes
an object stores it under a name, and what had that name is dropped after the new object is made; a
step that fails stores and drops nothing.
-/
namespace TabletRecords

open Arena (ArenaId Ledger)

structure Session where
  ledger : Ledger := .empty
  objects : List (String × Session.Object) := []

namespace Session

def find? (session : Session) (name : String) : Option Object := session.objects.lookup name

def insert (session : Session) (name : String) (object : Object) : Session :=
  { session with
    objects := (name, object) :: session.objects.filter (·.1 ≠ name) }

def erase (session : Session) (name : String) : Session :=
  { session with objects := session.objects.filter (·.1 ≠ name) }

def letGo (session : Session) (name : String) : Session :=
  match session.find? name with
  | none => session
  | some object => { session with ledger := session.ledger.releaseAll object.charges }

def usage (session : Session) : List (String × Nat) :=
  session.objects.filterMap fun (name, object) =>
    object.arena?.map fun arena => (name, session.ledger.used arena)

abbrev Script := EStateM StepError Session

namespace Script

variable {α : Type}

def charging (operation : Charging α) : Script α := fun session =>
  match operation session.ledger with
  | .ok value ledger => .ok value { session with ledger }
  | .error fault ledger => .error (.fault fault) { session with ledger }

def ofResult (result : Except Fault α) : Script α :=
  MonadExcept.ofExcept (result.mapError .fault)

def unusable (name : String) : Script α := throw (.unusable name)

def want (name : String) (part? : Object → Option α) : Script α := do
  match (← get).find? name |>.bind part? with
  | some value => return value
  | none => unusable name

def object (name : String) : Script Object := want name some

def arena (name : String) : Script ArenaId := want name Object.arena?

def tablet (name : String) : Script Tablet :=
  want name fun
    | .tablet tablet => some tablet
    | _ => none

def parameter (name : String) : Script TransferParameter :=
  want name fun
    | .parameter parameter => some parameter
    | _ => none

def buffer (name : String) : Script (List UInt8) :=
  want name fun
    | .buffer bytes => some bytes
    | _ => none

/-- Put an object in place of the one with its name, which it has grown out of. -/
def put (name : String) (object : Object) : Script Answer := do
  modify (·.insert name object)
  return .done

/-- Store an object under a name, and drop the one that had it. -/
def store (name : String) (object : Object) : Script Answer := do
  modify fun session => (session.letGo name).insert name object
  return .object object

def drop (name : String) : Script Answer := do
  let _ ← Script.object name
  modify fun session => (session.letGo name).erase name
  return .done

def replacement (old : Tablet) (parts : PartSources) : Script Replacement := do
  let binding ←
    match parts.binding? with
    | none => pure old.descriptor.binding
    | some name => want name Object.binding?
  let autoincrement ←
    match parts.autoincrement? with
    | none => pure old.descriptor.autoincrement
    | some name => want name Object.autoincrement?
  return {
    transaction := parts.transaction?.getD old.descriptor.transaction
    binding
    autoincrement }

def initRequest : InitSource → Script InitRequest
  | .create tablet => return .create tablet
  | .succeed old snapshotVersion multiVersionStart parts syncedSchemaVersion? clogCheckpoint?
      ddlCheckpoint? ddlStartLog? ddlSnapshotVersion? => do
    let old ← tablet old
    let parts ← replacement old parts
    return .succeed old {
      snapshotVersion
      multiVersionStart
      transaction := parts.transaction
      binding := parts.binding
      autoincrement := parts.autoincrement
      syncedSchemaVersion := syncedSchemaVersion?.getD old.descriptor.syncedSchemaVersion
      clogCheckpoint?
      ddlCheckpoint?
      ddlStartLog?
      ddlSnapshotVersion? }
  | .receive name => return .receive (← parameter name).snapshot
  | .patch old parts parameter? => do
    let old ← tablet old
    let parts ← replacement old parts
    match parameter? with
    | none => return .patch old parts none
    | some name => return .patch old parts (some (← parameter name).snapshot)

def decode (kind : ValueKind) (bytes : List UInt8) (arena : ArenaId) : Charging Object :=
  match kind with
  | .words => return .words (← Charging.receive wordsFormat bytes arena)
  | .autoincrement =>
      return .autoincrement (← Charging.receive Autoincrement.Sequence.format bytes arena)
  | .binding => return .binding (← Charging.receive Binding.format bytes arena)
  | .schema => return .schema (← Charging.receive StorageSchema.format bytes arena)
  | .compactions => return .compactions (← Charging.receive CompactionQueue.format bytes arena)

end Script

/-- A copy of what an object has of a kind, or is itself if no kind is named; another arena pays for
its lists. -/
def Object.copy? (arena : ArenaId) (kind? : Option ValueKind) (object : Object) :
    Option (Charging Object) := do
  match ← kind?.or object.kind? with
  | .words =>
      let items ← object.words?
      some do return .words (← Charging.hold wordsFormat items arena)
  | .autoincrement =>
      let sequence ← object.autoincrement?
      some do return .autoincrement (← Charging.hold Autoincrement.Sequence.format sequence arena)
  | .binding =>
      let binding ← object.binding?
      some do return .binding (← Charging.hold Binding.format binding arena)
  | .schema =>
      let schema ← object.schema?
      some do return .schema (← Charging.hold StorageSchema.format schema arena)
  | .compactions =>
      let queue ← object.compactions?
      some do return .compactions (← Charging.hold CompactionQueue.format queue arena)

/-- A parameter with a copy of what an object has of a kind, or is itself, in the part that it fits.
-/
def Object.attach? (parameter : TransferParameter) (kind? : Option ValueKind) (object : Object) :
    Option (Charging TransferParameter) := do
  match ← kind?.or object.kind? with
  | .words => none
  | .autoincrement => return parameter.setAutoincrement (← object.autoincrement?)
  | .binding => return parameter.setBinding (← object.binding?)
  | .schema => return parameter.setSchema (← object.schema?)
  | .compactions => return parameter.setCompactions (← object.compactions?)

def describe (session : Session) : Object → String
  | .arena id => Text.describe (session.ledger.account id)
  | .charge payer size => s!"ArenaCharge({(session.ledger.account payer).label}, {size})"
  | .words held => Text.describe held.value
  | .autoincrement held => Text.describe held.value
  | .binding held => Text.describe held.value
  | .schema held => Text.describe held.value
  | .compactions held => Text.describe held.value
  | .tablet tablet => Text.describe tablet
  | .parameter parameter =>
      (parameter.snapshot.treeIn (session.ledger.account parameter.arena)).describe
  | .buffer bytes => Text.describe bytes

open Script in
def Step.script : Step → Script Answer
  | openArena target label limit => fun session =>
      let (arena, ledger) := session.ledger.openArena { label, limit }
      store target (.arena arena) { session with ledger }
  | shareArena target arena => do store target (.arena (← Script.arena arena))
  | sameArena first second => return .truth ((← Script.arena first) = (← Script.arena second))
  | charge target arena size => do
      let arena ← Script.arena arena
      let object ← charging (Charging.holding arena [size] (return .charge arena size))
      store target object
  | free name => Script.drop name
  | drop name => Script.drop name
  | inspect name => return .object (← object name)
  | describe name => do
      let object ← object name
      return .text ((← get).describe object)
  | json name => do
      match ← object name with
      | .tablet tablet => return .text tablet.json
      | .parameter parameter => return .text (Text.json parameter.snapshot)
      | _ => unusable name
  | compare first second => do
      let a ← object first
      return .truth (← want second a.same?)
  | copy target source arena kind? => do
      let arena ← Script.arena arena
      store target (← charging (← want source (Object.copy? arena kind?)))
  | decode target arena kind bytes => do
      let arena ← Script.arena arena
      store target (← charging (Script.decode kind bytes arena))
  | makeWords target arena items => do
      let arena ← Script.arena arena
      store target (.words (← charging (Charging.hold wordsFormat items arena)))
  | pushWord target source arena item => do
      let arena ← Script.arena arena
      let items ← want source Object.words?
      store target (.words (← charging (Charging.hold wordsFormat (items ++ [item]) arena)))
  | makeSequence target arena intervals => do
      let arena ← Script.arena arena
      let held ← charging (Autoincrement.Sequence.ofIntervals intervals arena)
      store target (.autoincrement held)
  | nextValue name columnId => do
      return .next ((← want name Object.autoincrement?).next? columnId)
  | withNext target source arena columnId value => do
      let arena ← Script.arena arena
      let sequence ← want source Object.autoincrement?
      store target (.autoincrement (← charging (sequence.withNext columnId value arena)))
  | makeBinding target dataTabletId lobMetaTabletId lobPieceTabletId =>
      store target (.binding ⟨{ dataTabletId, lobMetaTabletId, lobPieceTabletId }, none⟩)
  | setHidden name arena ids => do
      let arena ← Script.arena arena
      match ← object name with
      | .binding held => put name (.binding (← charging (Binding.setHidden held ids arena)))
      | _ => unusable name
  | makeSchema target arena schemaVersion compatMode rowkeyColumns columns => do
      let arena ← Script.arena arena
      let held ← charging
        (StorageSchema.ofColumns schemaVersion compatMode rowkeyColumns columns arena)
      store target (.schema held)
  | makePlaceholderSchema target arena => do
      let arena ← Script.arena arena
      let held ← charging (Charging.hold StorageSchema.format .placeholder arena)
      store target (.schema held)
  | checkQueryable name => do
      ofResult (← want name Object.schema?).checkQueryable
      return .done
  | makeQueue target => store target (.compactions ⟨{}, none⟩)
  | schedule name arena compaction => do
      let arena ← Script.arena arena
      match ← object name with
      | .compactions held =>
          put name (.compactions (← charging (CompactionQueue.schedule held compaction arena)))
      | _ => unusable name
  | editBinding name edit => do
      match ← object name with
      | .binding held => put name (.binding { held with value := edit.apply held.value })
      | _ => unusable name
  | editSchema name edit => do
      match ← object name with
      | .schema held => put name (.schema { held with value := edit.apply held.value })
      | _ => unusable name
  | editQueue name edit => do
      match ← object name with
      | .compactions held => put name (.compactions { held with value := edit.apply held.value })
      | _ => unusable name
  | editParameter name edit => do
      let parameter ← Script.parameter name
      put name (.parameter { parameter with snapshot := edit.apply parameter.snapshot })
  | makeTablet target => store target (.tablet .uninitialized)
  | initTablet name arena source => do
      let tablet ← Script.tablet name
      let arena ← Script.arena arena
      let request ← initRequest source
      put name (.tablet (← charging (tablet.init arena request)))
  | updateTablet name parameter => do
      let tablet ← Script.tablet name
      let parameter ← Script.parameter parameter
      put name (.tablet (← charging (tablet.update parameter.snapshot)))
  | updateCreateScn name createScn => do
      let tablet ← Script.tablet name
      put name (.tablet (← ofResult (tablet.updateCreateScn createScn)))
  | reset name => do
      match ← object name with
      | .tablet tablet => put name (.tablet (← charging tablet.reset))
      | .parameter parameter => put name (.parameter (← charging parameter.reset))
      | _ => unusable name
  | makeParameter target settings => do
      store target (.parameter (← charging (TransferParameter.blank settings)))
  | attach name part kind? => do
      let parameter ← Script.parameter name
      put name (.parameter (← charging (← want part (Object.attach? parameter kind?))))
  | assign name source => do
      let parameter ← Script.parameter name
      let source ← Script.parameter source
      put name (.parameter (← charging (parameter.assign source)))
  | sendTablet target tablet schema compactions => do
      let tablet ← Script.tablet tablet
      let schema ← want schema Object.schema?
      let compactions ← want compactions Object.compactions?
      store target
        (.parameter (← charging (TransferParameter.ofTablet tablet schema compactions)))
  | makePlaceholder target name dataTabletId createScn => do
      let parameter ← charging
        (TransferParameter.restorePlaceholder name dataTabletId createScn)
      store target (.parameter parameter)
  | makeBuffer target bytes => store target (.buffer bytes)
  | patchBuffer name position bytes => do
      let buffer ← Script.buffer name
      if buffer.length < position + bytes.length then unusable name
      put name (.buffer (Wire.Record.splice buffer position bytes))
  | resizeBuffer name size => do
      let buffer ← Script.buffer name
      put name (.buffer (buffer.take size ++ List.replicate (size - buffer.length) 0))
  | makeRecord target source => do
      match ← object source with
      | .tablet tablet => store target (.buffer (← ofResult tablet.toRecord))
      | .parameter parameter => store target (.buffer (← ofResult parameter.toRecord))
      | _ => unusable source
  | write name buffer position settings => do
      let bytes ← Script.buffer buffer
      let (bytes, position) ←
        match ← object name with
        | .tablet tablet => ofResult (tablet.write settings bytes position)
        | .parameter parameter => ofResult (parameter.write bytes position)
        | _ => unusable name
      let _ ← put buffer (.buffer bytes)
      return .position position
  | readTablet name arena buffer position settings => do
      let tablet ← Script.tablet name
      let arena ← Script.arena arena
      let bytes ← Script.buffer buffer
      let (tablet, position) ← charging (tablet.read settings arena bytes position)
      let _ ← put name (.tablet tablet)
      return .position position
  | readParameter name buffer position => do
      let parameter ← Script.parameter name
      let bytes ← Script.buffer buffer
      let (parameter, position) ← charging (parameter.read bytes position)
      let _ ← put name (.parameter parameter)
      return .position position
  | readName buffer position => do
      let bytes ← Script.buffer buffer
      let (name, position) ← ofResult (Tablet.readName bytes position)
      return .name name position

def step (session : Session) (step : Step) : Except StepError Answer × Session :=
  match step.script session with
  | .ok answer session => (.ok answer, session)
  | .error error session => (.error error, session)

end Session

end TabletRecords
