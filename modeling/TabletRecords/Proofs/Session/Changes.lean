import TabletRecords.Proofs.Session.Reachable

/-!
What a step changes. A step puts at most one object under a name, and `Step.Puts` says which one it
can be; every other object of the session after the step has been there before.
-/
namespace TabletRecords.Session

open Arena (Account ArenaId Ledger)
open Outcome Script

variable {session : Session} {name : String} {object : Object}

def Object.isValue (object : Object) : Bool := object.kind?.isSome

theorem Object.isValue_of_copy {copied : Object} {payer : ArenaId} {kind? : Option ValueKind}
    {operation : Charging Object} {before after : Ledger}
    (copies : object.copy? payer kind? = some operation)
    (done : operation before = .ok copied after) : copied.isValue := by
  rcases Object.copy_cases copies with ⟨_, -, rfl⟩ | ⟨_, -, rfl⟩ | ⟨_, -, rfl⟩ | ⟨_, -, rfl⟩ |
      ⟨_, -, rfl⟩ <;>
    obtain ⟨held, _, -, h⟩ := bind_eq_ok_iff.mp done <;>
    cases h <;>
    rfl

theorem Object.binding?_of_copy {copied : Object} {payer : ArenaId} {kind? : Option ValueKind}
    {operation : Charging Object} {before after : Ledger} {binding : Binding}
    (copies : object.copy? payer kind? = some operation)
    (done : operation before = .ok copied after) (has : copied.binding? = some binding) :
    object.binding? = some binding := by
  rcases Object.copy_cases copies with ⟨_, -, rfl⟩ | ⟨_, -, rfl⟩ | ⟨source, has', rfl⟩ |
      ⟨_, -, rfl⟩ | ⟨_, -, rfl⟩ <;>
    obtain ⟨held, _, done, h⟩ := bind_eq_ok_iff.mp done <;>
    cases h <;>
    cases has
  -- No other copy than that of a binding has one.
  obtain ⟨rfl, -⟩ := Charging.hold_eq_ok_iff.mp done
  exact has'

theorem Object.isValue_of_decode {kind : ValueKind} {bytes : List UInt8} {payer : ArenaId}
    {decoded : Object} {before after : Ledger}
    (done : Script.decode kind bytes payer before = .ok decoded after) : decoded.isValue := by
  cases kind with
  | words | autoincrement | binding | schema | compactions =>
    obtain ⟨held, _, -, h⟩ := bind_eq_ok_iff.mp done
    cases h
    rfl

/-- A step puts an object under a name: one case for each way in which a step makes an object, with
what it has found in the session and the operation that has succeeded. -/
inductive Step.Puts (session : Session) : Step → String → Object → Prop
  | openArena (target label : String) (limit : Nat) :
      Puts session (.openArena target label limit) target (.arena ⟨session.ledger.next⟩)
  | shareArena {arena : String} {payer : ArenaId} (target : String)
      (named : session.Offers arena Object.arena? payer) :
      Puts session (.shareArena target arena) target (.arena payer)
  | charge {arena : String} {payer : ArenaId} {size : Nat} {account : Account} (target : String)
      (named : session.Offers arena Object.arena? payer)
      (fits : (session.ledger.account payer).charge size = .ok account) :
      Puts session (.charge target arena size) target (.charge payer size)
  | copy {source arena : String} {kind? : Option ValueKind} {payer : ArenaId}
      {object copied : Object} {operation : Charging Object} {after : Ledger} (target : String)
      (named : session.Offers arena Object.arena? payer)
      (found : session.find? source = some object)
      (copies : object.copy? payer kind? = some operation)
      (done : operation session.ledger = .ok copied after) :
      Puts session (.copy target source arena kind?) target copied
  | decode {arena : String} {payer : ArenaId} {kind : ValueKind} {bytes : List UInt8}
      {decoded : Object} {after : Ledger} (target : String)
      (named : session.Offers arena Object.arena? payer)
      (done : Script.decode kind bytes payer session.ledger = .ok decoded after) :
      Puts session (.decode target arena kind bytes) target decoded
  | makeWords {arena : String} {payer : ArenaId} {items : List UInt64} {held : Held (List UInt64)}
      {after : Ledger} (target : String) (named : session.Offers arena Object.arena? payer)
      (done : Charging.hold wordsFormat items payer session.ledger = .ok held after) :
      Puts session (.makeWords target arena items) target (.words held)
  | pushWord {source arena : String} {payer : ArenaId} {items : List UInt64}
      {held : Held (List UInt64)} {item : UInt64} {after : Ledger} (target : String)
      (named : session.Offers arena Object.arena? payer)
      (offered : session.Offers source Object.words? items)
      (done : Charging.hold wordsFormat (items ++ [item]) payer session.ledger = .ok held after) :
      Puts session (.pushWord target source arena item) target (.words held)
  | makeSequence {arena : String} {payer : ArenaId} {intervals : List Autoincrement.Interval}
      {held : Held Autoincrement.Sequence} {after : Ledger} (target : String)
      (named : session.Offers arena Object.arena? payer)
      (done : Autoincrement.Sequence.ofIntervals intervals payer session.ledger = .ok held after) :
      Puts session (.makeSequence target arena intervals) target (.autoincrement held)
  | withNext {source arena : String} {payer : ArenaId} {sequence : Autoincrement.Sequence}
      {held : Held Autoincrement.Sequence} {columnId nextValue : UInt64} {after : Ledger}
      (target : String) (named : session.Offers arena Object.arena? payer)
      (offered : session.Offers source Object.autoincrement? sequence)
      (done : sequence.withNext columnId nextValue payer session.ledger = .ok held after) :
      Puts session (.withNext target source arena columnId nextValue) target (.autoincrement held)
  | makeBinding (target : String) (dataTabletId lobMetaTabletId lobPieceTabletId : TabletId) :
      Puts session (.makeBinding target dataTabletId lobMetaTabletId lobPieceTabletId) target
        (.binding ⟨{ dataTabletId, lobMetaTabletId, lobPieceTabletId }, none⟩)
  | setHidden {name arena : String} {payer : ArenaId} {old held : Held Binding}
      {ids : List TabletId} {after : Ledger} (named : session.Offers arena Object.arena? payer)
      (found : session.find? name = some (.binding old))
      (done : Binding.setHidden old ids payer session.ledger = .ok held after) :
      Puts session (.setHidden name arena ids) name (.binding held)
  | makeSchema {arena : String} {payer : ArenaId} {schemaVersion : Int64} {compatMode : CompatMode}
      {rowkeyColumns : List RowkeyColumn} {columns : List Column} {held : Held StorageSchema}
      {after : Ledger} (target : String) (named : session.Offers arena Object.arena? payer)
      (done : StorageSchema.ofColumns schemaVersion compatMode rowkeyColumns columns payer
        session.ledger = .ok held after) :
      Puts session (.makeSchema target arena schemaVersion compatMode rowkeyColumns columns) target
        (.schema held)
  | makePlaceholderSchema {arena : String} {payer : ArenaId} {held : Held StorageSchema}
      {after : Ledger} (target : String) (named : session.Offers arena Object.arena? payer)
      (done : Charging.hold StorageSchema.format .placeholder payer session.ledger =
        .ok held after) :
      Puts session (.makePlaceholderSchema target arena) target (.schema held)
  | makeQueue (target : String) : Puts session (.makeQueue target) target (.compactions ⟨{}, none⟩)
  | schedule {name arena : String} {payer : ArenaId} {old held : Held CompactionQueue}
      {compaction : Compaction} {after : Ledger} (named : session.Offers arena Object.arena? payer)
      (found : session.find? name = some (.compactions old))
      (done : CompactionQueue.schedule old compaction payer session.ledger = .ok held after) :
      Puts session (.schedule name arena compaction) name (.compactions held)
  | editBinding {name : String} {held : Held Binding} (edit : BindingEdit)
      (found : session.find? name = some (.binding held)) :
      Puts session (.editBinding name edit) name
        (.binding { held with value := edit.apply held.value })
  | editSchema {name : String} {held : Held StorageSchema} (edit : SchemaEdit)
      (found : session.find? name = some (.schema held)) :
      Puts session (.editSchema name edit) name (.schema { held with value := edit.apply held.value })
  | editQueue {name : String} {held : Held CompactionQueue} (edit : QueueEdit)
      (found : session.find? name = some (.compactions held)) :
      Puts session (.editQueue name edit) name
        (.compactions { held with value := edit.apply held.value })
  | editParameter {name : String} {parameter : TransferParameter} (edit : SnapshotEdit)
      (found : session.find? name = some (.parameter parameter)) :
      Puts session (.editParameter name edit) name
        (.parameter { parameter with snapshot := edit.apply parameter.snapshot })
  | makeTablet (target : String) : Puts session (.makeTablet target) target (.tablet .uninitialized)
  | initTablet {name arena : String} {payer : ArenaId} {source : InitSource} {request : InitRequest}
      {old result : Tablet} {after : Ledger} (found : session.find? name = some (.tablet old))
      (named : session.Offers arena Object.arena? payer) (asks : source.Asks session request)
      (done : old.init payer request session.ledger = .ok result after) :
      Puts session (.initTablet name arena source) name (.tablet result)
  | updateTablet {name source : String} {parameter : TransferParameter} {old result : Tablet}
      {after : Ledger} (found : session.find? name = some (.tablet old))
      (found' : session.find? source = some (.parameter parameter))
      (done : old.update parameter.snapshot session.ledger = .ok result after) :
      Puts session (.updateTablet name source) name (.tablet result)
  | updateCreateScn {name : String} {createScn : Scn} {old result : Tablet}
      (found : session.find? name = some (.tablet old))
      (done : old.updateCreateScn createScn = .ok result) :
      Puts session (.updateCreateScn name createScn) name (.tablet result)
  | resetTablet {name : String} {old result : Tablet} {after : Ledger}
      (found : session.find? name = some (.tablet old))
      (done : old.reset session.ledger = .ok result after) :
      Puts session (.reset name) name (.tablet result)
  | resetParameter {name : String} {old result : TransferParameter} {after : Ledger}
      (found : session.find? name = some (.parameter old))
      (done : old.reset session.ledger = .ok result after) :
      Puts session (.reset name) name (.parameter result)
  | makeParameter {settings : Settings} {parameter : TransferParameter} {after : Ledger}
      (target : String) (done : TransferParameter.blank settings session.ledger = .ok parameter after) :
      Puts session (.makeParameter target settings) target (.parameter parameter)
  | attach {name part : String} {kind? : Option ValueKind} {old result : TransferParameter}
      {object : Object} {operation : Charging TransferParameter} {after : Ledger}
      (found : session.find? name = some (.parameter old))
      (found' : session.find? part = some object)
      (attaches : object.attach? old kind? = some operation)
      (done : operation session.ledger = .ok result after) :
      Puts session (.attach name part kind?) name (.parameter result)
  | assign {name source : String} {old parameter result : TransferParameter} {after : Ledger}
      (found : session.find? name = some (.parameter old))
      (found' : session.find? source = some (.parameter parameter))
      (done : old.assign parameter session.ledger = .ok result after) :
      Puts session (.assign name source) name (.parameter result)
  | sendTablet {source schemaName queueName : String} {tablet : Tablet} {schema : StorageSchema}
      {compactions : CompactionQueue} {parameter : TransferParameter} {after : Ledger}
      (target : String) (found : session.find? source = some (.tablet tablet))
      (offered : session.Offers schemaName Object.schema? schema)
      (offered' : session.Offers queueName Object.compactions? compactions)
      (done : TransferParameter.ofTablet tablet schema compactions session.ledger =
        .ok parameter after) :
      Puts session (.sendTablet target source schemaName queueName) target (.parameter parameter)
  | makePlaceholder {name : TabletName} {dataTabletId : TabletId} {createScn : Scn}
      {parameter : TransferParameter} {after : Ledger} (target : String)
      (done : TransferParameter.restorePlaceholder name dataTabletId createScn session.ledger =
        .ok parameter after) :
      Puts session (.makePlaceholder target name dataTabletId createScn) target
        (.parameter parameter)
  | makeBuffer (target : String) (bytes : List UInt8) :
      Puts session (.makeBuffer target bytes) target (.buffer bytes)
  | patchBuffer {name : String} {buffer bytes : List UInt8} {position : Nat}
      (found : session.find? name = some (.buffer buffer))
      (room : position + bytes.length ≤ buffer.length) :
      Puts session (.patchBuffer name position bytes) name
        (.buffer (Wire.Record.splice buffer position bytes))
  | resizeBuffer {name : String} {buffer : List UInt8} (size : Nat)
      (found : session.find? name = some (.buffer buffer)) :
      Puts session (.resizeBuffer name size) name
        (.buffer (buffer.take size ++ List.replicate (size - buffer.length) 0))
  | makeTabletRecord {source : String} {tablet : Tablet} {bytes : List UInt8} (target : String)
      (found : session.find? source = some (.tablet tablet)) (done : tablet.toRecord = .ok bytes) :
      Puts session (.makeRecord target source) target (.buffer bytes)
  | makeParameterRecord {source : String} {parameter : TransferParameter} {bytes : List UInt8}
      (target : String) (found : session.find? source = some (.parameter parameter))
      (done : parameter.toRecord = .ok bytes) :
      Puts session (.makeRecord target source) target (.buffer bytes)
  | writeTablet {name buffer : String} {tablet : Tablet} {settings : Settings}
      {bytes written : List UInt8} {position position' : Nat}
      (found : session.find? buffer = some (.buffer bytes))
      (found' : session.find? name = some (.tablet tablet))
      (done : tablet.write settings bytes position = .ok (written, position')) :
      Puts session (.write name buffer position settings) buffer (.buffer written)
  | writeParameter {name buffer : String} {parameter : TransferParameter} {settings : Settings}
      {bytes written : List UInt8} {position position' : Nat}
      (found : session.find? buffer = some (.buffer bytes))
      (found' : session.find? name = some (.parameter parameter))
      (done : parameter.write bytes position = .ok (written, position')) :
      Puts session (.write name buffer position settings) buffer (.buffer written)
  | readTablet {name arena buffer : String} {payer : ArenaId} {bytes : List UInt8}
      {settings : Settings} {old result : Tablet} {position position' : Nat} {after : Ledger}
      (found : session.find? name = some (.tablet old))
      (named : session.Offers arena Object.arena? payer)
      (found' : session.find? buffer = some (.buffer bytes))
      (done : old.read settings payer bytes position session.ledger =
        .ok (result, position') after) :
      Puts session (.readTablet name arena buffer position settings) name (.tablet result)
  | readParameter {name buffer : String} {bytes : List UInt8} {old result : TransferParameter}
      {position position' : Nat} {after : Ledger}
      (found : session.find? name = some (.parameter old))
      (found' : session.find? buffer = some (.buffer bytes))
      (done : old.read bytes position session.ledger = .ok (result, position') after) :
      Puts session (.readParameter name buffer position) name (.parameter result)

theorem find?_erase (session : Session) (name other : String) :
    (session.erase name).find? other = if other = name then none else session.find? other := by
  obtain ⟨ledger, objects⟩ := session
  unfold erase find?
  induction objects with
  | nil => simp
  | cons entry entries ih =>
    obtain ⟨key, object⟩ := entry
    by_cases dropped : key = name
    · rw [List.filter_cons_of_neg (by simpa using dropped), ih]
      by_cases same : other = name
      · rw [if_pos same, if_pos same]
      · have missed : (other == key) = false := beq_eq_false_iff_ne.mpr (dropped ▸ same)
        rw [if_neg same, if_neg same, List.lookup_cons, missed]
    · rw [List.filter_cons_of_pos (by simpa using dropped), List.lookup_cons, List.lookup_cons, ih]
      by_cases same : other = name
      · have missed : (other == key) = false := beq_eq_false_iff_ne.mpr (same ▸ Ne.symm dropped)
        rw [if_pos same, if_pos same, missed]
      · rw [if_neg same, if_neg same]

theorem find?_insert (session : Session) (name other : String) (object : Object) :
    (session.insert name object).find? other =
      if other = name then some object else session.find? other := by
  by_cases same : other = name
  · rw [if_pos same, same, find?, insert, List.lookup_cons_self]
  · have missed : (other == name) = false := beq_eq_false_iff_ne.mpr same
    have kept := find?_erase session name other
    rw [if_neg same] at kept ⊢
    rw [find?, insert, List.lookup_cons, missed]
    exact kept

namespace Script

variable {α β : Type} {made : String → Object → Prop} {target : String}

/-- Where a script succeeds, each object of the session after it has been there before, or is one
that the script makes. -/
def Changes (script : Script α) (session : Session) (made : String → Object → Prop) : Prop :=
  ∀ value after, script session = .ok value after → ∀ name object,
    after.find? name = some object → session.find? name = some object ∨ made name object

def Inserts (script : Script α) (session : Session) (target : String) (object : Object) : Prop :=
  ∃ answer ledger, script session = .ok answer ({ session with ledger }.insert target object)

theorem store_inserts (session : Session) (target : String) (object : Object) :
    (store target object).Inserts session target object := by
  refine ⟨.object object, session.ledger.releaseAll (session.chargesOf target), ?_⟩
  show EStateM.Result.ok _ ((session.letGo target).insert target object) = _
  rw [letGo_eq]

theorem put_inserts (session : Session) (target : String) (object : Object) :
    (put target object).Inserts session target object :=
  ⟨_, session.ledger, rfl⟩

theorem unusable_changes : (unusable name : Script α).Changes session made := by
  intro value after done
  cases done

theorem Reads.changes {first : Script α} {next : α → Script β} {found : α → Prop}
    (reads : first.Reads session found)
    (later : ∀ value, found value → (next value).Changes session made) :
    (first >>= next).Changes session made := by
  intro result after done
  obtain ⟨value, middle, done, done'⟩ := bind_eq_ok_iff.mp done
  obtain ⟨same, holds⟩ := reads.ok _ _ done
  rw [same] at done'
  exact later value holds result after done'

theorem Changes.of_ok {script : Script α} {value : α} (done : script session = .ok value session) :
    script.Changes session made := by
  intro value' after done' name object has
  rw [done] at done'
  cases done'
  exact .inl has

theorem Inserts.changes {script : Script α} (inserts : script.Inserts session target object)
    (holds : made target object) : script.Changes session made := by
  obtain ⟨answer, ledger, done⟩ := inserts
  intro value after done' name object' has
  rw [done] at done'
  cases done'
  rw [find?_insert] at has
  split at has
  · next same =>
    cases has
    rw [same]
    exact .inr holds
  · exact .inl has

theorem charging_changes {operation : Charging α} (wrap : α → Object) {finish : α → Script β}
    (inserts : ∀ value session, (finish value).Inserts session target (wrap value))
    (holds : ∀ value after, operation session.ledger = .ok value after →
      made target (wrap value)) : (charging operation >>= finish).Changes session made := by
  intro result ended done
  obtain ⟨value, middle, charged, finished⟩ := bind_eq_ok_iff.mp done
  obtain ⟨after, done, rfl⟩ := charging_eq_ok_iff.mp charged
  have changes : (finish value).Changes { session with ledger := after } made :=
    (inserts value _).changes (holds value after done)
  exact changes _ _ finished

theorem charging_spares {operation : Charging α} (wrap : α → Object) {finish : α → Script β}
    (restores : Charging.Restores operation)
    (inserts : ∀ value session, (finish value).Inserts session target (wrap value))
    (different : name ≠ target) :
    (charging operation >>= finish).Ends session fun _ after =>
      after.find? name = session.find? name := by
  refine Ends.charging restores fun value after _ => ?_
  obtain ⟨answer, ledger, inserted⟩ := inserts value { session with ledger := after }
  exact ⟨answer, _, inserted, (find?_insert _ _ _ _).trans (if_neg different)⟩

theorem drop_changes (name : String) : (Script.drop name).Changes session made := by
  refine (object_reads name).changes fun object _ => ?_
  intro value after done other object' has
  cases done
  replace has : ((session.letGo name).erase name).find? other = some object' := has
  rw [letGo_eq, find?_erase] at has
  split at has
  · cases has
  · exact .inl has

theorem arena_offers (name : String) :
    (Script.arena name).Reads session (session.Offers name Object.arena?) :=
  want_reads name _

theorem paid_changes {operation : ArenaId → Charging α} {arena : String} (wrap : α → Object)
    (holds : ∀ payer value after, session.Offers arena Object.arena? payer →
      operation payer session.ledger = .ok value after → made target (wrap value)) :
    (Script.arena arena >>= fun payer =>
      charging (operation payer) >>= fun value => store target (wrap value)).Changes session made :=
  (arena_offers arena).changes fun payer named =>
    charging_changes wrap (fun _ _ => store_inserts _ _ _) fun value after done =>
      holds payer value after named done

end Script

def Step.OnlyPuts (session : Session) (step : Step) : Prop :=
  step.script.Changes session (step.Puts session)

theorem openArena_onlyPuts (target label : String) (limit : Nat) :
    (Step.openArena target label limit).OnlyPuts session := by
  -- The store starts from another ledger, but from the same objects.
  have changes : (store target (.arena ⟨session.ledger.next⟩)).Changes
      { session with ledger := (session.ledger.openArena { label, limit }).2 }
      ((Step.openArena target label limit).Puts session) :=
    (store_inserts _ _ _).changes (.openArena target label limit)
  exact changes

theorem charge_onlyPuts (target arena : String) (size : Nat) :
    (Step.charge target arena size).OnlyPuts session := by
  refine paid_changes id fun payer charged after named done => ?_
  obtain ⟨account, fits, h⟩ := Charging.holding_eq_ok_iff.mp done
  rw [Account.chargeAll_singleton] at fits
  cases h
  exact .charge target named fits

theorem json_onlyPuts (name : String) : (Step.json name).OnlyPuts session := by
  refine (object_reads name).changes fun object _ => ?_
  cases object with
  | tablet tablet => exact .of_ok rfl
  | parameter parameter => exact .of_ok rfl
  | _ => exact unusable_changes

theorem copy_onlyPuts (target source arena : String) (kind? : Option ValueKind) :
    (Step.copy target source arena kind?).OnlyPuts session := by
  refine (arena_offers arena).changes fun payer named => ?_
  refine (want_reads source _).changes fun operation copied => ?_
  obtain ⟨object, found, copies⟩ := copied
  exact charging_changes _ (fun _ _ => store_inserts _ _ _) fun _ _ done =>
    .copy target named found copies done

theorem pushWord_onlyPuts (target source arena : String) (item : UInt64) :
    (Step.pushWord target source arena item).OnlyPuts session := by
  refine (arena_offers arena).changes fun payer named => ?_
  refine (want_reads source _).changes fun items offered => ?_
  exact charging_changes _ (fun _ _ => store_inserts _ _ _) fun _ _ done =>
    .pushWord target named offered done

theorem withNext_onlyPuts (target source arena : String) (columnId nextValue : UInt64) :
    (Step.withNext target source arena columnId nextValue).OnlyPuts session := by
  refine (arena_offers arena).changes fun payer named => ?_
  refine (want_reads source _).changes fun sequence offered => ?_
  exact charging_changes _ (fun _ _ => store_inserts _ _ _) fun _ _ done =>
    .withNext target named offered done

theorem setHidden_onlyPuts (name arena : String) (ids : List TabletId) :
    (Step.setHidden name arena ids).OnlyPuts session := by
  refine (arena_offers arena).changes fun payer named => ?_
  refine (object_reads name).changes fun object found => ?_
  cases object with
  | binding held =>
    exact charging_changes _ (fun _ _ => put_inserts _ _ _) fun _ _ done =>
      .setHidden named found done
  | _ => exact unusable_changes

theorem schedule_onlyPuts (name arena : String) (compaction : Compaction) :
    (Step.schedule name arena compaction).OnlyPuts session := by
  refine (arena_offers arena).changes fun payer named => ?_
  refine (object_reads name).changes fun object found => ?_
  cases object with
  | compactions held =>
    exact charging_changes _ (fun _ _ => put_inserts _ _ _) fun _ _ done =>
      .schedule named found done
  | _ => exact unusable_changes

theorem editBinding_onlyPuts (name : String) (edit : BindingEdit) :
    (Step.editBinding name edit).OnlyPuts session := by
  refine (object_reads name).changes fun object found => ?_
  cases object with
  | binding held => exact (put_inserts _ _ _).changes (.editBinding edit found)
  | _ => exact unusable_changes

theorem editSchema_onlyPuts (name : String) (edit : SchemaEdit) :
    (Step.editSchema name edit).OnlyPuts session := by
  refine (object_reads name).changes fun object found => ?_
  cases object with
  | schema held => exact (put_inserts _ _ _).changes (.editSchema edit found)
  | _ => exact unusable_changes

theorem editQueue_onlyPuts (name : String) (edit : QueueEdit) :
    (Step.editQueue name edit).OnlyPuts session := by
  refine (object_reads name).changes fun object found => ?_
  cases object with
  | compactions held => exact (put_inserts _ _ _).changes (.editQueue edit found)
  | _ => exact unusable_changes

theorem editParameter_onlyPuts (name : String) (edit : SnapshotEdit) :
    (Step.editParameter name edit).OnlyPuts session := by
  refine (parameter_reads name).changes fun parameter found => ?_
  exact (put_inserts _ _ _).changes (.editParameter edit found)

theorem initTablet_onlyPuts (name arena : String) (source : InitSource) :
    (Step.initTablet name arena source).OnlyPuts session := by
  refine (tablet_reads name).changes fun tablet found => ?_
  refine (arena_offers arena).changes fun payer named => ?_
  refine (initRequest_reads source).changes fun request asks => ?_
  exact charging_changes _ (fun _ _ => put_inserts _ _ _) fun _ _ done =>
    .initTablet found named asks done

theorem updateTablet_onlyPuts (name source : String) :
    (Step.updateTablet name source).OnlyPuts session := by
  refine (tablet_reads name).changes fun tablet found => ?_
  refine (parameter_reads source).changes fun parameter found' => ?_
  exact charging_changes _ (fun _ _ => put_inserts _ _ _) fun _ _ done =>
    .updateTablet found found' done

theorem updateCreateScn_onlyPuts (name : String) (createScn : Scn) :
    (Step.updateCreateScn name createScn).OnlyPuts session := by
  refine (tablet_reads name).changes fun tablet found => ?_
  refine (ofResult_reads _).changes fun result done => ?_
  exact (put_inserts _ _ _).changes (.updateCreateScn found done)

theorem reset_onlyPuts (name : String) : (Step.reset name).OnlyPuts session := by
  refine (object_reads name).changes fun object found => ?_
  cases object with
  | tablet tablet =>
    exact charging_changes _ (fun _ _ => put_inserts _ _ _) fun _ _ done => .resetTablet found done
  | parameter parameter =>
    exact charging_changes _ (fun _ _ => put_inserts _ _ _) fun _ _ done =>
      .resetParameter found done
  | _ => exact unusable_changes

theorem makeParameter_onlyPuts (target : String) (settings : Settings) :
    (Step.makeParameter target settings).OnlyPuts session :=
  charging_changes _ (fun _ _ => store_inserts _ _ _) fun _ _ done => .makeParameter target done

theorem attach_onlyPuts (name part : String) (kind? : Option ValueKind) :
    (Step.attach name part kind?).OnlyPuts session := by
  refine (parameter_reads name).changes fun parameter found => ?_
  refine (want_reads part _).changes fun operation attached => ?_
  obtain ⟨object, found', attaches⟩ := attached
  exact charging_changes _ (fun _ _ => put_inserts _ _ _) fun _ _ done =>
    .attach found found' attaches done

theorem assign_onlyPuts (name source : String) : (Step.assign name source).OnlyPuts session := by
  refine (parameter_reads name).changes fun parameter found => ?_
  refine (parameter_reads source).changes fun source found' => ?_
  exact charging_changes _ (fun _ _ => put_inserts _ _ _) fun _ _ done => .assign found found' done

theorem sendTablet_onlyPuts (target tablet schema compactions : String) :
    (Step.sendTablet target tablet schema compactions).OnlyPuts session := by
  refine (tablet_reads tablet).changes fun tablet found => ?_
  refine (want_reads schema _).changes fun schema offered => ?_
  refine (want_reads compactions _).changes fun compactions offered' => ?_
  exact charging_changes _ (fun _ _ => store_inserts _ _ _) fun _ _ done =>
    .sendTablet target found offered offered' done

theorem makePlaceholder_onlyPuts (target : String) (name : TabletName) (dataTabletId : TabletId)
    (createScn : Scn) :
    (Step.makePlaceholder target name dataTabletId createScn).OnlyPuts session :=
  charging_changes _ (fun _ _ => store_inserts _ _ _) fun _ _ done => .makePlaceholder target done

theorem patchBuffer_onlyPuts (name : String) (position : Nat) (bytes : List UInt8) :
    (Step.patchBuffer name position bytes).OnlyPuts session := by
  refine (buffer_reads name).changes fun buffer found => ?_
  by_cases outside : buffer.length < position + bytes.length
  · rw [if_pos outside]
    exact unusable_changes
  · rw [if_neg outside]
    exact (put_inserts _ _ _).changes (.patchBuffer found (Nat.not_lt.mp outside))

theorem resizeBuffer_onlyPuts (name : String) (size : Nat) :
    (Step.resizeBuffer name size).OnlyPuts session := by
  refine (buffer_reads name).changes fun buffer found => ?_
  exact (put_inserts _ _ _).changes (.resizeBuffer size found)

theorem makeRecord_onlyPuts (target source : String) :
    (Step.makeRecord target source).OnlyPuts session := by
  refine (object_reads source).changes fun object found => ?_
  cases object with
  | tablet tablet =>
    refine (ofResult_reads _).changes fun bytes done => ?_
    exact (store_inserts _ _ _).changes (.makeTabletRecord target found done)
  | parameter parameter =>
    refine (ofResult_reads _).changes fun bytes done => ?_
    exact (store_inserts _ _ _).changes (.makeParameterRecord target found done)
  | _ => exact unusable_changes

theorem write_onlyPuts (name buffer : String) (position : Nat) (settings : Settings) :
    (Step.write name buffer position settings).OnlyPuts session := by
  refine (buffer_reads buffer).changes fun bytes found => ?_
  refine (object_reads name).changes fun object found' => ?_
  cases object with
  | tablet tablet =>
    refine (ofResult_reads _).changes fun (written, position') done => ?_
    exact (Inserts.changes ⟨_, _, rfl⟩) (.writeTablet found found' done)
  | parameter parameter =>
    refine (ofResult_reads _).changes fun (written, position') done => ?_
    exact (Inserts.changes ⟨_, _, rfl⟩) (.writeParameter found found' done)
  | _ => exact unusable_changes

theorem readTablet_onlyPuts (name arena buffer : String) (position : Nat) (settings : Settings) :
    (Step.readTablet name arena buffer position settings).OnlyPuts session := by
  refine (tablet_reads name).changes fun tablet found => ?_
  refine (arena_offers arena).changes fun payer named => ?_
  refine (buffer_reads buffer).changes fun bytes found' => ?_
  exact charging_changes (fun read : Tablet × Nat => .tablet read.1) (fun _ _ => ⟨_, _, rfl⟩)
    fun _ _ done => .readTablet found named found' done

theorem readParameter_onlyPuts (name buffer : String) (position : Nat) :
    (Step.readParameter name buffer position).OnlyPuts session := by
  refine (parameter_reads name).changes fun parameter found => ?_
  refine (buffer_reads buffer).changes fun bytes found' => ?_
  exact charging_changes (fun read : TransferParameter × Nat => .parameter read.1)
    (fun _ _ => ⟨_, _, rfl⟩) fun _ _ done => .readParameter found found' done

/-- Whatever a step changes, it changes by putting one object under one name. -/
theorem step_onlyPuts (step : Step) : step.OnlyPuts session := by
  cases step with
  | openArena target label limit => exact openArena_onlyPuts target label limit
  | shareArena target arena =>
    refine (arena_offers arena).changes fun payer named => ?_
    exact (store_inserts _ _ _).changes (.shareArena target named)
  | sameArena first second =>
    refine (arena_offers first).changes fun _ _ => ?_
    exact (arena_offers second).changes fun _ _ => .of_ok rfl
  | charge target arena size => exact charge_onlyPuts target arena size
  | free name => exact drop_changes name
  | drop name => exact drop_changes name
  | inspect name => exact (object_reads name).changes fun _ _ => .of_ok rfl
  | describe name => exact (object_reads name).changes fun _ _ => .of_ok rfl
  | json name => exact json_onlyPuts name
  | compare first second =>
    refine (object_reads first).changes fun a _ => ?_
    exact (want_reads second _).changes fun _ _ => .of_ok rfl
  | copy target source arena kind? => exact copy_onlyPuts target source arena kind?
  | decode target arena kind bytes =>
    exact paid_changes id fun _ _ _ named done => .decode target named done
  | makeWords target arena items =>
    exact paid_changes .words fun _ _ _ named done => .makeWords target named done
  | pushWord target source arena item => exact pushWord_onlyPuts target source arena item
  | makeSequence target arena intervals =>
    exact paid_changes .autoincrement fun _ _ _ named done => .makeSequence target named done
  | nextValue name columnId => exact (want_reads name _).changes fun _ _ => .of_ok rfl
  | withNext target source arena columnId nextValue =>
    exact withNext_onlyPuts target source arena columnId nextValue
  | makeBinding target dataTabletId lobMetaTabletId lobPieceTabletId =>
    exact (store_inserts _ _ _).changes (.makeBinding target _ _ _)
  | setHidden name arena ids => exact setHidden_onlyPuts name arena ids
  | makeSchema target arena schemaVersion compatMode rowkeyColumns columns =>
    exact paid_changes .schema fun _ _ _ named done => .makeSchema target named done
  | makePlaceholderSchema target arena =>
    exact paid_changes .schema fun _ _ _ named done => .makePlaceholderSchema target named done
  | checkQueryable name =>
    refine (want_reads name _).changes fun schema _ => ?_
    exact (ofResult_reads _).changes fun _ _ => .of_ok rfl
  | makeQueue target => exact (store_inserts _ _ _).changes (.makeQueue target)
  | schedule name arena compaction => exact schedule_onlyPuts name arena compaction
  | editBinding name edit => exact editBinding_onlyPuts name edit
  | editSchema name edit => exact editSchema_onlyPuts name edit
  | editQueue name edit => exact editQueue_onlyPuts name edit
  | editParameter name edit => exact editParameter_onlyPuts name edit
  | makeTablet target => exact (store_inserts _ _ _).changes (.makeTablet target)
  | initTablet name arena source => exact initTablet_onlyPuts name arena source
  | updateTablet name source => exact updateTablet_onlyPuts name source
  | updateCreateScn name createScn => exact updateCreateScn_onlyPuts name createScn
  | reset name => exact reset_onlyPuts name
  | makeParameter target settings => exact makeParameter_onlyPuts target settings
  | attach name part kind? => exact attach_onlyPuts name part kind?
  | assign name source => exact assign_onlyPuts name source
  | sendTablet target tablet schema compactions =>
    exact sendTablet_onlyPuts target tablet schema compactions
  | makePlaceholder target name dataTabletId createScn =>
    exact makePlaceholder_onlyPuts target name dataTabletId createScn
  | makeBuffer target bytes => exact (store_inserts _ _ _).changes (.makeBuffer target bytes)
  | patchBuffer name position bytes => exact patchBuffer_onlyPuts name position bytes
  | resizeBuffer name size => exact resizeBuffer_onlyPuts name size
  | makeRecord target source => exact makeRecord_onlyPuts target source
  | write name buffer position settings => exact write_onlyPuts name buffer position settings
  | readTablet name arena buffer position settings =>
    exact readTablet_onlyPuts name arena buffer position settings
  | readParameter name buffer position => exact readParameter_onlyPuts name buffer position
  | readName buffer position =>
    refine (buffer_reads buffer).changes fun bytes _ => ?_
    exact (ofResult_reads _).changes fun _ _ => .of_ok rfl

theorem find?_step_of_ends {step : Step}
    (ends : step.script.Ends session fun _ after => after.find? name = session.find? name) :
    (session.step step).2.find? name = session.find? name := by
  unfold Session.step
  cases done : step.script session with
  | ok answer after => exact ends.ok _ _ done
  | error error after => exact congrArg (Session.find? · name) (ends.error _ _ done)

/-- An object of a session after a step was there before, or is the one that the step puts there. -/
theorem puts_of_find?_step (sound : session.Sound) {step : Step}
    (found : (session.step step).2.find? name = some object) :
    session.find? name = some object ∨ step.Puts session name object := by
  cases outcome : (session.step step).1 with
  | error error =>
    rw [step_of_error sound outcome] at found
    exact .inl found
  | ok answer =>
    unfold Session.step at found outcome
    cases done : step.script session with
    | ok answer' after =>
      rw [done] at found
      exact step_onlyPuts step _ _ done _ _ found
    | error error after =>
      rw [done] at outcome
      cases outcome

end TabletRecords.Session
