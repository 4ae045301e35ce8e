import TabletRecords.Proofs.Session.Script

/-!
Requests. A request to initialize a tablet is put together from what objects of the session have: an
old tablet, the parts that replace its own, and the snapshot of a parameter.
-/
namespace TabletRecords.Session

open Outcome Script

variable {session : Session}

/-- The object with a name has a value of some kind. -/
def Offers {α : Type} (session : Session) (name : String) (part? : Object → Option α) (value : α) :
    Prop :=
  ∃ object, session.find? name = some object ∧ part? object = some value

/-- The replacement of a tablet's parts takes what sources do not say from the tablet. -/
structure PartSources.Fills (parts : PartSources) (session : Session) (old : Tablet)
    (filled : Replacement) : Prop where
  transaction : filled.transaction = parts.transaction?.getD old.descriptor.transaction
  binding :
    match parts.binding? with
    | none => filled.binding = old.descriptor.binding
    | some name => session.Offers name Object.binding? filled.binding
  autoincrement :
    match parts.autoincrement? with
    | none => filled.autoincrement = old.descriptor.autoincrement
    | some name => session.Offers name Object.autoincrement? filled.autoincrement

inductive InitSource.Asks (session : Session) : InitSource → InitRequest → Prop
  | create (tablet : NewTablet) : Asks session (.create tablet) (.create tablet)
  | succeed {name : String} {old : Tablet} {parts : PartSources} {filled : Replacement}
      (snapshotVersion multiVersionStart : Int64) (syncedSchemaVersion? : Option Int64)
      (clogCheckpoint? ddlCheckpoint? ddlStartLog? : Option Scn) (ddlSnapshotVersion? : Option Int64)
      (found : session.find? name = some (.tablet old)) (fills : parts.Fills session old filled) :
      Asks session
        (.succeed name snapshotVersion multiVersionStart parts syncedSchemaVersion? clogCheckpoint?
          ddlCheckpoint? ddlStartLog? ddlSnapshotVersion?)
        (.succeed old {
          snapshotVersion
          multiVersionStart
          transaction := filled.transaction
          binding := filled.binding
          autoincrement := filled.autoincrement
          syncedSchemaVersion := syncedSchemaVersion?.getD old.descriptor.syncedSchemaVersion
          clogCheckpoint?
          ddlCheckpoint?
          ddlStartLog?
          ddlSnapshotVersion? })
  | receive {name : String} {parameter : TransferParameter}
      (found : session.find? name = some (.parameter parameter)) :
      Asks session (.receive name) (.receive parameter.snapshot)
  | patch {name : String} {old : Tablet} {parts : PartSources} {filled : Replacement}
      (found : session.find? name = some (.tablet old)) (fills : parts.Fills session old filled) :
      Asks session (.patch name parts none) (.patch old filled none)
  | bringForward {name source : String} {old : Tablet} {parts : PartSources} {filled : Replacement}
      {parameter : TransferParameter} (found : session.find? name = some (.tablet old))
      (fills : parts.Fills session old filled)
      (found' : session.find? source = some (.parameter parameter)) :
      Asks session (.patch name parts (some source)) (.patch old filled (some parameter.snapshot))

theorem Script.replacement_reads (old : Tablet) (parts : PartSources) :
    (replacement old parts).Reads session (parts.Fills session old) := by
  obtain ⟨transaction?, binding?, autoincrement?⟩ := parts
  cases binding? with
  | none =>
    cases autoincrement? with
    | none => exact pure_reads ⟨rfl, rfl, rfl⟩
    | some name => exact (want_reads name _).bind fun _ offered => pure_reads ⟨rfl, rfl, offered⟩
  | some name =>
    refine (want_reads name _).bind fun _ offered => ?_
    cases autoincrement? with
    | none => exact pure_reads ⟨rfl, offered, rfl⟩
    | some name' =>
      exact (want_reads name' _).bind fun _ offered' => pure_reads ⟨rfl, offered, offered'⟩

theorem Script.initRequest_reads (source : InitSource) :
    (initRequest source).Reads session (source.Asks session) := by
  cases source with
  | create tablet => exact pure_reads (.create tablet)
  | succeed name snapshotVersion multiVersionStart parts =>
    refine (tablet_reads name).bind fun old found => ?_
    exact (replacement_reads old parts).bind fun _ fills =>
      pure_reads (.succeed _ _ _ _ _ _ _ found fills)
  | receive name => exact (parameter_reads name).bind fun _ found => pure_reads (.receive found)
  | patch name parts source? =>
    refine (tablet_reads name).bind fun old found => ?_
    refine (replacement_reads old parts).bind fun _ fills => ?_
    cases source? with
    | none => exact pure_reads (.patch found fills)
    | some source =>
      exact (parameter_reads source).bind fun _ found' => pure_reads (.bringForward found fills found')

namespace PartSources.Fills

variable {parts : PartSources} {name : String} {old : Tablet} {filled : Replacement}

theorem offers_binding (fills : parts.Fills session old filled)
    (found : session.find? name = some (.tablet old)) :
    ∃ source, session.Offers source Object.binding? filled.binding := by
  have binding := fills.binding
  split at binding
  · exact ⟨name, _, found, congrArg some binding.symm⟩
  · exact ⟨_, binding⟩

theorem offers_autoincrement (fills : parts.Fills session old filled)
    (found : session.find? name = some (.tablet old)) :
    ∃ source, session.Offers source Object.autoincrement? filled.autoincrement := by
  have autoincrement := fills.autoincrement
  split at autoincrement
  · exact ⟨name, _, found, congrArg some autoincrement.symm⟩
  · exact ⟨_, autoincrement⟩

end PartSources.Fills

namespace InitSource.Asks

variable {source : InitSource} {request : InitRequest}

theorem offers_binding (asks : source.Asks session request) :
    request.body.binding.hiddenTabletIds = [] ∨
      ∃ name, session.Offers name Object.binding? request.body.binding := by
  cases asks with
  | create tablet => exact .inl rfl
  | succeed _ _ _ _ _ _ _ found fills => exact .inr (fills.offers_binding found)
  | receive found => exact .inr ⟨_, _, found, rfl⟩
  | patch found fills => exact .inr (fills.offers_binding found)
  | bringForward found fills _ => exact .inr (fills.offers_binding found)

theorem offers_autoincrement (asks : source.Asks session request) :
    request.body.autoincrement = {} ∨
      ∃ name, session.Offers name Object.autoincrement? request.body.autoincrement := by
  cases asks with
  | create tablet => exact .inl rfl
  | succeed _ _ _ _ _ _ _ found fills => exact .inr (fills.offers_autoincrement found)
  | receive found => exact .inr ⟨_, _, found, rfl⟩
  | patch found fills => exact .inr (fills.offers_autoincrement found)
  | bringForward found fills _ => exact .inr (fills.offers_autoincrement found)

end InitSource.Asks

end TabletRecords.Session
