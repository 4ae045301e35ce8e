import TabletRecords.Proofs.Tablet.Reception
import TabletRecords.Proofs.Tablet.Standstill

/-!
Merging. Snapshots of a tablet on other nodes bring it forward one after another. What becomes of
its snapshots, of its checkpoints and of the version of its schema is a join: each ends as the
greatest of its own value and of those that the snapshots have, in whatever order they come and
however often. The start and the snapshot of the schema changes are those of the last snapshot that
has them.
-/
namespace TabletRecords

open Arena (Account ArenaId Ledger)
open Std.LawfulOrderLeftLeaningMax (max_eq_left)
open Std.LawfulOrderLeftLeaningMin (min_eq_left)

theorem eq_of_isGreatest {α : Type} [LE α] [Std.IsLinearOrder α] {values : Set α} {a b : α}
    (greatest : IsGreatest values a) (greatest' : IsGreatest values b) : a = b :=
  Std.le_antisymm (greatest'.2 greatest.1) (greatest.2 greatest'.1)

theorem getD_eq_of_forall {α : Type} {a : α} {given? : Option α} (same : ∀ given ∈ given?, given = a) :
    given?.getD a = a := by
  cases given? with
  | none => rfl
  | some given => exact same given rfl

namespace DescriptorBody

def override (replacement : Replacement) (old : DescriptorBody) (snapshot : Snapshot) : DescriptorBody :=
  (old.replaceParts replacement).bringForward snapshot

def overrideAll (replacement : Replacement) (old : DescriptorBody) (snapshots : List Snapshot) :
    DescriptorBody :=
  snapshots.foldl (override replacement) old

variable {replacement : Replacement} {old body : DescriptorBody} {snapshot : Snapshot}
  {snapshots : List Snapshot}

theorem Valid.override (valid : old.Valid) (valid' : snapshot.Valid) :
    (old.override replacement snapshot).Valid :=
  (valid.replaceParts replacement).bringForward valid'

theorem recordSize_replaceParts (replacement : Replacement) (body other : DescriptorBody) :
    (body.replaceParts replacement).recordSize = (other.replaceParts replacement).recordSize := by
  rw [recordSize, recordSize, size_eq, size_eq]
  rfl

/-- A watermark takes the newer one of its own value and the one that a snapshot has. -/
def TakesNewest {α : Type} [Max α] (value : DescriptorBody → α) (supplied? : Snapshot → Option α) :
    Prop :=
  ∀ (replacement : Replacement) (old : DescriptorBody) (snapshot : Snapshot), old.Valid →
    snapshot.Valid → value (old.override replacement snapshot) = newer (value old) (supplied? snapshot)

def TakesLast {α : Type} (value : DescriptorBody → α) (supplied? : Snapshot → Option α) : Prop :=
  ∀ (replacement : Replacement) (old : DescriptorBody) (snapshot : Snapshot),
    value (old.override replacement snapshot) = (supplied? snapshot).getD (value old)

theorem takesNewest_snapshotVersion :
    TakesNewest (·.snapshotVersion) (fun snapshot => some snapshot.snapshotVersion) :=
  fun _ _ _ _ _ => rfl

/-- The oldest snapshot is never held back: what holds it back has moved on by as much. -/
theorem takesNewest_multiVersionStart :
    TakesNewest (·.multiVersionStart) (fun snapshot => some snapshot.multiVersionStart) :=
  fun _ _ _ valid valid' => multiVersionStart_bringForward (valid.replaceParts _).order valid'.order

theorem takesNewest_clogCheckpoint :
    TakesNewest (·.clogCheckpoint) (fun snapshot => some snapshot.clogCheckpoint) :=
  fun _ _ _ _ _ => rfl

theorem takesNewest_syncedSchemaVersion :
    TakesNewest (·.syncedSchemaVersion) (fun snapshot => some snapshot.syncedSchemaVersion) :=
  fun _ _ _ _ _ => rfl

theorem takesNewest_ddlCheckpoint : TakesNewest (·.ddlCheckpoint) Snapshot.ddlCheckpoint? :=
  fun _ _ _ _ _ => rfl

theorem takesLast_ddlStartLog : TakesLast (·.ddlStartLog) Snapshot.ddlStartLog? :=
  fun _ _ _ => rfl

theorem takesLast_ddlSnapshotVersion : TakesLast (·.ddlSnapshotVersion) Snapshot.ddlSnapshotVersion? :=
  fun _ _ _ => rfl

section Watermark

variable {α : Type} {value : DescriptorBody → α} {supplied? : Snapshot → Option α}

theorem TakesNewest.foldl [Max α] (takes : TakesNewest value supplied?) (valid : old.Valid)
    (valid' : ∀ snapshot ∈ snapshots, snapshot.Valid) :
    value (old.overrideAll replacement snapshots) =
      (snapshots.filterMap supplied?).foldl max (value old) := by
  induction snapshots generalizing old with
  | nil => rfl
  | cons snapshot snapshots ih =>
    obtain ⟨first, later⟩ := List.forall_mem_cons.mp valid'
    have step := takes replacement old snapshot valid first
    refine (ih (valid.override first) later).trans ?_
    rw [step, List.filterMap_cons]
    cases supplied? snapshot <;> rfl

theorem TakesNewest.isGreatest [LE α] [Max α] [Std.IsLinearOrder α] [Std.LawfulOrderMax α]
    (takes : TakesNewest value supplied?) (valid : old.Valid)
    (valid' : ∀ snapshot ∈ snapshots, snapshot.Valid) :
    IsGreatest {given | given ∈ value old :: snapshots.filterMap supplied?}
      (value (old.overrideAll replacement snapshots)) := by
  obtain ⟨among, most⟩ := List.max?_eq_some_iff.mp
    (List.max?_cons'.trans (congrArg some (takes.foldl valid valid').symm))
  exact ⟨among, most⟩

theorem TakesLast.getLastD (takes : TakesLast value supplied?) :
    value (old.overrideAll replacement snapshots) =
      (snapshots.filterMap supplied?).getLastD (value old) := by
  induction snapshots generalizing old with
  | nil => rfl
  | cons snapshot snapshots ih =>
    refine ih.trans ?_
    rw [takes, List.filterMap_cons]
    cases supplied? snapshot with
    | none => rfl
    | some given => rw [List.getLastD_cons]; rfl

end Watermark

/-- A snapshot has nothing newer than what a body has, and no other values for the schema changes.
-/
structure Covers (body : DescriptorBody) (snapshot : Snapshot) : Prop where
  snapshotVersion : snapshot.snapshotVersion ≤ body.snapshotVersion
  multiVersionStart : snapshot.multiVersionStart ≤ body.multiVersionStart
  clogCheckpoint : snapshot.clogCheckpoint ≤ body.clogCheckpoint
  ddlCheckpoint : ∀ scn ∈ snapshot.ddlCheckpoint?, scn ≤ body.ddlCheckpoint
  syncedSchemaVersion : snapshot.syncedSchemaVersion ≤ body.syncedSchemaVersion
  ddlStartLog : ∀ scn ∈ snapshot.ddlStartLog?, scn = body.ddlStartLog
  ddlSnapshotVersion : ∀ version ∈ snapshot.ddlSnapshotVersion?, version = body.ddlSnapshotVersion

theorem Covers.replaceParts (covers : body.Covers snapshot) (replacement : Replacement) :
    (body.replaceParts replacement).Covers snapshot :=
  { covers with }

theorem Covers.bringForward_eq (covers : body.Covers snapshot)
    (order : body.multiVersionStart ≤ body.snapshotVersion) : body.bringForward snapshot = body := by
  simp only [bringForward, max_eq_left _ _ covers.snapshotVersion,
    max_eq_left _ _ covers.multiVersionStart, max_eq_left _ _ covers.clogCheckpoint,
    max_eq_left _ _ covers.syncedSchemaVersion, newer_eq_left covers.ddlCheckpoint,
    getD_eq_of_forall covers.ddlStartLog, getD_eq_of_forall covers.ddlSnapshotVersion,
    min_eq_left _ _ order]

theorem covers_bringForward (valid : body.Valid) (valid' : snapshot.Valid) :
    (body.bringForward snapshot).Covers snapshot where
  snapshotVersion := Std.right_le_max
  multiVersionStart := by
    rw [multiVersionStart_bringForward valid.order valid'.order]
    exact Std.right_le_max
  clogCheckpoint := Std.right_le_max
  ddlCheckpoint := by
    intro scn given
    show scn ≤ newer body.ddlCheckpoint snapshot.ddlCheckpoint?
    rw [Option.mem_def.mp given]
    exact Std.right_le_max
  syncedSchemaVersion := Std.right_le_max
  ddlStartLog := by
    intro scn given
    show scn = snapshot.ddlStartLog?.getD body.ddlStartLog
    rw [Option.mem_def.mp given, Option.getD_some]
  ddlSnapshotVersion := by
    intro version given
    show version = snapshot.ddlSnapshotVersion?.getD body.ddlSnapshotVersion
    rw [Option.mem_def.mp given, Option.getD_some]

theorem override_override (valid : old.Valid) (valid' : snapshot.Valid) :
    (old.override replacement snapshot).override replacement snapshot =
      old.override replacement snapshot :=
  (covers_bringForward (valid.replaceParts replacement) valid').bringForward_eq
    (valid.override valid').order

structure Joins (old : DescriptorBody) (snapshots : List Snapshot) (new : DescriptorBody) : Prop where
  snapshotVersion : IsGreatest
    {version | version ∈ old.snapshotVersion :: snapshots.map (·.snapshotVersion)} new.snapshotVersion
  multiVersionStart : IsGreatest
    {version | version ∈ old.multiVersionStart :: snapshots.map (·.multiVersionStart)}
    new.multiVersionStart
  clogCheckpoint : IsGreatest
    {scn | scn ∈ old.clogCheckpoint :: snapshots.map (·.clogCheckpoint)} new.clogCheckpoint
  syncedSchemaVersion : IsGreatest
    {version | version ∈ old.syncedSchemaVersion :: snapshots.map (·.syncedSchemaVersion)}
    new.syncedSchemaVersion
  ddlCheckpoint : IsGreatest
    {scn | scn ∈ old.ddlCheckpoint :: snapshots.filterMap (·.ddlCheckpoint?)} new.ddlCheckpoint
  ddlStartLog : new.ddlStartLog = (snapshots.filterMap (·.ddlStartLog?)).getLastD old.ddlStartLog
  ddlSnapshotVersion : new.ddlSnapshotVersion =
    (snapshots.filterMap (·.ddlSnapshotVersion?)).getLastD old.ddlSnapshotVersion

theorem joins_overrideAll (replacement : Replacement) (valid : old.Valid)
    (valid' : ∀ snapshot ∈ snapshots, snapshot.Valid) :
    old.Joins snapshots (old.overrideAll replacement snapshots) where
  snapshotVersion := by
    rw [← List.filterMap_eq_map]
    exact takesNewest_snapshotVersion.isGreatest valid valid'
  multiVersionStart := by
    rw [← List.filterMap_eq_map]
    exact takesNewest_multiVersionStart.isGreatest valid valid'
  clogCheckpoint := by
    rw [← List.filterMap_eq_map]
    exact takesNewest_clogCheckpoint.isGreatest valid valid'
  syncedSchemaVersion := by
    rw [← List.filterMap_eq_map]
    exact takesNewest_syncedSchemaVersion.isGreatest valid valid'
  ddlCheckpoint := takesNewest_ddlCheckpoint.isGreatest valid valid'
  ddlStartLog := takesLast_ddlStartLog.getLastD
  ddlSnapshotVersion := takesLast_ddlSnapshotVersion.getLastD

structure SameNewest (body other : DescriptorBody) : Prop where
  snapshotVersion : body.snapshotVersion = other.snapshotVersion
  multiVersionStart : body.multiVersionStart = other.multiVersionStart
  clogCheckpoint : body.clogCheckpoint = other.clogCheckpoint
  syncedSchemaVersion : body.syncedSchemaVersion = other.syncedSchemaVersion
  ddlCheckpoint : body.ddlCheckpoint = other.ddlCheckpoint

theorem Joins.sameNewest {others : List Snapshot} {new new' : DescriptorBody}
    (joins : old.Joins snapshots new) (joins' : old.Joins others new')
    (same : ∀ snapshot, snapshot ∈ snapshots ↔ snapshot ∈ others) : new.SameNewest new' := by
  have map {α : Type} (value : α) (f : Snapshot → α) :
      {given | given ∈ value :: others.map f} = {given | given ∈ value :: snapshots.map f} := by
    simp only [List.mem_cons, List.mem_map, same]
  have filterMap {α : Type} (value : α) (f : Snapshot → Option α) :
      {given | given ∈ value :: others.filterMap f} =
        {given | given ∈ value :: snapshots.filterMap f} := by
    simp only [List.mem_cons, List.mem_filterMap, same]
  obtain ⟨snapshot', multi', clog', synced', ddl', -, -⟩ := joins'
  rw [map] at snapshot' multi' clog' synced'
  rw [filterMap] at ddl'
  exact ⟨eq_of_isGreatest joins.snapshotVersion snapshot',
    eq_of_isGreatest joins.multiVersionStart multi', eq_of_isGreatest joins.clogCheckpoint clog',
    eq_of_isGreatest joins.syncedSchemaVersion synced', eq_of_isGreatest joins.ddlCheckpoint ddl'⟩

end DescriptorBody

/-- An overriding of a tablet by a snapshot, with the arena that is to pay for the new lists and the
ledger as it is then. -/
structure Override where
  snapshot : Snapshot
  arena : ArenaId
  ledger : Ledger

structure Override.Fits (override : Override) (name : TabletName) (replacement : Replacement) :
    Prop where
  valid : override.snapshot.isValid
  name : override.snapshot.name = name
  room : override.ledger.used override.arena + 16 * replacement.autoincrement.intervals.length +
    8 * replacement.binding.hiddenTabletIds.length ≤ (override.ledger.account override.arena).limit

namespace Tablet

/-- Override a tablet by one snapshot after another. What comes of each is the old tablet of the
next. -/
def overrideAll (replacement : Replacement) (old : Tablet) : List Override → Except Fault Tablet
  | [] => .ok old
  | override :: later =>
    match uninitialized.init override.arena (.patch old replacement (some override.snapshot))
        override.ledger with
    | .ok new _ => overrideAll replacement new later
    | .error fault _ => .error fault

def overridden (replacement : Replacement) (old : Tablet) (override : Override) : Tablet :=
  initialized (Descriptor.framed Descriptor.currentVersion
    (old.descriptor.toDescriptorBody.override replacement override.snapshot)) override.arena

variable {old : Tablet} {replacement : Replacement} {override : Override} {overrides : List Override}

theorem init_patch {snapshot? : Option Snapshot} {arena : ArenaId} {ledger : Ledger}
    (checked : (InitRequest.patch old replacement snapshot?).check = .ok ())
    (small : (old.descriptor.toDescriptorBody.replaceParts replacement).recordSize < 0x80000000)
    (room : ledger.used arena + 16 * replacement.autoincrement.intervals.length +
      8 * replacement.binding.hiddenTabletIds.length ≤ (ledger.account arena).limit) :
    ∃ after, uninitialized.init arena (.patch old replacement snapshot?) ledger =
      .ok (initialized (Descriptor.framed Descriptor.currentVersion
        (InitRequest.patch old replacement snapshot?).body) arena) after := by
  have sized : (InitRequest.patch old replacement snapshot?).body.recordSize =
      (old.descriptor.toDescriptorBody.replaceParts replacement).recordSize := by
    cases snapshot? with
    | none => rfl
    | some snapshot =>
      exact DescriptorBody.recordSize_replaceParts replacement
        (old.descriptor.toDescriptorBody.override replacement snapshot) _
  have fits : ledger.used arena + DescriptorBody.format.footprint
      (InitRequest.patch old replacement snapshot?).body ≤ (ledger.account arena).limit := by
    cases snapshot? <;> exact DescriptorBody.room_iff.mpr room
  exact ⟨_, init_eq_ok_iff.mpr ⟨⟨rfl, checked, InitRequest.isValid_body_of_check rfl checked,
    Nat.lt_of_le_of_lt (Nat.le_of_eq sized) small⟩, rfl, _, Account.chargeAll_of_room fits, rfl⟩⟩

theorem init_override (valid : old.isValid)
    (small : (old.descriptor.toDescriptorBody.replaceParts replacement).recordSize < 0x80000000)
    (fits : override.Fits old.descriptor.name replacement) :
    (overridden replacement old override).isValid ∧
      ∃ after, uninitialized.init override.arena (.patch old replacement (some override.snapshot))
        override.ledger = .ok (overridden replacement old override) after := by
  have checked : (InitRequest.patch old replacement (some override.snapshot)).check = .ok () := by
    refine InitRequest.check_patch_eq_ok_iff.mpr ⟨valid, ?_⟩
    rintro snapshot ⟨⟩
    exact ⟨fits.valid, fits.name.symm⟩
  have valid' : (old.descriptor.toDescriptorBody.override replacement override.snapshot).Valid :=
    (valid_of_isValid valid).override (Snapshot.isValid_iff.mp fits.valid)
  exact ⟨Bool.and_eq_true_iff.mpr ⟨rfl, DescriptorBody.isValid_iff.mpr valid'⟩,
    init_patch checked small fits.room⟩

theorem overrideAll_eq_ok (valid : old.isValid)
    (small : (old.descriptor.toDescriptorBody.replaceParts replacement).recordSize < 0x80000000)
    (fits : ∀ override ∈ overrides, override.Fits old.descriptor.name replacement) :
    (overrides.foldl (overridden replacement) old).isValid ∧
      overrideAll replacement old overrides = .ok (overrides.foldl (overridden replacement) old) := by
  induction overrides generalizing old with
  | nil => exact ⟨valid, rfl⟩
  | cons override overrides ih =>
    obtain ⟨first, later⟩ := List.forall_mem_cons.mp fits
    obtain ⟨valid', after, done⟩ := init_override valid small first
    -- All lists are in the replaced parts, so every record of the chain has the same size.
    have small' : ((overridden replacement old override).descriptor.toDescriptorBody.replaceParts
        replacement).recordSize < 0x80000000 := by
      rw [DescriptorBody.recordSize_replaceParts replacement _ old.descriptor.toDescriptorBody]
      exact small
    obtain ⟨valid', rest⟩ := ih valid' small' later
    refine ⟨valid', ?_⟩
    rw [overrideAll, done]
    exact rest

theorem body_foldl_overridden :
    (overrides.foldl (overridden replacement) old).descriptor.toDescriptorBody =
      old.descriptor.toDescriptorBody.overrideAll replacement (overrides.map (·.snapshot)) := by
  induction overrides generalizing old with
  | nil => rfl
  | cons override overrides ih => exact ih

theorem overridden_same {other : Tablet} {again : Override}
    (bodies : old.descriptor.toDescriptorBody.override replacement override.snapshot =
      other.descriptor.toDescriptorBody.override replacement again.snapshot) :
    (overridden replacement old override).same (overridden replacement other again) := by
  unfold overridden
  rw [same_initialized_iff, bodies]

theorem foldl_overridden_same {other : Tablet} (same : old.same other) :
    (overrides.foldl (overridden replacement) old).same
      (overrides.foldl (overridden replacement) other) := by
  induction overrides generalizing old other with
  | nil => exact same
  | cons override overrides ih =>
    refine ih (overridden_same ?_)
    simp only [Tablet.same, Bool.and_eq_true, decide_eq_true_eq] at same
    rw [same.1]

theorem overridden_twice {again : Override} (valid : old.isValid) (valid' : override.snapshot.isValid)
    (repeated : again.snapshot = override.snapshot) :
    (overridden replacement (overridden replacement old override) again).same
      (overridden replacement old override) := by
  refine overridden_same ?_
  rw [repeated]
  exact DescriptorBody.override_override (valid_of_isValid valid) (Snapshot.isValid_iff.mp valid')

theorem joins_foldl_overridden (valid : old.isValid)
    (fits : ∀ override ∈ overrides, override.Fits old.descriptor.name replacement) :
    old.descriptor.Joins (overrides.map (·.snapshot))
      (overrides.foldl (overridden replacement) old).descriptor.toDescriptorBody := by
  rw [body_foldl_overridden]
  refine DescriptorBody.joins_overrideAll replacement (valid_of_isValid valid) ?_
  intro snapshot among
  obtain ⟨override, inside, rfl⟩ := List.mem_map.mp among
  exact Snapshot.isValid_iff.mp (fits override inside).valid

theorem foldl_overridden_twice {earlier later : List Override} {first again : Override}
    (middle : (earlier.foldl (overridden replacement) old).isValid) (valid' : first.snapshot.isValid)
    (repeated : again.snapshot = first.snapshot) :
    ((earlier ++ first :: again :: later).foldl (overridden replacement) old).same
      ((earlier ++ first :: later).foldl (overridden replacement) old) := by
  rw [List.foldl_append, List.foldl_append, List.foldl_cons, List.foldl_cons, List.foldl_cons]
  exact foldl_overridden_same (overridden_twice middle valid' repeated)

theorem overridden_of_covers (valid : old.isValid) (covers : old.descriptor.Covers override.snapshot) :
    overridden replacement old override = initialized (Descriptor.framed Descriptor.currentVersion
      (InitRequest.patch old replacement none).body) override.arena := by
  have order := ((valid_of_isValid valid).replaceParts replacement).order
  exact congrArg
    (fun body => initialized (Descriptor.framed Descriptor.currentVersion body) override.arena)
    ((covers.replaceParts replacement).bringForward_eq order)

theorem same_replaceParts_parts (reachable : Session.Object.Reachable (.tablet old))
    (valid : old.isValid) (arena : ArenaId) :
    (initialized (Descriptor.framed Descriptor.currentVersion
      (InitRequest.patch old old.descriptor.parts none).body) arena).same old := by
  cases old with
  | uninitialized => cases valid
  | initialized descriptor payer =>
    have sound : descriptor.Sound := sound_of_reachable reachable
    rw [same_initialized_iff, ← sound.version]
    exact sound.framed_eq

/-- Overriding merges like a join. A reachable valid tablet, with fixed parts to replace its own, is
overridden by any valid snapshots of it one after another, given room at each step. The latest and
the oldest snapshot, the checkpoints and the version of the schema end as the greatest values there
were, whatever the order of the snapshots and however often one comes; the start and the snapshot of
the schema changes end as the last ones there were. A snapshot that comes twice in a row comes once,
and a snapshot that has nothing newer changes nothing. -/
theorem overriding_joins {old : Tablet} (reachable : Session.Object.Reachable (.tablet old))
    (valid : old.isValid) {replacement : Replacement}
    (small : (old.descriptor.toDescriptorBody.replaceParts replacement).recordSize < 0x80000000) :
    (∀ overrides : List Override,
      (∀ override ∈ overrides, override.Fits old.descriptor.name replacement) →
        ∃ new, overrideAll replacement old overrides = .ok new ∧ new.isValid ∧
          old.descriptor.Joins (overrides.map (·.snapshot)) new.descriptor.toDescriptorBody) ∧
    (∀ overrides others : List Override,
      (∀ override ∈ overrides ++ others, override.Fits old.descriptor.name replacement) →
      (∀ snapshot, snapshot ∈ overrides.map (·.snapshot) ↔ snapshot ∈ others.map (·.snapshot)) →
        ∃ new new', overrideAll replacement old overrides = .ok new ∧
          overrideAll replacement old others = .ok new' ∧
          new.descriptor.SameNewest new'.descriptor.toDescriptorBody) ∧
    (∀ (earlier later : List Override) (first again : Override),
      (∀ override ∈ earlier ++ first :: again :: later,
        override.Fits old.descriptor.name replacement) →
      again.snapshot = first.snapshot →
        ∃ once twice, overrideAll replacement old (earlier ++ first :: later) = .ok once ∧
          overrideAll replacement old (earlier ++ first :: again :: later) = .ok twice ∧
          twice.same once) ∧
    (∀ override : Override, override.Fits old.descriptor.name replacement →
      old.descriptor.Covers override.snapshot →
        ∃ new after, overrideAll replacement old [override] = .ok new ∧
          uninitialized.init override.arena (.patch old replacement none) override.ledger =
            .ok new after ∧
          (replacement = old.descriptor.parts → new.same old)) := by
  refine ⟨?_, ?_, ?_, ?_⟩
  · intro overrides fits
    obtain ⟨valid', done⟩ := overrideAll_eq_ok valid small fits
    exact ⟨_, done, valid', joins_foldl_overridden valid fits⟩
  · intro overrides others fits same
    obtain ⟨fits, fits'⟩ := List.forall_mem_append.mp fits
    exact ⟨_, _, (overrideAll_eq_ok valid small fits).2, (overrideAll_eq_ok valid small fits').2,
      (joins_foldl_overridden valid fits).sameNewest (joins_foldl_overridden valid fits') same⟩
  · intro earlier later first again fits repeated
    obtain ⟨before, following⟩ := List.forall_mem_append.mp fits
    obtain ⟨own, following⟩ := List.forall_mem_cons.mp following
    obtain ⟨-, after⟩ := List.forall_mem_cons.mp following
    have fits' : ∀ override ∈ earlier ++ first :: later,
        override.Fits old.descriptor.name replacement :=
      List.forall_mem_append.mpr ⟨before, List.forall_mem_cons.mpr ⟨own, after⟩⟩
    obtain ⟨middle, -⟩ := overrideAll_eq_ok valid small before
    exact ⟨_, _, (overrideAll_eq_ok valid small fits').2, (overrideAll_eq_ok valid small fits).2,
      foldl_overridden_twice middle own.valid repeated⟩
  · intro override fits covers
    have checked : (InitRequest.patch old replacement none).check = .ok () :=
      InitRequest.check_patch_eq_ok_iff.mpr ⟨valid, by simp⟩
    obtain ⟨after, done⟩ := init_patch checked small fits.room
    obtain ⟨-, overrides⟩ := overrideAll_eq_ok valid small (List.forall_mem_singleton.mpr fits)
    rw [List.foldl_cons, List.foldl_nil, overridden_of_covers valid covers] at overrides
    refine ⟨_, after, overrides, done, ?_⟩
    rintro rfl
    exact same_replaceParts_parts reachable valid override.arena

def resending : Override where
  snapshot := TransferParameter.sentSuccessor.snapshot
  arena := ⟨1⟩
  ledger := unusedLedger 24

def advancing : Override where
  snapshot := outline
  arena := ⟨1⟩
  ledger := unusedLedger 24

theorem overriding_joins_successor :
    Session.Object.Reachable (.tablet successor) ∧
      ∃ parts new new', parts = successor.descriptor.parts ∧
        overrideAll parts successor [resending, advancing] = .ok new ∧
        overrideAll parts successor [advancing, resending, advancing] = .ok new' ∧
        successor.descriptor.Joins [resending.snapshot, advancing.snapshot]
          new.descriptor.toDescriptorBody ∧
        new.descriptor.SameNewest new'.descriptor.toDescriptorBody ∧
        (∃ once twice, overrideAll parts successor [advancing, resending] = .ok once ∧
          overrideAll parts successor [advancing, resending, resending] = .ok twice ∧
          twice.same once) ∧
        ∃ kept, overrideAll parts successor [resending] = .ok kept ∧ kept.same successor := by
  have room : 0 + 16 * 1 + 8 * 1 ≤ 24 := by decide
  have resends : resending.Fits successor.descriptor.name successor.descriptor.parts :=
    ⟨by decide, rfl, room⟩
  have advances : advancing.Fits successor.descriptor.name successor.descriptor.parts :=
    ⟨by decide, rfl, room⟩
  have covers : successor.descriptor.Covers resending.snapshot := by
    refine ⟨by decide, by decide, by decide, ?_, by decide, ?_, ?_⟩ <;>
    · rintro value ⟨⟩
      decide
  obtain ⟨joins, agrees, repeats, keeps⟩ :=
    @overriding_joins successor reachable_successor rfl successor.descriptor.parts (by decide)
  obtain ⟨new, done, -, join⟩ := joins [resending, advancing] (by simp [resends, advances])
  obtain ⟨_, new', again, done', same⟩ := agrees [resending, advancing]
    [advancing, resending, advancing] (by simp [resends, advances]) (by simp [or_comm])
  cases done.symm.trans again
  obtain ⟨kept, after, overrides, -, unchanged⟩ := keeps resending resends covers
  exact ⟨reachable_successor, _, new, new', rfl, done, done', join, same,
    repeats [advancing] [] resending resending (by simp [resends, advances]) rfl,
    kept, overrides, unchanged rfl⟩

end Tablet

end TabletRecords
