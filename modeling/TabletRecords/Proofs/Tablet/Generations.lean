import Mathlib.Order.Bounds.Defs
import TabletRecords.Proofs.Tablet.RoundTrip

/-!
Generations. One tablet follows another as a later generation, with replaced parts, or by being
written and read again. Along every chain of such steps the names and the times of a tablet stay,
its snapshots and checkpoints do not go back, and without snapshots of other nodes each watermark is
the newest of those that were ever given.
-/
namespace TabletRecords

open Arena (ArenaId Ledger)

section Order

variable {α : Type} [LE α] [DecidableLE α] [Max α] [Std.IsLinearOrder α]

theorem lawfulOrderMax_of_max_eq (max_eq : ∀ a b : α, max a b = if a ≤ b then b else a) :
    Std.LawfulOrderMax α := by
  apply Std.LawfulOrderMax.of_max_le_iff
  · intro a b c
    rw [max_eq]
    split
    · next le => exact ⟨fun h => ⟨Std.le_trans le h, h⟩, fun h => h.2⟩
    · next nle =>
      exact ⟨fun h => ⟨h, Std.le_trans (Std.le_of_not_ge nle) h⟩, fun h => h.1⟩
  · intro a b
    rw [max_eq]
    split
    · exact .inr rfl
    · exact .inl rfl

end Order

instance lawfulOrderMax_int64 : Std.LawfulOrderMax Int64 := lawfulOrderMax_of_max_eq fun _ _ => rfl

instance : Std.IsLinearOrder Scn where
  le_refl a := Std.le_refl a.value
  le_trans a b c := Std.le_trans (a := a.value) (b := b.value) (c := c.value)
  le_total a b := Std.le_total (a := a.value) (b := b.value)
  le_antisymm a b hab hba := congrArg Scn.mk (Std.le_antisymm (a := a.value) (b := b.value) hab hba)

instance : Std.LawfulOrderMax Scn := lawfulOrderMax_of_max_eq fun _ _ => rfl

theorem le_newer {α : Type} [LE α] [Max α] [Std.IsLinearOrder α] [Std.LawfulOrderMax α] (old : α)
    (new? : Option α) : old ≤ newer old new? := by
  cases new? with
  | none => exact Std.le_refl old
  | some new => exact Std.left_le_max

namespace DescriptorBody

/-- What one body leaves to another: the names, the times and the marks stay, and the snapshots, the
checkpoints and the version of the schema do not go back. -/
structure Follows (old new : DescriptorBody) : Prop where
  logStreamId : new.logStreamId = old.logStreamId
  tabletId : new.tabletId = old.tabletId
  dataTabletId : new.dataTabletId = old.dataTabletId
  refTabletId : new.refTabletId = old.refTabletId
  hasNextTablet : new.hasNextTablet = old.hasNextTablet
  createScn : new.createScn = old.createScn
  startScn : new.startScn = old.startScn
  compatMode : new.compatMode = old.compatMode
  readiness : new.readiness = old.readiness
  reportStatus : new.reportStatus = old.reportStatus
  storeFlag : new.storeFlag = old.storeFlag
  snapshotVersion : old.snapshotVersion ≤ new.snapshotVersion
  multiVersionStart : old.multiVersionStart ≤ new.multiVersionStart
  clogCheckpoint : old.clogCheckpoint ≤ new.clogCheckpoint
  ddlCheckpoint : old.ddlCheckpoint ≤ new.ddlCheckpoint
  syncedSchemaVersion : old.syncedSchemaVersion ≤ new.syncedSchemaVersion

/-- The start of the schema change log and the snapshot of the changes do not go back. -/
structure FollowsChanges (old new : DescriptorBody) : Prop where
  ddlStartLog : old.ddlStartLog ≤ new.ddlStartLog
  ddlSnapshotVersion : old.ddlSnapshotVersion ≤ new.ddlSnapshotVersion

theorem Follows.refl (body : DescriptorBody) : body.Follows body :=
  ⟨rfl, rfl, rfl, rfl, rfl, rfl, rfl, rfl, rfl, rfl, rfl,
    Std.le_refl _, Std.le_refl _, Std.le_refl _, Std.le_refl _, Std.le_refl _⟩

theorem Follows.trans {a b c : DescriptorBody} (first : a.Follows b) (second : b.Follows c) :
    a.Follows c where
  logStreamId := second.logStreamId.trans first.logStreamId
  tabletId := second.tabletId.trans first.tabletId
  dataTabletId := second.dataTabletId.trans first.dataTabletId
  refTabletId := second.refTabletId.trans first.refTabletId
  hasNextTablet := second.hasNextTablet.trans first.hasNextTablet
  createScn := second.createScn.trans first.createScn
  startScn := second.startScn.trans first.startScn
  compatMode := second.compatMode.trans first.compatMode
  readiness := second.readiness.trans first.readiness
  reportStatus := second.reportStatus.trans first.reportStatus
  storeFlag := second.storeFlag.trans first.storeFlag
  snapshotVersion := Std.le_trans first.snapshotVersion second.snapshotVersion
  multiVersionStart := Std.le_trans first.multiVersionStart second.multiVersionStart
  clogCheckpoint := Std.le_trans first.clogCheckpoint second.clogCheckpoint
  ddlCheckpoint := Std.le_trans first.ddlCheckpoint second.ddlCheckpoint
  syncedSchemaVersion := Std.le_trans first.syncedSchemaVersion second.syncedSchemaVersion

theorem FollowsChanges.trans {a b c : DescriptorBody} (first : a.FollowsChanges b)
    (second : b.FollowsChanges c) : a.FollowsChanges c :=
  ⟨Std.le_trans first.ddlStartLog second.ddlStartLog,
    Std.le_trans first.ddlSnapshotVersion second.ddlSnapshotVersion⟩

variable {body : DescriptorBody}

theorem follows_succeed {generation : Generation}
    (snapshotVersion : body.snapshotVersion ≤ generation.snapshotVersion)
    (multiVersionStart : body.multiVersionStart ≤ generation.multiVersionStart) :
    body.Follows (body.succeed generation) :=
  { Follows.refl body with
    snapshotVersion, multiVersionStart
    clogCheckpoint := le_newer _ _
    ddlCheckpoint := le_newer _ _
    syncedSchemaVersion := Std.left_le_max }

theorem follows_replaceParts (body : DescriptorBody) (replacement : Replacement) :
    body.Follows (body.replaceParts replacement) :=
  { Follows.refl body with }

/-- A snapshot brings a body forward as long as the body's own snapshots are in order. Otherwise the
oldest one would be held back to the latest. -/
theorem follows_bringForward (order : body.multiVersionStart ≤ body.snapshotVersion)
    (snapshot : Snapshot) : body.Follows (body.bringForward snapshot) :=
  { Follows.refl body with
    snapshotVersion := Std.left_le_max
    multiVersionStart :=
      Std.le_min_iff.mpr ⟨Std.left_le_max, Std.le_trans order Std.left_le_max⟩
    clogCheckpoint := Std.left_le_max
    ddlCheckpoint := le_newer _ _
    syncedSchemaVersion := Std.left_le_max }

end DescriptorBody

namespace Tablet

/-- The ways from one tablet to the next. -/
inductive Handover where
  | succeed (generation : Generation)
  | patch (replacement : Replacement) (snapshot? : Option Snapshot)
  | reload

namespace Handover

def body (old : DescriptorBody) : Handover → DescriptorBody
  | succeed generation => old.succeed generation
  | patch replacement none => old.replaceParts replacement
  | patch replacement (some snapshot) => (old.replaceParts replacement).bringForward snapshot
  | reload => old

/-- Where the snapshots of a body may be handed over. -/
def Permits (old : DescriptorBody) : Handover → Prop
  | succeed generation =>
      old.snapshotVersion ≤ generation.snapshotVersion ∧
        old.multiVersionStart ≤ generation.multiVersionStart
  | _ => True

def bringsSnapshot : Handover → Bool
  | patch _ (some _) => true
  | _ => false

def supplied? {α : Type} (watermark? : Generation → Option α) : Handover → Option α
  | succeed generation => watermark? generation
  | _ => none

/-- One tablet is followed by another. The sequences of a new tablet name no column twice, as those
that can be made do. -/
inductive Leads (old new : Tablet) : Handover → Prop
  | succeed {generation : Generation} {arena : ArenaId} {before after : Ledger}
      (distinct : generation.autoincrement.isValid)
      (done : uninitialized.init arena (.succeed old generation) before = .ok new after) :
      Leads old new (.succeed generation)
  | patch {replacement : Replacement} {snapshot? : Option Snapshot} {arena : ArenaId}
      {before after : Ledger} (distinct : replacement.autoincrement.isValid)
      (done : uninitialized.init arena (.patch old replacement snapshot?) before = .ok new after) :
      Leads old new (.patch replacement snapshot?)
  | reload {settings settings' : Settings} {arena : ArenaId} {buffer buffer' : List UInt8}
      {position position' stop : Nat} {before after : Ledger}
      (written : old.write settings buffer position = .ok (buffer', position'))
      (taken : uninitialized.read settings' arena buffer' position before = .ok (new, stop) after) :
      Leads old new .reload

end Handover

theorem eq_of_read_of_write {descriptor : Descriptor} {payer arena : ArenaId} {result : Tablet}
    {settings settings' : Settings} {buffer buffer' : List UInt8} {position position' stop : Nat}
    {before after : Ledger} (sound : descriptor.Sound)
    (written : (initialized descriptor payer).write settings buffer position =
      .ok (buffer', position'))
    (taken : uninitialized.read settings' arena buffer' position before = .ok (result, stop) after) :
    result = initialized descriptor arena := by
  obtain ⟨⟨limit, room⟩, rfl, -⟩ := (write_initialized_eq_ok_iff sound).mp written
  obtain ⟨-, header, body, account, stands, ⟨legal, -⟩, rfl, -⟩ := read_eq_ok_iff.mp taken
  have within : position ≤ buffer.length := Nat.le_trans (Nat.le_add_right _ _) room
  have stands' : Wire.Record.Stands DescriptorBody.format Descriptor.currentVersion
      settings.recordLimit descriptor.toHeader descriptor.toDescriptorBody
      (Wire.Record.splice buffer position descriptor.recordBytes) position := by
    apply sound.stands limit _ (Wire.Record.prefix_drop_splice within)
    rw [Wire.Record.splice_eq, List.length_append, List.length_take_of_le within]
    exact Nat.le_add_right _ _
  obtain ⟨rfl, rfl⟩ :=
    stands.unique DescriptorBody.format_lawful stands' legal sound.legal
  rfl

theorem Handover.Leads.inversion {way : Handover} {old new : Tablet} (leads : way.Leads old new)
    (sound : old.Sound) :
    (old.isValid ∧ way.Permits old.descriptor.toDescriptorBody) ∧
      (new.isInitialized ∧ new.Sound) ∧
      new.descriptor.toDescriptorBody = way.body old.descriptor.toDescriptorBody := by
  cases leads with
  | succeed distinct done =>
    have sound' := sound_of_init done distinct
    obtain ⟨⟨-, checked, -⟩, rfl, -⟩ := init_eq_ok_iff.mp done
    obtain ⟨valid, -, forward⟩ := InitRequest.check_succeed_eq_ok_iff.mp checked
    exact ⟨⟨valid, forward⟩, ⟨rfl, sound'⟩, rfl⟩
  | @patch replacement snapshot? _ _ _ distinct done =>
    have kept : (InitRequest.patch old replacement snapshot?).body.autoincrement.isValid := by
      cases snapshot? <;> exact distinct
    have sound' := sound_of_init done kept
    obtain ⟨⟨-, checked, -⟩, rfl, -⟩ := init_eq_ok_iff.mp done
    have valid := (InitRequest.check_patch_eq_ok_iff.mp checked).1
    refine ⟨⟨valid, trivial⟩, ⟨rfl, sound'⟩, ?_⟩
    cases snapshot? <;> rfl
  | reload written taken =>
    have valid := (write_eq_ok_iff.mp written).1
    cases old with
    | uninitialized => cases valid
    | initialized descriptor payer =>
      have sound : descriptor.Sound := sound
      obtain rfl := eq_of_read_of_write sound written taken
      exact ⟨⟨valid, trivial⟩, ⟨rfl, sound⟩, rfl⟩

namespace Handover

variable {way : Handover} {old new : Tablet}

theorem follows_body {body : DescriptorBody} (permitted : way.Permits body)
    (order : body.multiVersionStart ≤ body.snapshotVersion) : body.Follows (way.body body) := by
  cases way with
  | succeed generation => exact DescriptorBody.follows_succeed permitted.1 permitted.2
  | patch replacement snapshot? =>
    have replaced := body.follows_replaceParts replacement
    cases snapshot? with
    | none => exact replaced
    | some snapshot =>
      have order : (body.replaceParts replacement).multiVersionStart ≤
          (body.replaceParts replacement).snapshotVersion := order
      exact replaced.trans (DescriptorBody.follows_bringForward order snapshot)
  | reload => exact .refl body

theorem Leads.follows (leads : way.Leads old new) (sound : old.Sound) :
    old.descriptor.toDescriptorBody.Follows new.descriptor.toDescriptorBody := by
  obtain ⟨⟨valid, permitted⟩, -, body⟩ := leads.inversion sound
  rw [body]
  exact follows_body permitted (valid_of_isValid valid).order

/-- A watermark that a later generation takes where it is newer, and that replaced parts leave
alone. -/
structure Watermark {α : Type} [Max α] (value : DescriptorBody → α)
    (watermark? : Generation → Option α) : Prop where
  succeed (old : DescriptorBody) (generation : Generation) :
    value (old.succeed generation) = newer (value old) (watermark? generation)
  replaceParts (old : DescriptorBody) (replacement : Replacement) :
    value (old.replaceParts replacement) = value old

section Watermark

variable {α : Type} [Max α] {value : DescriptorBody → α} {watermark? : Generation → Option α}

theorem Watermark.body (watermark : Watermark value watermark?) (alone : way.bringsSnapshot = false)
    (old : DescriptorBody) :
    value (way.body old) = newer (value old) (way.supplied? watermark?) := by
  cases way with
  | succeed generation => exact watermark.succeed old generation
  | patch replacement snapshot? =>
    cases snapshot? with
    | none => exact watermark.replaceParts old replacement
    | some snapshot => cases alone
  | reload => rfl

end Watermark

theorem watermark_clogCheckpoint :
    Watermark DescriptorBody.clogCheckpoint Generation.clogCheckpoint? :=
  ⟨fun _ _ => rfl, fun _ _ => rfl⟩

theorem watermark_ddlCheckpoint :
    Watermark DescriptorBody.ddlCheckpoint Generation.ddlCheckpoint? :=
  ⟨fun _ _ => rfl, fun _ _ => rfl⟩

theorem watermark_ddlStartLog : Watermark DescriptorBody.ddlStartLog Generation.ddlStartLog? :=
  ⟨fun _ _ => rfl, fun _ _ => rfl⟩

theorem watermark_ddlSnapshotVersion :
    Watermark DescriptorBody.ddlSnapshotVersion Generation.ddlSnapshotVersion? :=
  ⟨fun _ _ => rfl, fun _ _ => rfl⟩

theorem Leads.followsChanges (leads : way.Leads old new) (sound : old.Sound)
    (alone : way.bringsSnapshot = false) :
    old.descriptor.toDescriptorBody.FollowsChanges new.descriptor.toDescriptorBody := by
  obtain ⟨-, -, body⟩ := leads.inversion sound
  rw [body]
  constructor
  · rw [watermark_ddlStartLog.body alone]
    exact le_newer _ _
  · rw [watermark_ddlSnapshotVersion.body alone]
    exact le_newer _ _

end Handover

def unusedLedger (limit : Nat) : Ledger := ⟨fun _ => { label := "", limit }, 0⟩

theorem room_unusedLedger (arena : ArenaId) (size : Nat) :
    (unusedLedger size).used arena + size ≤ ((unusedLedger size).account arena).limit :=
  Nat.le_of_eq (Nat.zero_add size)

theorem Handover.leads_succeed {old : Tablet} {generation : Generation} (arena : ArenaId)
    (checked : (InitRequest.succeed old generation).check = .ok ())
    (valid : (old.descriptor.toDescriptorBody.succeed generation).isValid)
    (small : (old.descriptor.toDescriptorBody.succeed generation).recordSize < 0x80000000)
    (distinct : generation.autoincrement.isValid) :
    Handover.Leads old (initialized (Descriptor.framed Descriptor.currentVersion
      (old.descriptor.toDescriptorBody.succeed generation)) arena) (.succeed generation) := by
  have fits := Arena.Account.chargeAll_of_room (room_unusedLedger arena
    (DescriptorBody.format.footprint (old.descriptor.toDescriptorBody.succeed generation)))
  exact .succeed distinct
    (init_eq_ok_iff.mpr ⟨⟨rfl, checked, valid, small⟩, rfl, _, fits, rfl⟩)

theorem Handover.leads_reload {descriptor : Descriptor} (payer arena : ArenaId)
    (sound : descriptor.Sound) :
    Handover.Leads (initialized descriptor payer) (initialized descriptor arena) .reload := by
  have written : (initialized descriptor payer).write { recordLimit := descriptor.recordSize }
      (List.replicate descriptor.recordSize 0) 0 =
        .ok (Wire.Record.splice (List.replicate descriptor.recordSize 0) 0 descriptor.recordBytes,
          0 + descriptor.recordSize) := by
    refine (write_initialized_eq_ok_iff sound).mpr ⟨⟨Nat.le_refl _, ?_⟩, rfl, rfl⟩
    rw [List.length_replicate]
    exact Nat.le_of_eq (Nat.zero_add _)
  have limit : descriptor.recordSize ≤
      ({ recordLimit := descriptor.recordSize } : Settings).recordLimit := Nat.le_refl _
  obtain ⟨after, taken⟩ := read_recordBytes sound limit (Nat.zero_le _)
    (Wire.Record.prefix_drop_splice (Nat.zero_le _)) (room_unusedLedger arena _)
  exact .reload written taken

/-- Tablets that follow one another, each with the way it was made from the last one. -/
inductive Chain : Tablet → List (Handover × Tablet) → Prop
  | nil (first : Tablet) : Chain first []
  | cons {first next : Tablet} {way : Handover} {links : List (Handover × Tablet)}
      (leads : way.Leads first next) (rest : Chain next links) : Chain first ((way, next) :: links)

namespace Chain

def tablets (first : Tablet) (links : List (Handover × Tablet)) : List Tablet :=
  first :: links.map Prod.snd

def last (first : Tablet) (links : List (Handover × Tablet)) : Tablet :=
  (links.map Prod.snd).getLastD first

def Alone (links : List (Handover × Tablet)) : Prop :=
  ∀ link ∈ links, link.1.bringsSnapshot = false

def supplied {α : Type} (watermark? : Generation → Option α) (links : List (Handover × Tablet)) :
    List α :=
  links.filterMap fun link => link.1.supplied? watermark?

variable {first : Tablet} {links : List (Handover × Tablet)}

theorem pairwise {related : DescriptorBody → DescriptorBody → Prop} (admits : Handover → Prop)
    (trans : ∀ {a b c}, related a b → related b c → related a c)
    (step : ∀ {way old new}, way.Leads old new → old.Sound → admits way →
      related old.descriptor.toDescriptorBody new.descriptor.toDescriptorBody)
    (chain : Chain first links) (sound : first.Sound) (admitted : ∀ link ∈ links, admits link.1) :
    (tablets first links).Pairwise fun old new =>
      related old.descriptor.toDescriptorBody new.descriptor.toDescriptorBody := by
  -- That tablets stay sound carries the induction: only a sound one is reloaded as what it was.
  induction chain with
  | nil first => exact List.pairwise_singleton _ _
  | @cons first next way links leads rest ih =>
    have start := step leads sound (admitted _ List.mem_cons_self)
    obtain ⟨-, ⟨-, sound'⟩, -⟩ := leads.inversion sound
    have later := ih sound' fun link among => admitted link (List.mem_cons_of_mem _ among)
    refine List.pairwise_cons.mpr ⟨?_, later⟩
    intro tablet among
    rcases List.mem_cons.mp among with rfl | among
    · exact start
    · exact trans start ((List.pairwise_cons.mp later).1 tablet among)

theorem isInitialized (chain : Chain first links) (sound : first.Sound) (ready : first.isInitialized) :
    ∀ tablet ∈ tablets first links, tablet.isInitialized := by
  induction chain with
  | nil first => exact List.forall_mem_singleton.mpr ready
  | @cons first next way links leads rest ih =>
    obtain ⟨-, ⟨ready', sound'⟩, -⟩ := leads.inversion sound
    exact List.forall_mem_cons.mpr ⟨ready, ih sound' ready'⟩

theorem max?_supplied {α : Type} [Max α] {value : DescriptorBody → α}
    {watermark? : Generation → Option α} (watermark : Handover.Watermark value watermark?)
    (chain : Chain first links) (sound : first.Sound) (alone : Alone links) :
    (value first.descriptor.toDescriptorBody :: supplied watermark? links).max? =
      some (value (last first links).descriptor.toDescriptorBody) := by
  induction chain with
  | nil first => rfl
  | @cons first next way links leads rest ih =>
    obtain ⟨-, ⟨-, sound'⟩, body⟩ := leads.inversion sound
    have step := watermark.body (alone _ List.mem_cons_self) first.descriptor.toDescriptorBody
    rw [← body] at step
    have later := ih sound' fun link among => alone link (List.mem_cons_of_mem _ among)
    have ends : last first ((way, next) :: links) = last next links := by
      rw [last, List.map_cons, List.getLastD_cons]
      rfl
    -- Both maxima are folds from the first value, into which the handover has taken what it supplies.
    rw [ends, ← later, step, List.max?_cons', List.max?_cons', supplied, List.filterMap_cons]
    cases way.supplied? watermark? <;> rfl

theorem isGreatest_supplied {α : Type} [LE α] [Max α] [Std.IsLinearOrder α] [Std.LawfulOrderMax α]
    {value : DescriptorBody → α} {watermark? : Generation → Option α}
    (watermark : Handover.Watermark value watermark?) (chain : Chain first links)
    (sound : first.Sound) (alone : Alone links) :
    IsGreatest
      {given | given ∈ value first.descriptor.toDescriptorBody :: supplied watermark? links}
      (value (last first links).descriptor.toDescriptorBody) := by
  obtain ⟨among, most⟩ := List.max?_eq_some_iff.mp (chain.max?_supplied watermark sound alone)
  exact ⟨among, most⟩

end Chain

/-- Generations never move backwards. Along a chain from a reachable tablet in use, all tablets are
in use, what identifies them stays, and the snapshots, the checkpoints and the version of the schema
never go back. As long as no snapshot of another node takes part, the start and the snapshot of the
schema changes do not go back either, and each watermark ends as the greatest of its first value and
the values supplied along the chain. -/
theorem follows_of_chain {first : Tablet} {links : List (Handover × Tablet)}
    (reachable : Session.Object.Reachable (.tablet first)) (ready : first.isInitialized)
    (chain : Chain first links) :
    (∀ tablet ∈ Chain.tablets first links, tablet.isInitialized) ∧
    (Chain.tablets first links).Pairwise (fun old new =>
      old.descriptor.toDescriptorBody.Follows new.descriptor.toDescriptorBody) ∧
    (Chain.Alone links →
      (Chain.tablets first links).Pairwise (fun old new =>
        old.descriptor.toDescriptorBody.FollowsChanges new.descriptor.toDescriptorBody) ∧
      IsGreatest
        {scn | scn ∈ first.descriptor.clogCheckpoint :: Chain.supplied (·.clogCheckpoint?) links}
        (Chain.last first links).descriptor.clogCheckpoint ∧
      IsGreatest
        {scn | scn ∈ first.descriptor.ddlCheckpoint :: Chain.supplied (·.ddlCheckpoint?) links}
        (Chain.last first links).descriptor.ddlCheckpoint ∧
      IsGreatest
        {scn | scn ∈ first.descriptor.ddlStartLog :: Chain.supplied (·.ddlStartLog?) links}
        (Chain.last first links).descriptor.ddlStartLog ∧
      IsGreatest
        {version | version ∈ first.descriptor.ddlSnapshotVersion ::
          Chain.supplied (·.ddlSnapshotVersion?) links}
        (Chain.last first links).descriptor.ddlSnapshotVersion) := by
  have sound := sound_of_reachable reachable
  refine ⟨chain.isInitialized sound ready, ?_, ?_⟩
  · exact chain.pairwise (fun _ => True) DescriptorBody.Follows.trans
      (fun leads sound _ => leads.follows sound) sound fun _ _ => trivial
  · intro alone
    exact ⟨chain.pairwise _ DescriptorBody.FollowsChanges.trans Handover.Leads.followsChanges sound
        alone,
      chain.isGreatest_supplied Handover.watermark_clogCheckpoint sound alone,
      chain.isGreatest_supplied Handover.watermark_ddlCheckpoint sound alone,
      chain.isGreatest_supplied Handover.watermark_ddlStartLog sound alone,
      chain.isGreatest_supplied Handover.watermark_ddlSnapshotVersion sound alone⟩

def ahead : Generation where
  snapshotVersion := 7
  multiVersionStart := 5
  transaction := {}
  binding := {}
  autoincrement := {}
  syncedSchemaVersion := 2
  clogCheckpoint? := some ⟨9⟩

def behind : Generation :=
  { ahead with syncedSchemaVersion := 1, clogCheckpoint? := some ⟨3⟩ }

def advanced : Tablet :=
  initialized (Descriptor.framed Descriptor.currentVersion
    (successor.descriptor.toDescriptorBody.succeed ahead)) ⟨0⟩

def delayed : Tablet :=
  initialized (Descriptor.framed Descriptor.currentVersion
    (advanced.descriptor.toDescriptorBody.succeed behind)) ⟨0⟩

/-- A chain from `successor` by `ahead`, a reload and `behind`. -/
def relay : List (Handover × Tablet) :=
  [(.succeed ahead, advanced), (.reload, advanced), (.succeed behind, delayed)]

theorem follows_of_chain_relay :
    Session.Object.Reachable (.tablet successor) ∧ Chain successor relay ∧ Chain.Alone relay ∧
      (Chain.tablets successor relay).Pairwise (fun old new =>
        old.descriptor.toDescriptorBody.Follows new.descriptor.toDescriptorBody) ∧
      IsGreatest {scn | scn ∈ [⟨1⟩, ⟨9⟩, ⟨3⟩]} delayed.descriptor.clogCheckpoint := by
  have first : Handover.Leads successor advanced (.succeed ahead) :=
    Handover.leads_succeed ⟨0⟩ (InitRequest.check_succeed_eq_ok_iff.mpr (by decide)) (by decide)
      (by decide) rfl
  have last : Handover.Leads advanced delayed (.succeed behind) :=
    Handover.leads_succeed ⟨0⟩ (InitRequest.check_succeed_eq_ok_iff.mpr (by decide)) (by decide)
      (by decide) rfl
  obtain ⟨-, ⟨-, sound⟩, -⟩ := first.inversion (sound_of_reachable reachable_successor)
  have chain : Chain successor relay :=
    .cons first (.cons (Handover.leads_reload _ _ sound) (.cons last (.nil _)))
  have alone : Chain.Alone relay := by
    intro link among
    simp only [relay, List.mem_cons, List.not_mem_nil, or_false] at among
    rcases among with rfl | rfl | rfl <;> rfl
  obtain ⟨-, follows, changes⟩ := follows_of_chain reachable_successor rfl chain
  obtain ⟨-, greatest, -⟩ := changes alone
  exact ⟨reachable_successor, chain, alone, follows, greatest⟩

end Tablet

end TabletRecords
