import TabletRecords.Proofs.Tablet.Generations

/-!
Acceptance. An uninitialized tablet accepts a request where the request passes its own check, the
body that it asks for is valid, and the arena affords this body. For a request to take over an old
tablet the check is enough: the body is valid whenever the check is passed.
-/
namespace TabletRecords

open Arena (ArenaId Ledger)
open Charging Outcome

/-- An arena has room for the lists of a body, and the record of the body is no longer than its
header can say. -/
structure Arena.Ledger.Affords (ledger : Ledger) (arena : ArenaId) (body : DescriptorBody) : Prop where
  room : ∃ account,
    (ledger.account arena).chargeAll (DescriptorBody.format.charges body) = .ok account
  recordSize_lt : body.recordSize < 0x80000000

theorem Arena.Ledger.affords_iff {ledger : Ledger} {arena : ArenaId} {body : DescriptorBody}
    (within : ledger.used arena ≤ (ledger.account arena).limit) :
    ledger.Affords arena body ↔
      ledger.used arena + 16 * body.autoincrement.intervals.length +
          8 * body.binding.hiddenTabletIds.length ≤ (ledger.account arena).limit ∧
        body.recordSize < 0x80000000 := by
  rw [Ledger.used] at within ⊢
  constructor
  · rintro ⟨⟨account, charged⟩, small⟩
    refine ⟨DescriptorBody.room_iff.mp ?_, small⟩
    obtain ⟨none | fits, -⟩ := Account.chargeAll_eq_ok_iff.mp charged
    · rw [Wire.Format.footprint, none]
      exact within
    · exact fits
  · rintro ⟨fits, small⟩
    exact ⟨⟨_, Account.chargeAll_of_room (DescriptorBody.room_iff.mpr fits)⟩, small⟩

theorem Arena.Ledger.Affords.congr {ledger : Ledger} {arena : ArenaId} {body body' : DescriptorBody}
    (affords : ledger.Affords arena body) (autoincrement : body'.autoincrement = body.autoincrement)
    (binding : body'.binding = body.binding) : ledger.Affords arena body' where
  room := by
    rw [DescriptorBody.charges_eq, autoincrement, binding, ← DescriptorBody.charges_eq]
    exact affords.room
  recordSize_lt := by
    have small := affords.recordSize_lt
    rw [DescriptorBody.recordSize, DescriptorBody.size_eq] at small ⊢
    rwa [autoincrement, binding]

/-- The faults that are no fault of a request: the arena has no room, or the header cannot say how
long the record is. -/
inductive Fault.OfResources : Fault → Prop
  | exhausted (refusal : Arena.Exhausted) : OfResources (.exhausted refusal)
  | lengthOverflow : OfResources (.malformed (.corrupt .lengthOverflow))

theorem Descriptor.ofBody_refused {version : Int32} {body : DescriptorBody} {before after : Ledger}
    {fault : Fault}
    (failed : (MonadExcept.ofExcept ((ofBody version body).mapError .malformed) :
      Charging Descriptor) before = .error fault after) : fault.OfResources := by
  rcases Nat.lt_or_ge body.recordSize 0x80000000 with small | large
  · rw [ofBody_eq_ok_iff.mpr ⟨small, rfl⟩] at failed
    cases failed
  · rw [ofBody_eq_error large] at failed
    cases failed
    exact .lengthOverflow

namespace DescriptorBody

variable {old : DescriptorBody}

theorem Valid.succeed (valid : old.Valid) {generation : Generation}
    (order : generation.multiVersionStart ≤ generation.snapshotVersion)
    (forward : old.multiVersionStart ≤ generation.multiVersionStart) :
    (old.succeed generation).Valid :=
  { valid with
    order
    multiVersionStart := Std.le_trans valid.multiVersionStart forward
    syncedSchemaVersion := Std.le_trans valid.syncedSchemaVersion Std.left_le_max
    started := valid.started.imp_right fun ⟨start, checkpoint⟩ =>
      ⟨start, Std.le_trans checkpoint (le_newer _ _)⟩ }

theorem Valid.replaceParts (valid : old.Valid) (replacement : Replacement) :
    (old.replaceParts replacement).Valid :=
  { valid with }

/-- Where both bring their snapshots in order, the oldest one need not be held back to the latest.
-/
theorem multiVersionStart_bringForward {snapshot : Snapshot}
    (order : old.multiVersionStart ≤ old.snapshotVersion)
    (order' : snapshot.multiVersionStart ≤ snapshot.snapshotVersion) :
    (old.bringForward snapshot).multiVersionStart =
      max old.multiVersionStart snapshot.multiVersionStart :=
  Std.LawfulOrderLeftLeaningMin.min_eq_left _ _ (Std.max_le_iff.mpr
    ⟨Std.le_trans order Std.left_le_max, Std.le_trans order' Std.right_le_max⟩)

theorem Valid.bringForward (valid : old.Valid) {snapshot : Snapshot} (valid' : snapshot.Valid) :
    (old.bringForward snapshot).Valid :=
  { valid with
    multiVersionStart := by
      rw [multiVersionStart_bringForward valid.order valid'.order]
      exact Std.le_trans valid.multiVersionStart Std.left_le_max
    order := Std.min_le_right
    syncedSchemaVersion := Std.le_trans valid.syncedSchemaVersion Std.left_le_max
    started := valid.started.imp_right fun ⟨start, checkpoint⟩ =>
      ⟨start, Std.le_trans checkpoint Std.left_le_max⟩ }

end DescriptorBody

namespace InitRequest

def old? : InitRequest → Option Tablet
  | succeed old _ | patch old _ _ => some old
  | create _ | receive _ => none

theorem check_ne_resulting (request : InitRequest) (descriptor : Descriptor) :
    request.check ≠ .error (.invariant (.resulting descriptor)) := by
  have required (condition : Bool) (cause : ArgumentFault) :
      require condition cause ≠ .error (.invariant (.resulting descriptor)) := by
    cases condition <;> simp [require]
  have upheld (condition : Bool) {cause : InvariantFault} (other : cause ≠ .resulting descriptor) :
      uphold condition cause ≠ .error (.invariant (.resulting descriptor)) := by
    cases condition <;> simp [uphold, other]
  cases request with
  | create tablet =>
    exact except_bind_ne_error (required _ _) fun _ => except_bind_ne_error (required _ _) fun _ =>
      required _ _
  | succeed old generation =>
    refine except_bind_ne_error (required _ _) fun _ => except_bind_ne_error (upheld _ ?_) fun _ =>
      except_bind_ne_error (upheld _ ?_) fun _ => upheld _ ?_
    all_goals simp
  | receive snapshot => exact required _ _
  | patch old replacement snapshot? =>
    cases snapshot? with
    | none => exact required _ _
    | some snapshot =>
      exact except_bind_ne_error (required _ _) fun _ => except_bind_ne_error (required _ _) fun _ =>
        required _ _

theorem isValid_body_of_check {request : InitRequest} {old : Tablet} (takes : request.old? = some old)
    (checked : request.check = .ok ()) : request.body.isValid := by
  rw [DescriptorBody.isValid_iff]
  cases request with
  | create tablet => cases takes
  | succeed old generation =>
    cases takes
    obtain ⟨valid, order, -, forward⟩ := check_succeed_eq_ok_iff.mp checked
    exact (Tablet.valid_of_isValid valid).succeed order forward
  | receive snapshot => cases takes
  | patch old replacement snapshot? =>
    cases takes
    obtain ⟨valid, brings⟩ := check_patch_eq_ok_iff.mp checked
    have replaced := (Tablet.valid_of_isValid valid).replaceParts replacement
    cases snapshot? with
    | none => exact replaced
    | some snapshot => exact replaced.bringForward (Snapshot.isValid_iff.mp (brings snapshot rfl).1)

end InitRequest

namespace Tablet

variable {request : InitRequest} {arena : ArenaId} {before after : Ledger} {fault : Fault}

theorem init_accepted_iff :
    (∃ result after, uninitialized.init arena request before = .ok result after) ↔
      (request.check = .ok () ∧ request.body.isValid) ∧ before.Affords arena request.body := by
  constructor
  · rintro ⟨result, after, done⟩
    obtain ⟨⟨-, checked, valid, small⟩, -, account, charged, -⟩ := init_eq_ok_iff.mp done
    exact ⟨⟨checked, valid⟩, ⟨account, charged⟩, small⟩
  · rintro ⟨⟨checked, valid⟩, ⟨account, charged⟩, small⟩
    exact ⟨_, _, init_eq_ok_iff.mpr ⟨⟨rfl, checked, valid, small⟩, rfl, account, charged, rfl⟩⟩

theorem init_refused (failed : uninitialized.init arena request before = .error fault after) :
    fault.OfResources ∨ request.check = .error fault ∨
      request.check = .ok () ∧ request.body.isValid = false ∧
        ∃ descriptor, fault = .invariant (.resulting descriptor) := by
  rcases error_of_holding failed with ⟨refusal, rfl⟩ | ⟨held, after', failed⟩
  · exact .inl (.exhausted refusal)
  rcases bind_eq_error_iff.mp failed with failed | ⟨descriptor, _, -, failed⟩
  · exact .inl (Descriptor.ofBody_refused failed)
  · right
    cases checked : request.check with
    | error cause =>
      rw [checked] at failed
      cases failed
      exact .inl rfl
    | ok =>
      rw [checked] at failed
      cases valid : request.body.isValid with
      | true =>
        simp only [valid] at failed
        cases failed
      | false =>
        simp only [valid] at failed
        cases failed
        exact .inr ⟨rfl, rfl, descriptor, rfl⟩

/-- What takes over an old tablet is accepted by an uninitialized tablet exactly where the old
tablet is valid, the snapshots are in order and do not go back, or the snapshot that brings the
tablet forward is a valid one of the same tablet, and where the lists have room and the record is
not too long. Past its own check such a request never fails by an invalid outcome, but only for lack
of resources; and where a snapshot brings the tablet forward, the start of its versions is never
held back to the latest snapshot. -/
theorem takeover_accepted_iff {old : Tablet}
    (within : before.used arena ≤ (before.account arena).limit) :
    (∀ generation : Generation,
      (∃ result after, uninitialized.init arena (.succeed old generation) before = .ok result after) ↔
        (old.isValid ∧ generation.multiVersionStart ≤ generation.snapshotVersion ∧
          old.descriptor.snapshotVersion ≤ generation.snapshotVersion ∧
          old.descriptor.multiVersionStart ≤ generation.multiVersionStart) ∧
        before.used arena + 16 * generation.autoincrement.intervals.length +
          8 * generation.binding.hiddenTabletIds.length ≤ (before.account arena).limit ∧
        (InitRequest.succeed old generation).body.recordSize < 0x80000000) ∧
    (∀ (replacement : Replacement) (snapshot? : Option Snapshot),
      (∃ result after,
        uninitialized.init arena (.patch old replacement snapshot?) before = .ok result after) ↔
        (old.isValid ∧ ∀ snapshot ∈ snapshot?,
          snapshot.isValid ∧ old.descriptor.name = snapshot.name) ∧
        before.used arena + 16 * replacement.autoincrement.intervals.length +
          8 * replacement.binding.hiddenTabletIds.length ≤ (before.account arena).limit ∧
        (InitRequest.patch old replacement snapshot?).body.recordSize < 0x80000000) ∧
    (∀ request : InitRequest, request.old? = some old → ∀ (fault : Fault) (after : Ledger),
      uninitialized.init arena request before = .error fault after →
        (∀ descriptor, fault ≠ .invariant (.resulting descriptor)) ∧
        (request.check = .ok () → fault.OfResources)) ∧
    (∀ (replacement : Replacement) (snapshot : Snapshot), old.isValid → snapshot.isValid →
      (InitRequest.patch old replacement (some snapshot)).body.multiVersionStart =
        max old.descriptor.multiVersionStart snapshot.multiVersionStart) := by
  -- Such a request needs its check and the resources only.
  have accepted {request : InitRequest} (takes : request.old? = some old) :
      (∃ result after, uninitialized.init arena request before = .ok result after) ↔
        request.check = .ok () ∧ before.Affords arena request.body := by
    rw [init_accepted_iff, and_iff_left_of_imp (InitRequest.isValid_body_of_check takes)]
  refine ⟨?_, ?_, ?_, ?_⟩
  · intro generation
    rw [accepted rfl, InitRequest.check_succeed_eq_ok_iff, Ledger.affords_iff within]
    rfl
  · intro replacement snapshot?
    rw [accepted rfl, InitRequest.check_patch_eq_ok_iff, Ledger.affords_iff within]
    cases snapshot? <;> rfl
  · intro request takes fault after failed
    rcases init_refused failed with scarce | unchecked | ⟨checked, invalid, -⟩
    · refine ⟨?_, fun _ => scarce⟩
      rintro descriptor rfl
      cases scarce
    · refine ⟨?_, ?_⟩
      · rintro descriptor rfl
        exact request.check_ne_resulting descriptor unchecked
      · intro checked
        rw [checked] at unchecked
        cases unchecked
    · rw [InitRequest.isValid_body_of_check takes checked] at invalid
      cases invalid
  · intro replacement snapshot valid valid'
    exact DescriptorBody.multiVersionStart_bringForward (valid_of_isValid valid).order
      (Snapshot.isValid_iff.mp valid').order

def listing : Generation :=
  { ahead with autoincrement := ⟨[⟨16, 100⟩]⟩, binding := { hiddenTabletIds := [⟨10⟩] } }

/-- Twenty-four bytes are enough for the lists of `listing`, and one less is not. -/
theorem takeover_accepted_iff_listing :
    (∃ result after,
      uninitialized.init ⟨0⟩ (.succeed successor listing) (unusedLedger 24) = .ok result after) ∧
    ¬∃ result after,
      uninitialized.init ⟨0⟩ (.succeed successor listing) (unusedLedger 23) = .ok result after := by
  have within (limit : Nat) :
      (unusedLedger limit).used ⟨0⟩ ≤ ((unusedLedger limit).account ⟨0⟩).limit := Nat.zero_le _
  have enough := (@takeover_accepted_iff ⟨0⟩ (unusedLedger 24) successor (within 24)).1 listing
  have short := (@takeover_accepted_iff ⟨0⟩ (unusedLedger 23) successor (within 23)).1 listing
  constructor
  · exact enough.mpr (by decide)
  · rw [short]
    decide

end Tablet

end TabletRecords
