import TabletRecords.Proofs.Charging
import TabletRecords.Proofs.Validity
import TabletRecords.Proofs.Wire.Bodies
import TabletRecords.Tablet.Record
import TabletRecords.Tablet.Update

/-!
Operations on tablets. Each one that writes the state of a tablet succeeds under the stated
conditions and leaves a sound descriptor: one whose header is that of its own record.
-/
namespace TabletRecords

open Arena (ArenaId Ledger)
open Charging Outcome
open Wire (Header)

theorem DescriptorBody.order_of_isValid {body : DescriptorBody} (valid : body.isValid) :
    0 ≤ body.multiVersionStart ∧ body.multiVersionStart ≤ body.snapshotVersion :=
  ⟨(isValid_iff.mp valid).multiVersionStart, (isValid_iff.mp valid).order⟩

namespace Descriptor

def framed (version : Int32) (body : DescriptorBody) : Descriptor :=
  { version, length := Int32.ofNat body.recordSize, toDescriptorBody := body }

theorem ofBody_eq_ok_iff {version : Int32} {body : DescriptorBody} {descriptor : Descriptor} :
    ofBody version body = .ok descriptor ↔
      body.recordSize < 0x80000000 ∧ descriptor = framed version body := by
  rw [ofBody, except_bind_eq_ok_iff]
  simp only [Header.ofSize_eq_ok_iff]
  constructor
  · rintro ⟨header, ⟨small, rfl⟩, h⟩
    cases h
    exact ⟨small, rfl⟩
  · rintro ⟨small, rfl⟩
    exact ⟨_, ⟨small, rfl⟩, rfl⟩

theorem ofBody_eq_error {version : Int32} {body : DescriptorBody} (large : 0x80000000 ≤ body.recordSize) :
    ofBody version body = .error (.corrupt .lengthOverflow) := by
  rw [ofBody, Header.ofSize, if_neg (Nat.not_lt.mpr large)]
  rfl

/-- A descriptor in use is valid, its header is that of its own record, and its sequence names no
column twice. -/
structure Sound (descriptor : Descriptor) : Prop where
  version : descriptor.version = currentVersion
  length : descriptor.length = Int32.ofNat descriptor.recordSize
  recordSize_lt : descriptor.recordSize < 0x80000000
  isValid : descriptor.isValid
  autoincrement : descriptor.autoincrement.isValid

theorem Sound.framed {version : Int32} {body : DescriptorBody} (known : version = currentVersion)
    (small : body.recordSize < 0x80000000) (valid : body.isValid)
    (autoincrement : body.autoincrement.isValid) : (framed version body).Sound :=
  ⟨known, rfl, small, valid, autoincrement⟩

theorem Sound.toInt_length {descriptor : Descriptor} (sound : descriptor.Sound) :
    descriptor.length.toInt = descriptor.recordSize := by
  rw [sound.length, Header.toInt_ofNat sound.recordSize_lt]

theorem Sound.legal {descriptor : Descriptor} (sound : descriptor.Sound) :
    descriptor.toDescriptorBody.Legal := by
  have small := sound.recordSize_lt
  rw [DescriptorBody.recordSize, DescriptorBody.size_eq] at small
  refine ⟨⟨sound.autoincrement, ?_⟩, ?_⟩
  · show _ < 4294967296
    omega
  · show _ < 4294967296
    omega

end Descriptor

namespace InitRequest

theorem require_eq_ok_iff {condition : Bool} {cause : ArgumentFault} {u : Unit} :
    require condition cause = .ok u ↔ condition := by
  cases condition <;> simp [require]

theorem uphold_eq_ok_iff {condition : Bool} {cause : InvariantFault} {u : Unit} :
    uphold condition cause = .ok u ↔ condition := by
  cases condition <;> simp [uphold]

theorem check_succeed_eq_ok_iff {old : Tablet} {generation : Generation} :
    (succeed old generation).check = .ok () ↔
      old.isValid ∧ generation.multiVersionStart ≤ generation.snapshotVersion ∧
        old.descriptor.snapshotVersion ≤ generation.snapshotVersion ∧
        old.descriptor.multiVersionStart ≤ generation.multiVersionStart := by
  simp [check, except_bind_eq_ok_iff, require_eq_ok_iff, uphold_eq_ok_iff]

theorem check_patch_eq_ok_iff {old : Tablet} {replacement : Replacement}
    {snapshot? : Option Snapshot} :
    (patch old replacement snapshot?).check = .ok () ↔
      old.isValid ∧ ∀ snapshot ∈ snapshot?,
        snapshot.isValid ∧ old.descriptor.name = snapshot.name := by
  cases snapshot? with
  | none => simp [check, require_eq_ok_iff]
  | some snapshot => simp [check, except_bind_eq_ok_iff, require_eq_ok_iff]

end InitRequest

namespace Tablet

def Sound : Tablet → Prop
  | uninitialized => True
  | initialized descriptor _ => descriptor.Sound

variable {tablet result : Tablet} {arena : ArenaId} {before after : Ledger}

theorem valid_of_isValid (valid : tablet.isValid) : tablet.descriptor.Valid := by
  rw [isValid, Bool.and_eq_true] at valid
  exact DescriptorBody.isValid_iff.mp valid.2

theorem Sound.autoincrement (sound : tablet.Sound) : tablet.descriptor.autoincrement.isValid := by
  cases tablet with
  | uninitialized => rfl
  | initialized descriptor arena => exact Descriptor.Sound.autoincrement sound

theorem init_eq_ok_iff {request : InitRequest} :
    tablet.init arena request before = .ok result after ↔
      (tablet = uninitialized ∧ request.check = .ok () ∧ request.body.isValid ∧
        request.body.recordSize < 0x80000000) ∧
      result = initialized (Descriptor.framed Descriptor.currentVersion request.body) arena ∧
      ∃ account, (before.account arena).chargeAll (DescriptorBody.format.charges request.body) =
          .ok account ∧ after = before.set arena account := by
  simp only [init, ite_throw_eq_ok_iff, holding_eq_ok_iff, bind_eq_ok_iff, ofExcept_eq_ok_iff,
    throw_bind, ite_else_throw_eq_ok_iff, mapError_eq_ok_iff, Descriptor.ofBody_eq_ok_iff]
  cases tablet with
  | initialized descriptor payer => simp [isInitialized]
  | uninitialized =>
    constructor
    · rintro ⟨-, account, fits, _, _, ⟨⟨small, rfl⟩, rfl⟩, _, _, ⟨checked, rfl⟩, valid, h⟩
      cases h
      exact ⟨⟨rfl, checked, valid, small⟩, rfl, account, fits, rfl⟩
    · rintro ⟨⟨-, checked, valid, small⟩, rfl, account, fits, rfl⟩
      exact ⟨Bool.false_ne_true, account, fits, _, _, ⟨⟨small, rfl⟩, rfl⟩, (), _, ⟨checked, rfl⟩,
        valid, rfl⟩

theorem sound_of_init {request : InitRequest}
    (done : tablet.init arena request before = .ok result after)
    (autoincrement : request.body.autoincrement.isValid) : result.Sound := by
  obtain ⟨⟨-, -, valid, small⟩, rfl, -⟩ := init_eq_ok_iff.mp done
  exact .framed rfl small valid autoincrement

theorem init_accounts (tablet : Tablet) (arena : ArenaId) (request : InitRequest) :
    Accounts (tablet.init arena request) (·.held.charges DescriptorBody.format)
      (tablet.held.charges DescriptorBody.format) where
  restores := by
    refine .ite (.throw _) (.holding ?_ _)
    refine .ofExcept_bind _ fun descriptor => .ofExcept_bind _ fun _ => ?_
    exact .ite (.pure _) (.throw _)
  posting := by
    intro before result after _ done
    obtain ⟨⟨rfl, -⟩, rfl, account, fits, rfl⟩ := init_eq_ok_iff.mp done
    exact .of_chargeAll fits

theorem update_eq_ok_iff {snapshot : Snapshot} :
    tablet.update snapshot before = .ok result after ↔
      ∃ old arena, tablet = initialized old arena ∧
        (snapshot.isValid ∧ old.name = snapshot.name ∧
          (old.toDescriptorBody.receive snapshot).isValid ∧
          (old.toDescriptorBody.receive snapshot).recordSize < 0x80000000) ∧
        result =
          initialized (Descriptor.framed old.version (old.toDescriptorBody.receive snapshot)) arena ∧
        ∃ account, (before.account arena).chargeAll
            (DescriptorBody.format.charges (old.toDescriptorBody.receive snapshot)) = .ok account ∧
          after = (before.set arena account).releaseAll
            (tablet.held.charges DescriptorBody.format) := by
  cases tablet with
  | uninitialized =>
    constructor
    · intro h
      cases h
    · rintro ⟨_, _, h, -⟩
      cases h
  | initialized old arena =>
    simp only [update, refuse, ite_throw_eq_ok_iff, holding_eq_ok_iff, bind_eq_ok_iff,
      ofExcept_eq_ok_iff, throw_bind, ite_else_throw_eq_ok_iff, mapError_eq_ok_iff,
      Descriptor.ofBody_eq_ok_iff]
    constructor
    · rintro ⟨valid, named, account, fits, accepted, _, _, ⟨⟨small, rfl⟩, rfl⟩, _, _, dropped, h⟩
      cases dropped
      cases h
      exact ⟨old, arena, rfl, ⟨by simpa using valid, Decidable.not_not.mp named, accepted, small⟩,
        rfl, account, fits, rfl⟩
    · rintro ⟨_, _, h, ⟨valid, named, accepted, small⟩, rfl, account, fits, rfl⟩
      cases h
      exact ⟨by simpa using valid, Decidable.not_not.mpr named, account, fits, accepted, _, _,
        ⟨⟨small, rfl⟩, rfl⟩, (), _, rfl, rfl⟩

theorem Sound.update {snapshot : Snapshot} (sound : tablet.Sound)
    (done : tablet.update snapshot before = .ok result after)
    (autoincrement : snapshot.autoincrement.isValid) : result.Sound := by
  obtain ⟨old, arena, rfl, ⟨-, -, valid, small⟩, rfl, -⟩ := update_eq_ok_iff.mp done
  exact .framed (Descriptor.Sound.version sound) small valid autoincrement

theorem update_accounts (tablet : Tablet) (snapshot : Snapshot) :
    Accounts (tablet.update snapshot) (·.held.charges DescriptorBody.format)
      (tablet.held.charges DescriptorBody.format) where
  restores := by
    cases tablet with
    | uninitialized => exact .throw _
    | initialized old arena =>
      refine .ite (.throw _) (.ite (.throw _) (.holding (.ite ?_ (.throw _)) _))
      refine .ofExcept_bind _ fun descriptor => ?_
      intro before fault after failed
      cases failed
  posting := by
    intro before result after _ done
    obtain ⟨old, arena, rfl, -, rfl, account, fits, rfl⟩ := update_eq_ok_iff.mp done
    exact (Ledger.Posting.of_chargeAll fits).releaseAll _

theorem updateCreateScn_eq_ok_iff {createScn : Scn} :
    tablet.updateCreateScn createScn = .ok result ↔
      ∃ old arena, tablet = initialized old arena ∧
        (createScn.isValid ∧ createdBeforeStart createScn old.startScn) ∧
        result = initialized { old with createScn } arena := by
  cases tablet with
  | uninitialized =>
    constructor
    · intro h
      cases h
    · rintro ⟨_, _, h, -⟩
      cases h
  | initialized old arena =>
    unfold updateCreateScn
    constructor
    · intro h
      dsimp only at h
      split at h
      · cases h
      · next valid =>
        split at h
        · cases h
        · next ordered =>
          cases h
          exact ⟨old, arena, rfl, ⟨by simpa using valid, by simpa using ordered⟩, rfl⟩
    · rintro ⟨_, _, h, ⟨valid, ordered⟩, rfl⟩
      cases h
      simp [valid, ordered]

/-- The time of creation has a fixed size, and validity needs no more of it than its order. -/
theorem Sound.updateCreateScn {createScn : Scn} (sound : tablet.Sound)
    (done : tablet.updateCreateScn createScn = .ok result) : result.Sound := by
  obtain ⟨old, arena, rfl, ⟨-, ordered⟩, rfl⟩ := updateCreateScn_eq_ok_iff.mp done
  obtain ⟨version, length, small, valid, autoincrement⟩ := sound
  have valid : { old with createScn }.Valid :=
    { DescriptorBody.isValid_iff.mp valid with createdBeforeStart := ordered }
  exact ⟨version, length, small, DescriptorBody.isValid_iff.mpr valid, autoincrement⟩

theorem charges_updateCreateScn {createScn : Scn}
    (done : tablet.updateCreateScn createScn = .ok result) :
    result.held.charges DescriptorBody.format = tablet.held.charges DescriptorBody.format := by
  obtain ⟨old, arena, rfl, -, rfl⟩ := updateCreateScn_eq_ok_iff.mp done
  rfl

theorem reset_accounts (tablet : Tablet) :
    Accounts tablet.reset (·.held.charges DescriptorBody.format)
      (tablet.held.charges DescriptorBody.format) where
  restores := by
    intro before fault after failed
    cases failed
  posting := by
    intro before result after _ done
    cases done
    exact (Ledger.Posting.refl before []).releaseAll _

theorem reset_eq_ok_iff :
    tablet.reset before = .ok result after ↔
      result = uninitialized ∧
        after = before.releaseAll (tablet.held.charges DescriptorBody.format) := by
  constructor
  · intro h
    cases h
    exact ⟨rfl, rfl⟩
  · rintro ⟨rfl, rfl⟩
    rfl

theorem read_eq_ok_iff {settings : Settings} {buffer : List UInt8} {position position' : Nat} :
    tablet.read settings arena buffer position before = .ok (result, position') after ↔
      tablet = uninitialized ∧ ∃ header body account,
        Wire.Record.Stands DescriptorBody.format Descriptor.currentVersion settings.recordLimit
          header body buffer position ∧
        (body.Legal ∧ body.isValid ∧
          (before.account arena).chargeAll (DescriptorBody.format.charges body) = .ok account) ∧
        (result = initialized { header with toDescriptorBody := body } arena ∧
          position' = position + header.size ∧ after = before.set arena account) := by
  simp only [read, ite_throw_eq_ok_iff, readRecord_eq_ok_iff DescriptorBody.format_lawful,
    throw_bind, ite_else_throw_eq_ok_iff]
  cases tablet with
  | initialized descriptor payer => simp [isInitialized]
  | uninitialized =>
    constructor
    · rintro ⟨-, header, body, account, stands, legal, fits, valid, h⟩
      cases h
      exact ⟨rfl, header, body, account, stands, ⟨legal, valid, fits⟩, rfl, rfl, rfl⟩
    · rintro ⟨-, header, body, account, stands, ⟨legal, valid, fits⟩, rfl, rfl, rfl⟩
      exact ⟨Bool.false_ne_true, header, body, account, stands, legal, fits, valid, rfl⟩

/-- What stands as a record is as long as its header says, so a tablet read from it is sound. -/
theorem sound_of_read {settings : Settings} {buffer : List UInt8} {position position' : Nat}
    (done : tablet.read settings arena buffer position before = .ok (result, position') after) :
    result.Sound := by
  obtain ⟨-, header, body, account, stands, ⟨legal, valid, -⟩, rfl, -⟩ := read_eq_ok_iff.mp done
  have size : header.size = body.recordSize := stands.size
  refine ⟨stands.version, ?_, ?_, valid, legal.autoincrement.isValid⟩
  · show header.length = Int32.ofNat body.recordSize
    rw [← size]
    exact Header.length_eq_ofNat stands.nonneg
  · show body.recordSize < _
    rw [← size]
    exact header.size_lt

theorem read_accounts (tablet : Tablet) (settings : Settings) (arena : ArenaId)
    (buffer : List UInt8) (position : Nat) :
    Accounts (tablet.read settings arena buffer position)
      (·.1.held.charges DescriptorBody.format) (tablet.held.charges DescriptorBody.format) where
  restores := by
    refine .ite (.throw _) (.readRecord DescriptorBody.format_lawful fun header body => ?_)
    exact .ite (.pure _) (.throw _)
  posting := by
    rintro before ⟨result, position'⟩ after _ done
    obtain ⟨rfl, header, body, account, -, ⟨-, -, fits⟩, rfl, -, rfl⟩ := read_eq_ok_iff.mp done
    exact .of_chargeAll fits

end Tablet

end TabletRecords
