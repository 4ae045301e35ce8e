import TabletRecords.Proofs.Tablet.Reachable

/-!
The round trip of tablets. What a reachable tablet writes is read back as the same tablet, whatever
bytes are around the record, and two reachable tablets have the same record only if they are the
same.
-/
namespace TabletRecords

open Arena (ArenaId Ledger total)
open Wire (Format Header)

def Descriptor.recordBytes (descriptor : Descriptor) : List UInt8 :=
  Wire.Record.bytes DescriptorBody.format descriptor.toHeader descriptor.toDescriptorBody

namespace Descriptor

variable {descriptor : Descriptor}

theorem length_recordBytes (descriptor : Descriptor) :
    descriptor.recordBytes.length = descriptor.recordSize :=
  Wire.Record.length_bytes DescriptorBody.format_lawful _ _

theorem Sound.toHeader_eq (sound : descriptor.Sound) :
    descriptor.toHeader = ⟨currentVersion, Int32.ofNat descriptor.recordSize⟩ := by
  obtain ⟨⟨version, length⟩, body⟩ := descriptor
  have known : version = currentVersion := sound.version
  have fixed : length = Int32.ofNat body.recordSize := sound.length
  rw [known, fixed]

theorem Sound.size_toHeader (sound : descriptor.Sound) :
    descriptor.toHeader.size = descriptor.recordSize := by
  rw [sound.toHeader_eq, Header.size_ofNat sound.recordSize_lt]

theorem Sound.stands (sound : descriptor.Sound) {most position : Nat} {buffer : List UInt8}
    (limit : descriptor.recordSize ≤ most) (within : position ≤ buffer.length)
    (found : descriptor.recordBytes <+: buffer.drop position) :
    Wire.Record.Stands DescriptorBody.format currentVersion most descriptor.toHeader
      descriptor.toDescriptorBody buffer position := by
  rw [recordBytes, sound.toHeader_eq] at found
  rw [sound.toHeader_eq]
  exact Wire.Record.stands_of_found sound.recordSize_lt limit within found

theorem Sound.eq_of_recordBytes {other : Descriptor} (sound : descriptor.Sound) (sound' : other.Sound)
    (same : descriptor.recordBytes = other.recordBytes) : descriptor = other := by
  have header : descriptor.toHeader = other.toHeader :=
    Header.format_lawful.eq_of_bytes_append trivial trivial same
  unfold recordBytes Wire.Record.bytes at same
  rw [header, List.append_cancel_left_eq] at same
  have body : descriptor.toDescriptorBody = other.toDescriptorBody := by
    have same : DescriptorBody.format.bytes descriptor.toDescriptorBody ++ [] =
        DescriptorBody.format.bytes other.toDescriptorBody ++ [] := by rw [same]
    exact DescriptorBody.format_lawful.eq_of_bytes_append sound.legal sound'.legal same
  cases descriptor
  cases other
  simp_all

end Descriptor

namespace Tablet

def recordBytes (tablet : Tablet) : List UInt8 := tablet.descriptor.recordBytes

variable {descriptor : Descriptor} {arena payer : ArenaId}

theorem write_eq_ok_iff {tablet : Tablet} {settings : Settings} {buffer buffer' : List UInt8}
    {position position' : Nat} :
    tablet.write settings buffer position = .ok (buffer', position') ↔
      tablet.isValid ∧ ∃ header,
        Wire.Record.write DescriptorBody.format Descriptor.currentVersion
          tablet.descriptor.toDescriptorBody settings.recordLimit buffer position =
            .ok (header, buffer', position') := by
  unfold write
  cases valid : tablet.isValid with
  | false => simp
  | true =>
    simp only [Bool.not_true, Bool.false_eq_true, if_false, true_and]
    split
    · next header written done =>
      simp [done]
    · next error failed =>
      simp [failed]

theorem write_initialized_eq_ok_iff (sound : descriptor.Sound) {settings : Settings}
    {buffer buffer' : List UInt8} {position position' : Nat} :
    (initialized descriptor payer).write settings buffer position = .ok (buffer', position') ↔
      (descriptor.recordSize ≤ settings.recordLimit ∧
        position + descriptor.recordSize ≤ buffer.length) ∧
      buffer' = Wire.Record.splice buffer position descriptor.recordBytes ∧
      position' = position + descriptor.recordSize := by
  rw [write_eq_ok_iff]
  constructor
  · rintro ⟨-, header, written⟩
    obtain ⟨⟨-, limit, room⟩, same, changed, moved⟩ := Wire.Record.write_eq_ok_iff.mp written
    refine ⟨⟨limit, room⟩, ?_, moved⟩
    have header_eq : header = descriptor.toHeader := same.trans sound.toHeader_eq.symm
    rw [changed, header_eq]
    rfl
  · rintro ⟨⟨limit, room⟩, changed, moved⟩
    refine ⟨sound.isValid, descriptor.toHeader, ?_⟩
    exact Wire.Record.write_eq_ok_iff.mpr
      ⟨⟨sound.recordSize_lt, limit, room⟩, sound.toHeader_eq, changed, moved⟩

theorem stands_of_write {tablet : Tablet} (reachable : Session.Object.Reachable (.tablet tablet))
    {settings : Settings} {buffer buffer' : List UInt8} {position position' : Nat}
    (written : tablet.write settings buffer position = .ok (buffer', position')) :
    ∃ descriptor payer, tablet = initialized descriptor payer ∧ descriptor.Sound ∧
      Wire.Record.Stands DescriptorBody.format Descriptor.currentVersion settings.recordLimit
        descriptor.toHeader descriptor.toDescriptorBody buffer' position ∧
      position' = position + descriptor.recordSize := by
  obtain ⟨valid, header, written⟩ := write_eq_ok_iff.mp written
  cases tablet with
  | uninitialized => cases valid
  | initialized descriptor payer =>
    have sound : descriptor.Sound := sound_of_reachable reachable
    have header_eq : header = descriptor.toHeader :=
      (Wire.Record.write_eq_ok_iff.mp written).2.1.trans sound.toHeader_eq.symm
    obtain ⟨stands, moved⟩ := Wire.Record.stands_of_write written
    rw [header_eq] at stands moved
    rw [sound.size_toHeader] at moved
    exact ⟨descriptor, payer, rfl, sound, stands, moved⟩

theorem read_recordBytes (sound : descriptor.Sound) {settings : Settings} {buffer : List UInt8}
    {position : Nat} (limit : descriptor.recordSize ≤ settings.recordLimit)
    (within : position ≤ buffer.length) (found : descriptor.recordBytes <+: buffer.drop position)
    {ledger : Ledger}
    (room : ledger.used arena + DescriptorBody.format.footprint descriptor.toDescriptorBody ≤
      (ledger.account arena).limit) :
    ∃ after, uninitialized.read settings arena buffer position ledger =
      .ok (initialized descriptor arena, position + descriptor.recordSize) after := by
  refine ⟨_, read_eq_ok_iff.mpr ⟨rfl, descriptor.toHeader, descriptor.toDescriptorBody, _,
    sound.stands limit within found, ⟨sound.legal, sound.isValid,
      Arena.Account.chargeAll_of_room room⟩, rfl, ?_, rfl⟩⟩
  rw [sound.size_toHeader]

theorem same_initialized_iff {other : Descriptor} :
    (initialized descriptor arena).same (initialized other payer) ↔ descriptor = other := by
  show (decide (descriptor = other) && decide (true = true)) = true ↔ _
  rw [Bool.and_eq_true, decide_eq_true_eq]
  exact and_iff_left rfl

theorem recordBytes_prefix {descriptor : Descriptor} {buffer other : List UInt8} {position : Nat}
    (within : position ≤ buffer.length)
    (agree : (other.drop position).take descriptor.recordSize =
      ((Wire.Record.splice buffer position descriptor.recordBytes).drop position).take
        descriptor.recordSize) :
    position ≤ other.length ∧ descriptor.recordBytes <+: other.drop position := by
  have length := descriptor.length_recordBytes
  have stands : descriptor.recordBytes <+:
      (Wire.Record.splice buffer position descriptor.recordBytes).drop position :=
    Wire.Record.prefix_drop_splice within
  have record : (other.drop position).take descriptor.recordSize = descriptor.recordBytes := by
    rw [agree, ← length]
    exact (List.prefix_iff_eq_take.mp stands).symm
  constructor
  · have nonempty : 0 < descriptor.recordSize := Nat.lt_of_lt_of_le (by decide) (Nat.le_add_right _ _)
    have whole := congrArg List.length record
    rw [List.length_take, List.length_drop, length] at whole
    omega
  · rw [← record]
    exact List.take_prefix _ _

/-- What a reachable tablet writes is read back as the same tablet, by any reader with room for its
lists and wherever the bytes of the record are; and tablets with the same record are the same. -/
theorem read_of_write {tablet : Tablet} (reachable : Session.Object.Reachable (.tablet tablet))
    (ready : tablet.isInitialized) :
    (∀ (settings : Settings) (buffer buffer' : List UInt8) (position position' : Nat),
      tablet.write settings buffer position = .ok (buffer', position') →
        (buffer' = Wire.Record.splice buffer position tablet.recordBytes ∧
          position' = position + tablet.recordBytes.length) ∧
        ∀ (other : List UInt8) (arena : ArenaId) (ledger : Ledger),
          (other.drop position).take (position' - position) =
            (buffer'.drop position).take (position' - position) →
          ledger.used arena + 16 * tablet.descriptor.autoincrement.intervals.length +
            8 * tablet.descriptor.binding.hiddenTabletIds.length ≤ (ledger.account arena).limit →
          ∃ copy after, uninitialized.read settings arena other position ledger =
            .ok (copy, position') after ∧ copy.same tablet) ∧
    ∀ second : Tablet, Session.Object.Reachable (.tablet second) → second.isInitialized →
      (tablet.recordBytes = second.recordBytes ↔ tablet.same second) := by
  have sound := sound_of_reachable reachable
  cases tablet with
  | uninitialized => cases ready
  | initialized descriptor payer =>
    have sound : descriptor.Sound := sound
    constructor
    · intro settings buffer buffer' position position' written
      obtain ⟨⟨limit, room⟩, changed, moved⟩ :=
        (write_initialized_eq_ok_iff sound).mp written
      rw [changed, moved]
      refine ⟨⟨rfl, congrArg (position + ·) descriptor.length_recordBytes.symm⟩, ?_⟩
      intro other arena ledger agree space
      rw [Nat.add_sub_cancel_left] at agree
      have fits : position ≤ buffer.length := Nat.le_trans (Nat.le_add_right _ _) room
      obtain ⟨within, found⟩ := recordBytes_prefix fits agree
      have space : ledger.used arena + DescriptorBody.format.footprint descriptor.toDescriptorBody ≤
          (ledger.account arena).limit := by
        rw [DescriptorBody.footprint_eq]
        simp only [Tablet.descriptor] at space
        omega
      obtain ⟨after, read⟩ := read_recordBytes sound limit within found space
      exact ⟨_, after, read, same_initialized_iff.mpr rfl⟩
    · intro second reachable' ready'
      cases second with
      | uninitialized => cases ready'
      | initialized other payer' =>
        have sound' : other.Sound := sound_of_reachable reachable'
        rw [same_initialized_iff]
        constructor
        · intro bytes
          exact sound.eq_of_recordBytes sound' bytes
        · intro equal
          exact congrArg Descriptor.recordBytes equal

theorem write_successor {buffer : List UInt8} {position : Nat} (room : position + 252 ≤ buffer.length) :
    ∃ buffer', successor.write {} buffer position = .ok (buffer', position + 252) :=
  ⟨_, (write_initialized_eq_ok_iff (sound_of_reachable reachable_successor)).mpr
    ⟨⟨by decide, room⟩, rfl, rfl⟩⟩

theorem read_of_write_successor :
    Session.Object.Reachable (.tablet successor) ∧ successor.isInitialized ∧
      ∃ buffer, successor.write {} (List.replicate 300 0) 5 = .ok (buffer, 257) ∧
        ∃ copy after,
          uninitialized.read {} ⟨0⟩ buffer 5 ⟨fun _ => { label := "", limit := 24 }, 1⟩ =
            .ok (copy, 257) after ∧ copy.same successor := by
  have written : successor.write {} (List.replicate 300 0) 5 =
      .ok (Wire.Record.splice (List.replicate 300 0) 5 successor.recordBytes, 257) := by
    refine (write_initialized_eq_ok_iff (sound_of_reachable reachable_successor)).mpr ⟨⟨?_, ?_⟩, rfl, rfl⟩
    · decide
    · rw [List.length_replicate]
      decide
  obtain ⟨reads, -⟩ := read_of_write reachable_successor rfl
  obtain ⟨-, copies⟩ := reads _ _ _ _ _ written
  exact ⟨reachable_successor, rfl, _, written, copies _ _ _ rfl (by decide)⟩

end Tablet

end TabletRecords
