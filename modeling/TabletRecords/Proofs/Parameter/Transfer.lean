import TabletRecords.Proofs.Parameter.RoundTrip
import TabletRecords.Proofs.Tablet.RoundTrip

/-!
Transfers. A tablet that is sent as a transfer parameter and received by another node arrives as it
was, except for its place in a chain of tablets, which no snapshot carries.
-/
namespace TabletRecords

open Arena (Account ArenaId Ledger)
open Wire (Header)

def DescriptorBody.unchained (body : DescriptorBody) : DescriptorBody :=
  { body with hasNextTablet := false }

namespace TransferParameter

variable {parameter : TransferParameter}

theorem position_of_toRecord {bytes : List UInt8} {position : Nat}
    (written : parameter.write (List.replicate parameter.snapshot.recordSize 0) 0 =
      .ok (bytes, position)) : position = bytes.length := by
  obtain ⟨-, header, written⟩ := write_eq_ok_iff.mp written
  obtain ⟨-, -, changed, moved⟩ := Wire.Record.write_eq_ok_iff.mp written
  have length := Wire.Record.length_bytes Snapshot.format_lawful header parameter.snapshot
  rw [moved, changed, Wire.Record.splice_eq, List.take_zero, List.nil_append, List.length_append,
    List.length_drop, List.length_replicate, length, Snapshot.recordSize]
  omega

end TransferParameter

namespace DescriptorBody

variable {body : DescriptorBody}

theorem recordSize_unchained (body : DescriptorBody) : body.unchained.recordSize = body.recordSize := by
  rw [recordSize, recordSize, size_eq, size_eq, unchained]

theorem charges_unchained (body : DescriptorBody) :
    format.charges body.unchained = format.charges body := by
  rw [charges_eq, charges_eq, unchained]

end DescriptorBody

theorem Descriptor.Sound.framed_unchained {descriptor : Descriptor} (sound : descriptor.Sound) :
    Descriptor.framed currentVersion descriptor.unchained =
      { descriptor with hasNextTablet := false } := by
  unfold Descriptor.framed
  rw [DescriptorBody.recordSize_unchained, ← sound.version, ← sound.length]
  rfl

theorem Tablet.init_snapshotOf {descriptor : Descriptor} (sound : descriptor.Sound)
    {schema : StorageSchema} {compactions : CompactionQueue}
    (valid : (TransferParameter.snapshotOf descriptor.toDescriptorBody schema compactions).isValid)
    {arena : ArenaId} {ledger : Ledger}
    (room : ledger.used arena + DescriptorBody.format.footprint descriptor.toDescriptorBody ≤
      (ledger.account arena).limit) :
    ∃ after, uninitialized.init arena
        (.receive (TransferParameter.snapshotOf descriptor.toDescriptorBody schema compactions))
        ledger =
      .ok (initialized { descriptor with hasNextTablet := false } arena) after := by
  have fits := Account.chargeAll_of_room room
  rw [← DescriptorBody.charges_unchained] at fits
  have small : descriptor.unchained.recordSize < 0x80000000 := by
    rw [DescriptorBody.recordSize_unchained]
    exact sound.recordSize_lt
  have framed := congrArg (initialized · arena) sound.framed_unchained.symm
  exact ⟨_, init_eq_ok_iff.mpr
    ⟨⟨rfl, if_pos valid, sound.isValid, small⟩, framed, _, fits, rfl⟩⟩

namespace TransferParameter

/-- A reachable tablet that is sent is received: the record is read by a blank parameter, which
holds the schema and the compactions that were sent, and a tablet that is initialized from it has
the sender's descriptor, except that no other tablet follows it. -/
theorem init_read_ofTablet {source : Tablet}
    (reachable : Session.Object.Reachable (.tablet source)) {schema : StorageSchema}
    {compactions : CompactionQueue} {sent : TransferParameter} {before after : Ledger}
    (made : ofTablet source schema compactions before = .ok sent after) {bytes : List UInt8}
    (record : sent.toRecord = .ok bytes) (receiver : Ledger) :
    ∃ fresh opened received taken,
      blank {} receiver = .ok fresh opened ∧
        fresh.read bytes 0 opened = .ok (received, bytes.length) taken ∧
        received.snapshot.schema = schema ∧ received.snapshot.compactions = compactions ∧
        ∀ (arena : ArenaId) (ledger : Ledger),
          ledger.used arena + 16 * source.descriptor.autoincrement.intervals.length +
            8 * source.descriptor.binding.hiddenTabletIds.length ≤ (ledger.account arena).limit →
          ∃ copy ended,
            Tablet.uninitialized.init arena (.receive received.snapshot) ledger = .ok copy ended ∧
              copy.isInitialized ∧
              copy.descriptor = { source.descriptor with hasNextTablet := false } := by
  obtain ⟨descriptor, payer, rfl, -, made⟩ := ofTablet_eq_ok_iff.mp made
  obtain ⟨account, fits, rfl, -⟩ := ofSnapshot_eq_ok_iff.mp made
  have sound : descriptor.Sound := Tablet.sound_of_reachable reachable
  obtain ⟨position, written⟩ := toRecord_eq_ok_iff.mp record
  have position_eq := position_of_toRecord written
  rw [position_eq] at written
  obtain ⟨fresh, opened, received, taken, blank, read, same⟩ :=
    read_blank_of_chargeAll sound.autoincrement written fits receiver
  have valid := (write_eq_ok_iff.mp written).1
  refine ⟨fresh, opened, received, taken, blank, read, by rw [same]; rfl, by rw [same]; rfl, ?_⟩
  intro arena ledger room
  have room : ledger.used arena + DescriptorBody.format.footprint descriptor.toDescriptorBody ≤
      (ledger.account arena).limit := by
    rw [DescriptorBody.footprint_eq]
    simp only [Tablet.descriptor] at room
    omega
  obtain ⟨ended, done⟩ := Tablet.init_snapshotOf sound valid room
  rw [same]
  exact ⟨_, ended, done, rfl, rfl⟩

theorem init_read_ofTablet_successor :
    Session.Object.Reachable (.tablet Tablet.successor) ∧
      ∃ sent after bytes,
        ofTablet Tablet.successor .placeholder {} .empty = .ok sent after ∧
        sent.toRecord = .ok bytes ∧
        ∃ fresh opened received taken,
          blank {} .empty = .ok fresh opened ∧
          fresh.read bytes 0 opened = .ok (received, bytes.length) taken ∧
          ∃ copy ended,
            Tablet.uninitialized.init ⟨0⟩ (.receive received.snapshot)
              ⟨fun _ => { label := "", limit := 24 }, 1⟩ = .ok copy ended ∧
            copy.descriptor = Tablet.successor.descriptor := by
  have made : ∃ after, ofTablet Tablet.successor .placeholder {} .empty =
      .ok { sentSuccessor with arena := ⟨0⟩ } after := ⟨_, rfl⟩
  have record : ∃ bytes, { sentSuccessor with arena := ⟨0⟩ }.toRecord = .ok bytes := by
    refine ⟨_, toRecord_eq_ok_iff.mpr ⟨_, write_eq_ok_iff.mpr ⟨rfl, _,
      Wire.Record.write_eq_ok_iff.mpr ⟨⟨by decide, by decide, ?_⟩, rfl, rfl, rfl⟩⟩⟩⟩
    rw [List.length_replicate]
    decide
  obtain ⟨after, made⟩ := made
  obtain ⟨bytes, record⟩ := record
  obtain ⟨fresh, opened, received, taken, blank, read, -, -, receives⟩ :=
    init_read_ofTablet Tablet.reachable_successor made record .empty
  obtain ⟨copy, ended, done, -, arrived⟩ :=
    receives ⟨0⟩ ⟨fun _ => { label := "", limit := 24 }, 1⟩ (by decide)
  exact ⟨Tablet.reachable_successor, _, after, bytes, made, record, fresh, opened, received, taken,
    blank, read, copy, ended, done, arrived⟩

end TransferParameter

end TabletRecords
