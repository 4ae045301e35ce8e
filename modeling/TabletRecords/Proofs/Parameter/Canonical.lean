import TabletRecords.Proofs.Parameter.RoundTrip

/-!
Canonical records of transfer parameters. A parameter that takes in a record has the snapshot that
the bytes spell and nothing of what it held before, and it writes these bytes again.
-/
namespace TabletRecords

open Arena (Account ArenaId Ledger)

def Snapshot.recordBytes (snapshot : Snapshot) : List UInt8 :=
  Wire.Record.bytes format ⟨currentVersion, Int32.ofNat snapshot.recordSize⟩ snapshot

namespace TransferParameter

variable {parameter result : TransferParameter} {buffer : List UInt8} {position position' : Nat}
  {before after : Ledger}

theorem limit_of_read
    (taken : parameter.read buffer position before = .ok (result, position') after)
    (arena : ArenaId) : (after.account arena).limit = (before.account arena).limit := by
  obtain ⟨header, snapshot, account, -, ⟨-, -, fits⟩, -, -, rfl⟩ := read_eq_ok_iff.mp taken
  obtain ⟨-, rfl⟩ := Account.chargeAll_eq_ok_iff.mp fits
  rw [Ledger.account_releaseAll]
  by_cases own : arena = parameter.arena
  · rw [own, Ledger.account_set_self, Account.release]
  · rw [Ledger.account_set_of_ne _ _ own, Account.release]

theorem record_of_read
    (taken : parameter.read buffer position before = .ok (result, position') after) :
    (position' = position + result.snapshot.recordSize ∧ position' ≤ buffer.length) ∧
      buffer.extract position position' = result.snapshot.recordBytes := by
  obtain ⟨header, snapshot, account, stands, -, rfl, rfl, -⟩ := read_eq_ok_iff.mp taken
  have size : header.size = snapshot.recordSize := stands.size
  have made : header = ⟨Snapshot.currentVersion, Int32.ofNat snapshot.recordSize⟩ := by
    rw [← size, ← Wire.Header.length_eq_ofNat stands.nonneg, ← stands.version]
  refine ⟨⟨congrArg (position + ·) size, stands.end_le Snapshot.format_lawful⟩, ?_⟩
  rw [stands.extract_eq Snapshot.format_lawful, Snapshot.recordBytes, ← made]

theorem write_eq_ok_of_read
    (taken : parameter.read buffer position before = .ok (result, position') after)
    {other : List UInt8} {start : Nat} (room : start + (position' - position) ≤ other.length) :
    result.write other start =
      .ok (Wire.Record.splice other start (buffer.extract position position'),
        start + (position' - position)) := by
  obtain ⟨header, snapshot, account, stands, ⟨-, valid, -⟩, rfl, rfl, -⟩ := read_eq_ok_iff.mp taken
  rw [Nat.add_sub_cancel_left] at room ⊢
  exact write_eq_ok_iff.mpr ⟨valid, header, stands.write_eq_ok Snapshot.format_lawful room⟩

theorem read_of_read (former : Snapshot)
    (taken : parameter.read buffer position before = .ok (result, position') after) :
    ∃ after', { parameter with snapshot := former }.read buffer position before =
      .ok (result, position') after' := by
  obtain ⟨header, snapshot, account, stands, accepted, rfl, moved, -⟩ := read_eq_ok_iff.mp taken
  exact ⟨_, read_eq_ok_iff.mpr ⟨header, snapshot, account, stands, accepted, rfl, moved, rfl⟩⟩

theorem snapshot_eq_of_reads {second received : TransferParameter} {stop : Nat}
    {ledger ledger' : Ledger}
    (taken : parameter.read buffer position before = .ok (result, position') after)
    (taken' : second.read buffer position ledger = .ok (received, stop) ledger') :
    received.snapshot = result.snapshot ∧ stop = position' := by
  obtain ⟨header, snapshot, account, stands, ⟨legal, -⟩, rfl, rfl, -⟩ := read_eq_ok_iff.mp taken
  obtain ⟨header', snapshot', account', stands', ⟨legal', -⟩, rfl, rfl, -⟩ :=
    read_eq_ok_iff.mp taken'
  obtain ⟨rfl, rfl⟩ := stands.unique Snapshot.format_lawful stands' legal legal'
  exact ⟨rfl, rfl⟩

/-- Records are canonical. A parameter that takes in a record keeps its arena and its settings and
ends with a valid snapshot, whose record is as long as the bytes taken in and is written as these
bytes wherever they fit. What the parameter held before does not matter, nor does any other
parameter take in anything else there; and no other bytes are taken in as the same snapshot. -/
theorem canonical_of_read
    (taken : parameter.read buffer position before = .ok (result, position') after) :
    (result.arena = parameter.arena ∧ result.settings = parameter.settings ∧
      ∀ arena, (after.account arena).limit = (before.account arena).limit) ∧
    result.snapshot.isValid ∧
    (position ≤ position' ∧ position' ≤ buffer.length ∧
      result.snapshot.recordSize = position' - position) ∧
    (∀ (other : List UInt8) (start : Nat), start + (position' - position) ≤ other.length →
      result.write other start =
        .ok (Wire.Record.splice other start (buffer.extract position position'),
          start + (position' - position))) ∧
    (∀ former : Snapshot, ∃ after',
      { parameter with snapshot := former }.read buffer position before =
        .ok (result, position') after') ∧
    (∀ (second received : TransferParameter) (stop : Nat) (ledger ledger' : Ledger),
      second.read buffer position ledger = .ok (received, stop) ledger' →
        received.snapshot = result.snapshot ∧ stop = position') ∧
    ∀ (second received : TransferParameter) (other : List UInt8) (start stop : Nat)
      (ledger ledger' : Ledger), second.read other start ledger = .ok (received, stop) ledger' →
        received.same result → other.extract start stop = buffer.extract position position' := by
  obtain ⟨⟨moved, within⟩, bytes⟩ := record_of_read taken
  have owner : result = { parameter with snapshot := result.snapshot } ∧ result.snapshot.isValid := by
    obtain ⟨header, snapshot, account, -, ⟨-, valid, -⟩, rfl, -⟩ := read_eq_ok_iff.mp taken
    exact ⟨rfl, valid⟩
  refine ⟨⟨?_, ?_, limit_of_read taken⟩, owner.2, ⟨by omega, within, by omega⟩,
    fun _ _ => write_eq_ok_of_read taken, fun former => read_of_read former taken,
    fun _ _ _ _ _ => snapshot_eq_of_reads taken, ?_⟩
  · rw [owner.1]
  · rw [owner.1]
  · intro second received other start stop ledger ledger' taken' same
    obtain ⟨-, bytes'⟩ := record_of_read taken'
    have snapshots : received.snapshot = result.snapshot := of_decide_eq_true same
    rw [bytes, bytes', snapshots]

def occupied : TransferParameter where
  arena := ⟨0⟩
  settings := {}
  snapshot := placeholderSnapshot ⟨⟨3⟩, ⟨4⟩⟩ ⟨4⟩ ⟨2⟩

def occupiedLedger : Ledger := ⟨fun _ => { label := "", limit := 88, used := 32 }, 1⟩

theorem canonical_of_read_occupied :
    ∃ buffer after,
      occupied.read buffer 3 occupiedLedger =
        .ok ({ occupied with snapshot := sentSuccessor.snapshot }, 365) after ∧
      (after.account ⟨0⟩).limit = 88 ∧ sentSuccessor.snapshot.recordSize = 362 ∧
      { occupied with snapshot := sentSuccessor.snapshot }.write (List.replicate 370 0) 5 =
        .ok (Wire.Record.splice (List.replicate 370 0) 5 (buffer.extract 3 365), 367) ∧
      ∃ after', { occupied with snapshot := {} }.read buffer 3 occupiedLedger =
        .ok ({ occupied with snapshot := sentSuccessor.snapshot }, 365) after' := by
  have written : ∃ buffer, sentSuccessor.write (List.replicate 400 0) 3 = .ok (buffer, 365) := by
    refine ⟨_, write_eq_ok_iff.mpr ⟨rfl, _, Wire.Record.write_eq_ok_iff.mpr
      ⟨⟨by decide, by decide, ?_⟩, rfl, rfl, rfl⟩⟩⟩
    rw [List.length_replicate]
    decide
  obtain ⟨buffer, written⟩ := written
  have fits : (occupiedLedger.account occupied.arena).chargeAll
      (Snapshot.format.charges sentSuccessor.snapshot) = .ok ⟨"", 88, 88, false⟩ := rfl
  obtain ⟨after, taken⟩ := read_of_write_of_chargeAll rfl written occupied (Nat.le_refl _) fits
  obtain ⟨⟨-, -, limit⟩, -, ⟨-, -, size⟩, writes, formers, -⟩ := canonical_of_read taken
  have room : 5 + (365 - 3) ≤ (List.replicate 370 (0 : UInt8)).length := by
    rw [List.length_replicate]
    decide
  exact ⟨buffer, after, taken, limit ⟨0⟩, size, writes _ 5 room, formers {}⟩

end TransferParameter

end TabletRecords
