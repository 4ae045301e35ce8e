import TabletRecords.Proofs.Tablet.RoundTrip

/-!
Canonical records. A tablet that is read from some bytes is written as those bytes again: no other
bytes are read as the same tablet, and the length in the header is the one that the fields give.
-/
namespace TabletRecords.Tablet

open Arena (ArenaId Ledger)

variable {tablet result : Tablet} {settings : Settings} {arena : ArenaId} {buffer : List UInt8}
  {position position' : Nat} {before after : Ledger}

theorem record_of_read
    (done : tablet.read settings arena buffer position before = .ok (result, position') after) :
    (result.recordSize ≤ settings.recordLimit ∧ position' = position + result.recordSize ∧
      position' ≤ buffer.length) ∧
    buffer.extract position position' = result.recordBytes := by
  obtain ⟨-, header, body, account, stands, -, rfl, rfl, -⟩ := read_eq_ok_iff.mp done
  have size : header.size = body.recordSize := stands.size
  have limit := stands.limit
  rw [size] at limit
  exact ⟨⟨limit, congrArg (position + ·) size, stands.end_le DescriptorBody.format_lawful⟩,
    stands.extract_eq DescriptorBody.format_lawful⟩

theorem isInitialized_of_read
    (done : tablet.read settings arena buffer position before = .ok (result, position') after) :
    result.isInitialized := by
  obtain ⟨-, header, body, account, -, -, rfl, -⟩ := read_eq_ok_iff.mp done
  rfl

theorem Sound.write_eq_ok (sound : result.Sound) (ready : result.isInitialized)
    (limit : result.recordSize ≤ settings.recordLimit)
    (room : position + result.recordSize ≤ buffer.length) :
    result.write settings buffer position =
      .ok (Wire.Record.splice buffer position result.recordBytes,
        position + result.recordSize) := by
  cases result with
  | uninitialized => cases ready
  | initialized descriptor payer =>
    exact (write_initialized_eq_ok_iff sound).mpr ⟨⟨limit, room⟩, rfl, rfl⟩

/-- Records are canonical. A read that succeeds has taken in as many bytes as the record of its
result has, and as the length field says; the result is written as these bytes, under the same
limit, wherever they fit; and no other bytes are read as the same tablet. -/
theorem write_of_read
    (taken : tablet.read settings arena buffer position before = .ok (result, position') after) :
    (position ≤ position' ∧ position' ≤ buffer.length) ∧
    result.recordSize = position' - position ∧
    result.descriptor.length.toInt = (position' - position : Nat) ∧
    (∀ (other : List UInt8) (start : Nat), start + (position' - position) ≤ other.length →
      result.write settings other start =
        .ok (Wire.Record.splice other start (buffer.extract position position'),
          start + (position' - position))) ∧
    ∀ (settings' : Settings) (arena' : ArenaId) (buffer' : List UInt8) (start stop : Nat)
      (before' after' : Ledger) (second : Tablet),
      uninitialized.read settings' arena' buffer' start before' = .ok (second, stop) after' →
        second.same result → buffer'.extract start stop = buffer.extract position position' := by
  have sound := sound_of_read taken
  have ready := isInitialized_of_read taken
  obtain ⟨⟨limit, moved, within⟩, bytes⟩ := record_of_read taken
  have size : result.recordSize = position' - position := by omega
  refine ⟨⟨by omega, within⟩, size, ?_, ?_, ?_⟩
  · rw [← size]
    cases result with
    | uninitialized => cases ready
    | initialized descriptor payer => exact Descriptor.Sound.toInt_length sound
  · intro other start room
    rw [bytes, ← size]
    apply sound.write_eq_ok ready limit
    rwa [size]
  · intro settings' arena' buffer' start stop before' after' second taken' same
    obtain ⟨-, bytes'⟩ := record_of_read taken'
    have descriptors : second.descriptor = result.descriptor := by
      simp only [Tablet.same, Bool.and_eq_true, decide_eq_true_eq] at same
      exact same.1
    rw [bytes, bytes', recordBytes, recordBytes, descriptors]

theorem write_of_read_successor :
    ∃ after, uninitialized.read {} ⟨0⟩ ([9] ++ successor.recordBytes ++ [7, 7]) 1
        ⟨fun _ => { label := "", limit := 24 }, 1⟩ = .ok (successor, 253) after ∧
      successor.recordSize = 252 ∧ successor.descriptor.length.toInt = 252 ∧
      successor.write {} (List.replicate 255 0) 2 =
        .ok (Wire.Record.splice (List.replicate 255 0) 2 successor.recordBytes, 254) := by
  have sound : Descriptor.Sound successor.descriptor := sound_of_reachable reachable_successor
  have reads : ∃ after, uninitialized.read {} ⟨0⟩ ([9] ++ successor.recordBytes ++ [7, 7]) 1
      ⟨fun _ => { label := "", limit := 24 }, 1⟩ = .ok (successor, 253) after :=
    read_recordBytes sound (by decide) (Nat.le_add_left 1 _) (List.prefix_append _ _) (by decide)
  obtain ⟨after, taken⟩ := reads
  obtain ⟨-, bytes⟩ := record_of_read taken
  obtain ⟨-, size, length, writes, -⟩ := write_of_read taken
  have room : 2 + (253 - 1) ≤ (List.replicate 255 (0 : UInt8)).length := by
    rw [List.length_replicate]
    decide
  have written := writes _ _ room
  rw [bytes] at written
  exact ⟨after, taken, size, length, written⟩

end TabletRecords.Tablet
