import TabletRecords.Proofs.Tablet.Reachable

/-!
The round trip of transfer parameters. What a reachable parameter writes is read back by a fresh
parameter with the same settings: it holds the same lists under the same limit, so they have room.
-/
namespace TabletRecords

open Arena (Account ArenaId Ledger heldAt)
open Wire (Header)

namespace Session

variable {session : Session} {name : String} {parameter : TransferParameter}

theorem Sound.heldAt_le_used (sound : session.Sound) {object : Object}
    (found : session.find? name = some object) (arena : ArenaId) :
    heldAt arena object.charges ≤ session.ledger.used arena := by
  rw [← chargesOf_eq found]
  exact sound.heldAt_chargesOf_le name arena

theorem Sound.footprint_le (sound : session.Sound)
    (found : session.find? name = some (.parameter parameter)) :
    Snapshot.format.footprint parameter.snapshot ≤ parameter.settings.arenaLimit := by
  have owns := (sound.find? found).owns parameter rfl
  have held := sound.heldAt_le_used found parameter.arena
  have within := sound.within parameter.arena
  have holds : heldAt parameter.arena (Object.parameter parameter).charges =
      Snapshot.format.footprint parameter.snapshot := by
    show heldAt parameter.arena (Held.charges Snapshot.format ⟨_, some _⟩) = _
    rw [Held.heldAt_charges, if_pos rfl]
  rw [owns.limit] at within
  omega

end Session

namespace Snapshot

/-- The lists of a snapshot can be counted, and its schema and its queue can be read. Its sequence
may name a column twice. -/
structure Countable (snapshot : Snapshot) : Prop where
  intervals : snapshot.autoincrement.intervals.length < Wire.BigEndian.capacity 4
  binding : snapshot.binding.Legal
  schema : snapshot.schema.Legal
  compactions : snapshot.compactions.Legal

theorem Legal.countable {snapshot : Snapshot} (legal : snapshot.Legal) : snapshot.Countable :=
  ⟨legal.autoincrement.length_lt, legal.binding, legal.schema, legal.compactions⟩

theorem countable_of_isValid {snapshot : Snapshot} (valid : snapshot.isValid)
    (small : Wire.headerSize + format.size snapshot < 0x80000000) : snapshot.Countable := by
  have valid := isValid_iff.mp valid
  have schema := valid.schema
  simp only [StorageSchema.isValid, Bool.and_eq_true, decide_eq_true_eq] at schema
  rw [size_eq] at small
  refine ⟨?_, ?_, ⟨schema.1.1.1.1.1, ?_, ?_⟩, valid.compactions, ?_⟩
  all_goals
    show _ < 4294967296
    omega

theorem legal_of_isValid {snapshot : Snapshot} (valid : snapshot.isValid)
    (autoincrement : snapshot.autoincrement.isValid)
    (small : Wire.headerSize + format.size snapshot < 0x80000000) : snapshot.Legal :=
  have countable := countable_of_isValid valid small
  ⟨⟨autoincrement, countable.intervals⟩, countable.binding, countable.schema, countable.compactions⟩

end Snapshot

namespace TransferParameter

variable {parameter : TransferParameter}

theorem write_eq_ok_iff {buffer buffer' : List UInt8} {position position' : Nat} :
    parameter.write buffer position = .ok (buffer', position') ↔
      parameter.snapshot.isValid ∧ ∃ header,
        Wire.Record.write Snapshot.format Snapshot.currentVersion parameter.snapshot
          parameter.settings.recordLimit buffer position = .ok (header, buffer', position') := by
  unfold write
  cases valid : parameter.snapshot.isValid with
  | false => simp
  | true =>
    simp only [Bool.not_true, Bool.false_eq_true, if_false, true_and]
    split
    · next header written done =>
      simp [done]
    · next error failed =>
      simp [failed]

theorem toRecord_eq_ok_iff {bytes : List UInt8} :
    parameter.toRecord = .ok bytes ↔
      ∃ position, parameter.write (List.replicate parameter.snapshot.recordSize 0) 0 =
        .ok (bytes, position) := by
  rw [toRecord, Outcome.except_bind_eq_ok_iff]
  constructor
  · rintro ⟨⟨buffer, position⟩, written, h⟩
    cases h
    exact ⟨position, written⟩
  · rintro ⟨position, written⟩
    exact ⟨_, written, rfl⟩

theorem stands_of_write (autoincrement : parameter.snapshot.autoincrement.isValid)
    {buffer buffer' : List UInt8} {position position' : Nat}
    (written : parameter.write buffer position = .ok (buffer', position')) :
    (parameter.snapshot.Legal ∧ parameter.snapshot.isValid) ∧
      Wire.Record.Stands Snapshot.format Snapshot.currentVersion parameter.settings.recordLimit
        ⟨Snapshot.currentVersion, Int32.ofNat parameter.snapshot.recordSize⟩ parameter.snapshot
        buffer' position ∧
      position' = position + parameter.snapshot.recordSize := by
  obtain ⟨valid, header, written⟩ := write_eq_ok_iff.mp written
  obtain ⟨⟨small, -⟩, rfl, -, moved⟩ := Wire.Record.write_eq_ok_iff.mp written
  obtain ⟨stands, -⟩ := Wire.Record.stands_of_write written
  exact ⟨⟨Snapshot.legal_of_isValid valid autoincrement small, valid⟩, stands, moved⟩

theorem blank_eq (settings : Settings) (ledger : Ledger) :
    blank settings ledger =
      .ok ⟨⟨ledger.next⟩, settings, {}⟩ (ledger.openArena (freshAccount settings)).2 := by
  refine ofSnapshot_eq_ok_iff.mpr ⟨freshAccount settings, ?_, rfl, rfl⟩
  exact Account.chargeAll_nil_eq_ok_iff.mpr rfl

theorem read_of_write_of_chargeAll (autoincrement : parameter.snapshot.autoincrement.isValid)
    {buffer buffer' : List UInt8} {position position' : Nat}
    (written : parameter.write buffer position = .ok (buffer', position'))
    (receiver : TransferParameter)
    (limit : parameter.settings.recordLimit ≤ receiver.settings.recordLimit) {ledger : Ledger}
    {account : Account}
    (fits : (ledger.account receiver.arena).chargeAll
      (Snapshot.format.charges parameter.snapshot) = .ok account) :
    ∃ after, receiver.read buffer' position ledger =
      .ok ({ receiver with snapshot := parameter.snapshot }, position') after := by
  obtain ⟨⟨legal, valid⟩, stands, moved⟩ := stands_of_write autoincrement written
  have stop : position' = position + Header.size _ := moved.trans (congrArg _ stands.size.symm)
  exact ⟨_, read_eq_ok_iff.mpr ⟨_, parameter.snapshot, account, stands.mono limit,
    ⟨legal, valid, fits⟩, rfl, stop, rfl⟩⟩

theorem read_blank_of_stands {settings : Settings} {header : Header} {snapshot : Snapshot}
    {buffer : List UInt8} {position : Nat}
    (stands : Wire.Record.Stands Snapshot.format Snapshot.currentVersion settings.recordLimit header
      snapshot buffer position)
    (legal : snapshot.Legal) (valid : snapshot.isValid) {account : Account}
    (fits : (freshAccount settings).chargeAll (Snapshot.format.charges snapshot) = .ok account)
    (ledger : Ledger) :
    ∃ opened after, blank settings ledger = .ok ⟨⟨ledger.next⟩, settings, {}⟩ opened ∧
      read ⟨⟨ledger.next⟩, settings, {}⟩ buffer position opened =
        .ok (⟨⟨ledger.next⟩, settings, snapshot⟩, position + header.size) after ∧
      after.next = ledger.next + 1 ∧
      ∀ arena, arena.index < ledger.next → after.account arena = ledger.account arena := by
  have room : ((ledger.openArena (freshAccount settings)).2.account ⟨ledger.next⟩).chargeAll
      (Snapshot.format.charges snapshot) = .ok account := by
    rw [Ledger.account_openArena]
    exact fits
  refine ⟨_, _, blank_eq _ _, read_eq_ok_iff.mpr ⟨header, snapshot, account, stands,
    ⟨legal, valid, room⟩, rfl, rfl, rfl⟩, rfl, fun arena before => ?_⟩
  have other : arena ≠ ⟨ledger.next⟩ := by
    rintro rfl
    exact Nat.lt_irrefl _ before
  exact (Ledger.account_set_of_ne _ _ other).trans (Ledger.account_set_of_ne _ _ other)

theorem read_blank_of_chargeAll (autoincrement : parameter.snapshot.autoincrement.isValid)
    {buffer buffer' : List UInt8} {position position' : Nat}
    (written : parameter.write buffer position = .ok (buffer', position')) {account : Account}
    (fits : (freshAccount parameter.settings).chargeAll
      (Snapshot.format.charges parameter.snapshot) = .ok account) (ledger : Ledger) :
    ∃ fresh opened copy after,
      blank parameter.settings ledger = .ok fresh opened ∧
        fresh.read buffer' position opened = .ok (copy, position') after ∧
        copy.snapshot = parameter.snapshot := by
  obtain ⟨⟨legal, valid⟩, stands, moved⟩ := stands_of_write autoincrement written
  have stop : position' = position + Header.size _ := moved.trans (congrArg _ stands.size.symm)
  obtain ⟨opened, after, fresh, taken, -⟩ := read_blank_of_stands stands legal valid fits ledger
  rw [stop]
  exact ⟨_, opened, _, after, fresh, taken, rfl⟩

/-- What a reachable parameter writes is read back by a blank parameter with the same settings as
the same parameter, with the watermarks that the sender leaves out left out. -/
theorem blank_read_of_write (reachable : Session.Object.Reachable (.parameter parameter))
    {buffer buffer' : List UInt8} {position position' : Nat}
    (written : parameter.write buffer position = .ok (buffer', position')) (ledger : Ledger) :
    ∃ fresh opened copy after,
      blank parameter.settings ledger = .ok fresh opened ∧
        fresh.read buffer' position opened = .ok (copy, position') after ∧
        copy.same parameter ∧
        (copy.snapshot.ddlCheckpoint? = none ↔ parameter.snapshot.ddlCheckpoint? = none) ∧
        (copy.snapshot.ddlStartLog? = none ↔ parameter.snapshot.ddlStartLog? = none) ∧
        (copy.snapshot.ddlSnapshotVersion? = none ↔
          parameter.snapshot.ddlSnapshotVersion? = none) := by
  obtain ⟨session, sound, name, found⟩ := reachable.sound
  have room : (freshAccount parameter.settings).used +
      Arena.total (Snapshot.format.charges parameter.snapshot) ≤
        (freshAccount parameter.settings).limit := by
    show 0 + Snapshot.format.footprint parameter.snapshot ≤ parameter.settings.arenaLimit
    rw [Nat.zero_add]
    exact sound.footprint_le found
  obtain ⟨fresh, opened, copy, after, blank, read, same⟩ := read_blank_of_chargeAll
    (sound.find? found).valid written (Account.chargeAll_of_room room) ledger
  refine ⟨fresh, opened, copy, after, blank, read, decide_eq_true same, ?_⟩
  rw [same]
  exact ⟨Iff.rfl, Iff.rfl, Iff.rfl⟩

def sending : List Session.Step :=
  Tablet.succession ++
    [.makePlaceholderSchema "h" "a", .makeQueue "q", .sendTablet "p" "u" "h" "q"]

def sentSuccessor : TransferParameter where
  arena := ⟨1⟩
  settings := {}
  snapshot := snapshotOf Tablet.successor.descriptor.toDescriptorBody .placeholder {}

theorem reachable_sentSuccessor : Session.Object.Reachable (.parameter sentSuccessor) :=
  ⟨sending, "p", rfl⟩

theorem write_sentSuccessor {buffer : List UInt8} {position : Nat}
    (room : position + 362 ≤ buffer.length) :
    ∃ buffer', sentSuccessor.write buffer position = .ok (buffer', position + 362) :=
  ⟨_, write_eq_ok_iff.mpr ⟨rfl, _, Wire.Record.write_eq_ok_iff.mpr
    ⟨⟨by decide, by decide, room⟩, rfl, rfl, rfl⟩⟩⟩

theorem blank_read_of_write_sentSuccessor :
    Session.Object.Reachable (.parameter sentSuccessor) ∧
      ∃ buffer, sentSuccessor.write (List.replicate 400 0) 3 = .ok (buffer, 365) ∧
        ∃ fresh opened copy after, blank {} .empty = .ok fresh opened ∧
          fresh.read buffer 3 opened = .ok (copy, 365) after ∧ copy.same sentSuccessor := by
  have written : ∃ buffer, sentSuccessor.write (List.replicate 400 0) 3 = .ok (buffer, 365) := by
    refine ⟨_, write_eq_ok_iff.mpr ⟨rfl, _, Wire.Record.write_eq_ok_iff.mpr
      ⟨⟨by decide, by decide, ?_⟩, rfl, rfl, rfl⟩⟩⟩
    rw [List.length_replicate]
    decide
  obtain ⟨buffer, written⟩ := written
  obtain ⟨fresh, opened, copy, after, blank, read, same, -⟩ :=
    blank_read_of_write reachable_sentSuccessor written .empty
  exact ⟨reachable_sentSuccessor, buffer, written, fresh, opened, copy, after, blank, read, same⟩

end TransferParameter

end TabletRecords
