import TabletRecords.Proofs.Parameter.RoundTrip
import TabletRecords.Proofs.Session.Failure
import TabletRecords.Proofs.Tablet.RoundTrip
import TabletRecords.Proofs.Wire.Damage
import TabletRecords.Proofs.Wire.Decoders

/-!
Detection of damage. Where the record of a tablet or of a transfer parameter is cut short, or has
another version or another length, the read of it fails, and it leaves no trace.
-/
namespace TabletRecords

open Arena (Account ArenaId Ledger)
open Wire (Error Format Header)
open Wire.Record (Stands splice)

/-- A record from `start` to `stop` in a buffer, with a version and a length, is refused where its
framing is damaged. An end that is cut off is missed. Another version is found, and both are named.
No other length is taken, however near it is to the own one and whatever bytes it reaches over. -/
structure Detects (refuses : List UInt8 → Fault → Prop) (version length : Int32) (buffer : List UInt8)
    (start stop : Nat) : Prop where
  truncated : ∀ cut, start ≤ cut → cut < stop →
    ∃ needed remaining, refuses (buffer.take cut) (.malformed (.tooSmall needed remaining))
  version : ∀ other, other ≠ version →
    refuses (splice buffer start (Format.int32.bytes other))
      (.malformed (.unexpectedVersion version other))
  length : ∀ other, other ≠ length →
    ∃ error, refuses (splice buffer (start + 4) (Format.int32.bytes other)) (.malformed error)

theorem Detects.mono {refuses refuses' : List UInt8 → Fault → Prop} {version length : Int32}
    {buffer : List UInt8} {start stop : Nat} (detects : Detects refuses version length buffer start stop)
    (weaker : ∀ damaged fault, refuses damaged fault → refuses' damaged fault) :
    Detects refuses' version length buffer start stop where
  truncated cut within short := by
    obtain ⟨needed, remaining, refused⟩ := detects.truncated cut within short
    exact ⟨needed, remaining, weaker _ _ refused⟩
  version other different := weaker _ _ (detects.version other different)
  length other different := by
    obtain ⟨error, refused⟩ := detects.length other different
    exact ⟨error, weaker _ _ refused⟩

namespace Charging

variable {α β : Type} {format : Format α} {legal : α → Prop} {version : Int32} {most : Nat}
  {arena : ArenaId} {next : Header → α → Charging β} {ledger : Ledger} {position : Nat}

theorem readRecord_eq_error_of_read {damaged : List UInt8} {error : Error}
    (refused : Wire.Record.read version most damaged position = .error error) :
    readRecord format version most arena damaged position next ledger =
      .error (.malformed error) ledger := by
  unfold readRecord
  rw [refused]
  rfl

theorem readRecord_eq_error_of_body {damaged body : List UInt8} {header : Header} {error : Error}
    {after : Wire.IntakeState}
    (taken : Wire.Record.read version most damaged position = .ok (header, body))
    (refused : Wire.Record.body format { cursor := .start body, account := ledger.account arena } =
      .error (.wire error) after) :
    readRecord format version most arena damaged position next ledger =
      .error (.malformed error) (ledger.set arena after.undone) := by
  unfold readRecord
  simp only [taken, intake, refused]
  rfl

theorem detects_of_stands [format.Decodes] (lawful : format.Lawful legal)
    {read : List UInt8 → Charging β}
    (read_eq : ∀ bytes, read bytes = readRecord format version most arena bytes position next)
    (restores : ∀ bytes, Restores (read bytes)) {header : Header} {value : α} {buffer : List UInt8}
    (stands : Stands format version most header value buffer position) (hlegal : legal value)
    {account : Account}
    (fits : (ledger.account arena).chargeAll (format.charges value) = .ok account) :
    Detects (fun damaged fault => read damaged ledger = .error fault ledger) version header.length buffer
      position (position + header.size) where
  truncated cut within short := by
    obtain ⟨needed, remaining, refused⟩ := stands.read_truncated within short
    refine ⟨needed, remaining, ?_⟩
    rw [read_eq, readRecord_eq_error_of_read refused]
  version other different := by
    rw [read_eq, readRecord_eq_error_of_read (stands.read_of_version different)]
  length other different := by
    rcases stands.read_of_length lawful different with ⟨error, refused⟩ | ⟨body, taken, resized⟩
    · refine ⟨error, ?_⟩
      rw [read_eq, readRecord_eq_error_of_read refused]
    · obtain ⟨error, after, refused⟩ := Wire.Record.body_of_resized lawful hlegal fits resized
      -- The body may have been charged in part before it was refused.
      have failed := (congrFun (read_eq _) ledger).trans (readRecord_eq_error_of_body taken refused)
      exact ⟨error, failed.trans (congrArg _ (restores _ _ _ _ failed))⟩

end Charging

/-- A record in some bytes is refused by a tablet: the read of it fails and leaves the ledger as it
was, and a step that reads it answers with the fault and leaves the session as it was. -/
structure Tablet.Refuses (settings : Settings) (arena : ArenaId) (position : Nat) (ledger : Ledger)
    (bytes : List UInt8) (fault : Fault) : Prop where
  read : uninitialized.read settings arena bytes position ledger = .error fault ledger
  step : ∀ (session : Session) (name arenaName bufferName : String), session.ledger = ledger →
    session.find? name = some (.tablet .uninitialized) →
    (session.find? arenaName).bind Session.Object.arena? = some arena →
    session.find? bufferName = some (.buffer bytes) →
      session.step (.readTablet name arenaName bufferName position settings) =
        (.error (.fault fault), session)

structure TransferParameter.Refuses (receiver : TransferParameter) (position : Nat) (ledger : Ledger)
    (bytes : List UInt8) (fault : Fault) : Prop where
  read : receiver.read bytes position ledger = .error fault ledger
  step : ∀ (session : Session) (name bufferName : String), session.ledger = ledger →
    session.find? name = some (.parameter receiver) →
    session.find? bufferName = some (.buffer bytes) →
      session.step (.readParameter name bufferName position) = (.error (.fault fault), session)

theorem Tablet.refuses_of_read {settings : Settings} {arena : ArenaId} {position : Nat}
    {ledger : Ledger} {bytes : List UInt8} {fault : Fault}
    (failed : uninitialized.read settings arena bytes position ledger = .error fault ledger) :
    Refuses settings arena position ledger bytes fault where
  read := failed
  step := by
    rintro session name arenaName bufferName rfl target payer source
    exact Session.step_readTablet_eq_error target payer source failed

theorem TransferParameter.refuses_of_read {receiver : TransferParameter} {position : Nat}
    {ledger : Ledger} {bytes : List UInt8} {fault : Fault}
    (failed : receiver.read bytes position ledger = .error fault ledger) :
    receiver.Refuses position ledger bytes fault where
  read := failed
  step := by
    rintro session name bufferName rfl target source
    exact Session.step_readParameter_eq_error target source failed

theorem Tablet.refuses_damaged {tablet : Tablet} {settings reader : Settings}
    {buffer buffer' : List UInt8} {position position' : Nat} {arena : ArenaId} {ledger : Ledger}
    (reachable : Session.Object.Reachable (.tablet tablet))
    (written : tablet.write settings buffer position = .ok (buffer', position'))
    (limit : settings.recordLimit ≤ reader.recordLimit)
    (room : ledger.used arena + 16 * tablet.descriptor.autoincrement.intervals.length +
      8 * tablet.descriptor.binding.hiddenTabletIds.length ≤ (ledger.account arena).limit) :
    Detects (Refuses reader arena position ledger) Descriptor.currentVersion
      (Int32.ofNat tablet.recordSize) buffer' position position' := by
  obtain ⟨descriptor, payer, rfl, sound, stands, moved⟩ := stands_of_write reachable written
  have fits : ledger.used arena + Arena.total
      (DescriptorBody.format.charges descriptor.toDescriptorBody) ≤ (ledger.account arena).limit :=
    DescriptorBody.room_iff.mpr room
  have length : Int32.ofNat (initialized descriptor payer).recordSize = descriptor.toHeader.length :=
    (congrArg Header.length sound.toHeader_eq).symm
  rw [length, moved, ← sound.size_toHeader]
  exact (Charging.detects_of_stands DescriptorBody.format_lawful
    (fun bytes => if_neg Bool.false_ne_true)
    (fun bytes => (read_accounts uninitialized reader arena bytes position).restores)
    (stands.mono limit) sound.legal (Account.chargeAll_of_room fits)).mono
      fun damaged fault failed => refuses_of_read failed

theorem TransferParameter.refuses_damaged {parameter receiver : TransferParameter}
    {buffer buffer' : List UInt8} {position position' : Nat} {ledger : Ledger}
    (reachable : Session.Object.Reachable (.parameter parameter))
    (written : parameter.write buffer position = .ok (buffer', position'))
    (limit : parameter.settings.recordLimit ≤ receiver.settings.recordLimit)
    (room : ledger.used receiver.arena + Snapshot.format.footprint parameter.snapshot ≤
      (ledger.account receiver.arena).limit) :
    Detects (receiver.Refuses position ledger) Snapshot.currentVersion
      (Int32.ofNat parameter.snapshot.recordSize) buffer' position position' := by
  obtain ⟨session, sound, name, found⟩ := reachable.sound
  obtain ⟨⟨legal, -⟩, stands, moved⟩ := stands_of_write (sound.find? found).valid written
  have stop : position' = position + Header.size _ := moved.trans (congrArg _ stands.size.symm)
  rw [stop]
  exact (Charging.detects_of_stands Snapshot.format_lawful (fun bytes => rfl)
    (fun bytes => (read_accounts receiver bytes position).restores)
    (stands.mono limit) legal (Account.chargeAll_of_room room)).mono
      fun damaged fault failed => refuses_of_read failed

/-- Damage to the framing of a record is always detected. Wherever a reachable tablet or a reachable
parameter is written into a buffer, a reader that takes records as long and has room for the lists
of this one refuses it once its end is cut off, its version is another one or its length is another
one. The reader, its position and all accounts are what they were. -/
theorem damage_is_detected :
    (∀ (tablet : Tablet) (settings : Settings) (buffer buffer' : List UInt8) (position position' : Nat),
      Session.Object.Reachable (.tablet tablet) →
      tablet.write settings buffer position = .ok (buffer', position') →
      ∀ (reader : Settings) (arena : ArenaId) (ledger : Ledger),
        settings.recordLimit ≤ reader.recordLimit →
        ledger.used arena + 16 * tablet.descriptor.autoincrement.intervals.length +
          8 * tablet.descriptor.binding.hiddenTabletIds.length ≤ (ledger.account arena).limit →
        Detects (Tablet.Refuses reader arena position ledger) Descriptor.currentVersion
          (Int32.ofNat tablet.recordSize) buffer' position position') ∧
    ∀ (parameter : TransferParameter) (buffer buffer' : List UInt8) (position position' : Nat),
      Session.Object.Reachable (.parameter parameter) →
      parameter.write buffer position = .ok (buffer', position') →
      ∀ (receiver : TransferParameter) (ledger : Ledger),
        parameter.settings.recordLimit ≤ receiver.settings.recordLimit →
        ledger.used receiver.arena + Snapshot.format.footprint parameter.snapshot ≤
          (ledger.account receiver.arena).limit →
        Detects (receiver.Refuses position ledger) Snapshot.currentVersion
          (Int32.ofNat parameter.snapshot.recordSize) buffer' position position' := by
  constructor
  · intro tablet settings buffer buffer' position position' reachable written reader arena ledger
    exact Tablet.refuses_damaged reachable written
  · intro parameter buffer buffer' position position' reachable written receiver ledger
    exact TransferParameter.refuses_damaged reachable written

def roomy : Ledger := ⟨fun _ => { label := "", limit := 128 }, 2⟩

theorem damage_is_detected_roomy :
    (Session.Object.Reachable (.tablet Tablet.successor) ∧
      Session.Object.Reachable (.parameter TransferParameter.sentSuccessor)) ∧
    (∃ buffer, Tablet.successor.write {} (List.replicate 300 0) 5 = .ok (buffer, 257) ∧
      (∃ needed remaining, Tablet.Refuses {} ⟨0⟩ 5 roomy (buffer.take 256)
        (.malformed (.tooSmall needed remaining))) ∧
      Tablet.Refuses {} ⟨0⟩ 5 roomy (splice buffer 5 (Format.int32.bytes 2))
        (.malformed (.unexpectedVersion 1 2))) ∧
    ∃ buffer, TransferParameter.sentSuccessor.write (List.replicate 400 0) 3 = .ok (buffer, 365) ∧
      ∃ error, TransferParameter.Refuses ⟨⟨1⟩, {}, {}⟩ 3 roomy
        (splice buffer 7 (Format.int32.bytes 363)) (.malformed error) := by
  obtain ⟨tablets, parameters⟩ := damage_is_detected
  have written : ∀ zero : List UInt8, zero.length = 300 →
      ∃ buffer, Tablet.successor.write {} zero 5 = .ok (buffer, 257) :=
    fun zero length => Tablet.write_successor (by omega)
  have sent : ∀ zero : List UInt8, zero.length = 400 →
      ∃ buffer, TransferParameter.sentSuccessor.write zero 3 = .ok (buffer, 365) :=
    fun zero length => TransferParameter.write_sentSuccessor (by omega)
  refine ⟨⟨Tablet.reachable_successor, TransferParameter.reachable_sentSuccessor⟩, ?_, ?_⟩
  · obtain ⟨buffer, written⟩ := written _ List.length_replicate
    have detects := tablets _ _ _ _ _ _ Tablet.reachable_successor written {} ⟨0⟩ roomy (Nat.le_refl _)
      (by decide)
    exact ⟨buffer, written, detects.truncated 256 (by decide) (by decide),
      detects.version 2 (by decide)⟩
  · obtain ⟨buffer, written⟩ := sent _ List.length_replicate
    have detects := parameters _ _ _ _ _ TransferParameter.reachable_sentSuccessor written
      ⟨⟨1⟩, {}, {}⟩ roomy (Nat.le_refl _) (by decide)
    exact ⟨buffer, written, detects.length 363 (by decide)⟩

end TabletRecords
