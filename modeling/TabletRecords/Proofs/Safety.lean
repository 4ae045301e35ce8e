import TabletRecords.Proofs.Parameter.Operations
import TabletRecords.Proofs.Tablet.Name
import TabletRecords.Proofs.Wire.Decoders
import TabletRecords.Proofs.Wire.Guarded

/-!
Safety. Here are the reads of tablets, transfer parameters and names with all their traps. Whatever
the bytes are, and wherever in them a read starts, no trap is sprung: each read has an answer, and a
position that it answers is past a whole header and within the buffer.
-/
namespace TabletRecords

open Arena (ArenaId Ledger heldAt)
open Outcome
open Wire (Checked Format Guarded Header)

namespace Charging

variable {α β : Type} (format : Format α) [format.Decodes]

def guardedIntake (arena : ArenaId) (body : List UInt8) (next : α → Charging β) (ledger : Ledger) :
    Checked (EStateM.Result Fault Ledger β) := do
  let read : Guarded α := do
    let value ← Guarded.exec body (Format.Decodes.decoder format)
    Guarded.finished body
    return value
  match ← read { position := 0, account := ledger.account arena } with
  | (.error error, place) => return .error (.ofIntake error) (ledger.set arena place.undone)
  | (.ok value, place) =>
      match next value (ledger.set arena place.account) with
      | .ok result ledger => return .ok result ledger
      | .error fault ledger => return .error fault (ledger.release arena place.charged)

def guardedRecord (version : Int32) (most : Nat) (arena : ArenaId) (buffer : List UInt8)
    (position : Nat) (next : Header → α → Charging β) (ledger : Ledger) :
    Checked (EStateM.Result Fault Ledger (β × Nat)) := do
  match ← Guarded.readRecord version most buffer position with
  | .error error => return .error (.ofIntake error) ledger
  | .ok (header, body) =>
      match ← guardedIntake format arena body (next header) ledger with
      | .error fault ledger => return .error fault ledger
      | .ok result ledger =>
          let stop ← Checked.add position (← Guarded.length header)
          return .ok (result, stop) ledger

theorem guardedIntake_eq {arena : ArenaId} {body : List UInt8} (addressable : body.length ≤ Wire.sizeMax)
    (next : α → Charging β) (ledger : Ledger) :
    guardedIntake format arena body next ledger =
      .ok (intake (Wire.Record.body format) arena body next ledger) := by
  have simulates : Guarded.Simulates body (do
      let value ← Guarded.exec body (Format.Decodes.decoder format)
      Guarded.finished body
      return value) (Wire.Record.body format) := by
    rw [Wire.Record.body, ← Format.Decodes.run_decoder]
    refine (Guarded.exec_simulates addressable _).bind fun value => ?_
    exact Guarded.finished_simulates.bind fun _ => Guarded.pure_simulates value
  obtain ⟨answer, place, done, -, same⟩ :=
    simulates { position := 0, account := ledger.account arena } (Nat.zero_le _)
  replace same : Wire.Record.body format { cursor := .start body, account := ledger.account arena } =
      Guarded.outcome answer (place.state body) := same
  simp only [guardedIntake, done, intake, same]
  cases answer with
  | error error => rfl
  | ok value =>
    simp only [except_ok_bind, Guarded.outcome, Wire.Place.state]
    cases next value (ledger.set arena place.account) <;> rfl

theorem guardedRecord_eq {buffer : List UInt8} (addressable : buffer.length ≤ Wire.sizeMax)
    (version : Int32) (most : Nat) (arena : ArenaId) (position : Nat)
    (next : Header → α → Charging β) (ledger : Ledger) :
    guardedRecord format version most arena buffer position next ledger =
      .ok (readRecord format version most arena buffer position
        (fun header value => (·, position + header.size) <$> next header value) ledger) := by
  rw [guardedRecord, Guarded.readRecord_eq addressable]
  unfold readRecord
  cases taken : Wire.Record.read version most buffer position with
  | error error => rfl
  | ok record =>
    obtain ⟨header, body⟩ := record
    obtain ⟨⟨-, nonneg, -, size⟩, -⟩ := Wire.Record.read_eq_ok_iff.mp taken
    have room := Wire.Record.end_le_of_read taken
    have stop : Checked.add position header.size = .ok (position + header.size) :=
      if_pos (Nat.le_trans room addressable)
    show (guardedIntake format arena body (next header) ledger >>= _) =
      Except.ok (intake _ arena body (fun value => (·, position + header.size) <$> _) ledger)
    rw [guardedIntake_eq format (by omega), intake_map]
    simp only [except_ok_bind, Guarded.length_eq_ok nonneg, stop]
    show _ = Except.ok (EStateM.map _ (intake _ arena body (next header)) ledger)
    unfold EStateM.map
    cases intake (Wire.Record.body format) arena body (next header) ledger <;> rfl

/-- A read from a position of a buffer is safe with a ledger and with what its receiver holds. With
all traps in place it answers the same as without, no account gives back more than is held against
it, and a position that is answered is past a whole header and within the buffer. -/
structure Safe {α : Type} (read : Charging (α × Nat))
    (guarded : Ledger → Checked (EStateM.Result Fault Ledger (α × Nat)))
    (held : List (ArenaId × Nat)) (buffer : List UInt8) (position : Nat) (ledger : Ledger) : Prop where
  answers : guarded ledger = .ok (read ledger)
  solvent_of_ok : ∀ result after, read ledger = .ok result after → ∀ arena,
    (ledger.account arena).overdrawn = false → heldAt arena held ≤ ledger.used arena →
      (after.account arena).overdrawn = false
  unchanged_of_error : ∀ fault after, read ledger = .error fault after → after = ledger
  bounds : ∀ result position' after, read ledger = .ok (result, position') after →
    position + Wire.headerSize ≤ position' ∧ position' ≤ buffer.length

end Charging

namespace Tablet

def guardedRead (tablet : Tablet) (settings : Settings) (arena : ArenaId) (buffer : List UInt8)
    (position : Nat) (ledger : Ledger) : Checked (EStateM.Result Fault Ledger (Tablet × Nat)) :=
  if tablet.isInitialized then return .error .initializedTwice ledger
  else
    Charging.guardedRecord DescriptorBody.format Descriptor.currentVersion settings.recordLimit arena
      buffer position (fun header body => do
        let descriptor : Descriptor := { header with toDescriptorBody := body }
        if body.isValid then return initialized descriptor arena
        else throw (.malformed (.corrupt (.broken .descriptor (descriptor.markedTree true))))) ledger

theorem guardedRead_eq {buffer : List UInt8} (addressable : buffer.length ≤ Wire.sizeMax)
    (tablet : Tablet) (settings : Settings) (arena : ArenaId) (position : Nat) (ledger : Ledger) :
    tablet.guardedRead settings arena buffer position ledger =
      .ok (tablet.read settings arena buffer position ledger) := by
  unfold guardedRead read
  by_cases ready : tablet.isInitialized
  · rw [if_pos ready, if_pos ready]
    rfl
  rw [if_neg ready, if_neg ready, Charging.guardedRecord_eq _ addressable]
  congr 2
  funext header body
  cases body.isValid <;> rfl

theorem read_safe {buffer : List UInt8} (addressable : buffer.length ≤ Wire.sizeMax) (position : Nat)
    (tablet : Tablet) (settings : Settings) (arena : ArenaId) (ledger : Ledger) :
    Charging.Safe (tablet.read settings arena buffer position)
      (tablet.guardedRead settings arena buffer position) (tablet.held.charges DescriptorBody.format)
      buffer position ledger where
  answers := guardedRead_eq addressable tablet settings arena position ledger
  solvent_of_ok := by
    rintro ⟨copy, position'⟩ after done other covered -
    obtain ⟨-, _, _, _, -, ⟨-, -, fits⟩, -, -, rfl⟩ := read_eq_ok_iff.mp done
    exact (Ledger.Posting.of_chargeAll fits).solvent other covered (Nat.zero_le _)
  unchanged_of_error := (read_accounts tablet settings arena buffer position).restores ledger
  bounds := by
    intro copy position' after done
    obtain ⟨-, header, body, -, stands, -, -, rfl, -⟩ := read_eq_ok_iff.mp done
    exact ⟨stands.headerSize_le, stands.end_le DescriptorBody.format_lawful⟩

def guardedReadName (buffer : List UInt8) (position : Nat) :
    Checked (Except Fault (TabletName × Nat)) := do
  let settings : Settings := {}
  match ← Guarded.readRecord Descriptor.currentVersion settings.recordLimit buffer position with
  | .error error => return .error (.ofIntake error)
  | .ok (_, body) =>
      let names := Guarded.exec body (Format.Decodes.decoder DescriptorBody.namesFormat)
      match ← names { position := 0, account := { label := "" } } with
      | (.error error, _) => return .error (.ofIntake error)
      | (.ok (logStreamId, tabletId), place) =>
          let stop ← Checked.add position (← Checked.add Wire.headerSize place.position)
          return .ok (⟨logStreamId, tabletId⟩, stop)

theorem guardedReadName_eq {buffer : List UInt8} (addressable : buffer.length ≤ Wire.sizeMax)
    (position : Nat) : guardedReadName buffer position = .ok (readName buffer position) := by
  rw [guardedReadName, Guarded.readRecord_eq addressable, readName]
  cases taken : Wire.Record.read Descriptor.currentVersion ({} : Settings).recordLimit buffer
      position with
  | error error => rfl
  | ok record =>
    obtain ⟨header, body⟩ := record
    have room := Wire.Record.end_le_of_read taken
    obtain ⟨⟨-, -, -, size⟩, -⟩ := Wire.Record.read_eq_ok_iff.mp taken
    have simulates := Guarded.exec_simulates (by omega : body.length ≤ Wire.sizeMax)
      (Format.Decodes.decoder DescriptorBody.namesFormat)
    rw [Format.Decodes.run_decoder] at simulates
    obtain ⟨answer, place, done, within, same⟩ :=
      simulates { position := 0, account := { label := "" } } (Nat.zero_le _)
    replace same : DescriptorBody.namesFormat.read
        { cursor := .start body, account := { label := "" } } =
          Guarded.outcome answer (place.state body) := same
    simp only [except_ok_bind, mapError_ok, done, same]
    cases answer with
    | error error => rfl
    | ok names =>
      have least : Checked.add Wire.headerSize place.position =
          .ok (Wire.headerSize + place.position) := if_pos (by omega)
      have stop : Checked.add position (Wire.headerSize + place.position) =
          .ok (position + (Wire.headerSize + place.position)) := if_pos (by omega)
      simp only [except_ok_bind, least, stop, ← Nat.add_assoc]
      rfl

theorem bounds_of_readName {buffer : List UInt8} {position position' : Nat} {name : TabletName}
    (done : readName buffer position = .ok (name, position')) :
    position + Wire.headerSize ≤ position' ∧ position' ≤ buffer.length := by
  unfold readName at done
  dsimp only at done
  split at done
  · cases done
  next header body taken =>
    split at done
    · cases done
    next names state read =>
      cases done
      have room := Wire.Record.end_le_of_read taken
      obtain ⟨⟨-, -, -, size⟩, -⟩ := Wire.Record.read_eq_ok_iff.mp taken
      obtain ⟨-, ⟨rest, moved⟩, -, -⟩ := DescriptorBody.namesFormat_lawful.read_eq_ok_iff.mp read
      have fits : body.length = _ := (congrArg List.length rest).trans List.length_append
      replace moved : state.cursor.position = 0 + _ := moved
      omega

end Tablet

namespace TransferParameter

def guardedRead (parameter : TransferParameter) (buffer : List UInt8) (position : Nat)
    (ledger : Ledger) : Checked (EStateM.Result Fault Ledger (TransferParameter × Nat)) :=
  Charging.guardedRecord Snapshot.format Snapshot.currentVersion parameter.settings.recordLimit
    parameter.arena buffer position (fun _ snapshot => do
      let ledger ← get
      if snapshot.isValid then
        Charging.drop Snapshot.format parameter.held
        return { parameter with snapshot }
      else
        throw (.malformed (.corrupt
          (.broken .snapshot (snapshot.treeIn (ledger.account parameter.arena)))))) ledger

theorem guardedRead_eq {buffer : List UInt8} (addressable : buffer.length ≤ Wire.sizeMax)
    (parameter : TransferParameter) (position : Nat) (ledger : Ledger) :
    parameter.guardedRead buffer position ledger = .ok (parameter.read buffer position ledger) := by
  rw [guardedRead, read, Charging.guardedRecord_eq _ addressable]
  congr 2
  funext header snapshot
  cases snapshot.isValid <;> rfl

theorem read_safe {buffer : List UInt8} (addressable : buffer.length ≤ Wire.sizeMax) (position : Nat)
    (parameter : TransferParameter) (ledger : Ledger) :
    Charging.Safe (parameter.read buffer position) (parameter.guardedRead buffer position)
      (parameter.held.charges Snapshot.format) buffer position ledger where
  answers := guardedRead_eq addressable parameter position ledger
  solvent_of_ok := by
    rintro ⟨copy, position'⟩ after done other covered held
    obtain ⟨_, _, _, -, ⟨-, -, fits⟩, -, -, rfl⟩ := read_eq_ok_iff.mp done
    refine ((Ledger.Posting.of_chargeAll fits).releaseAll _).solvent other covered ?_
    exact Nat.le_trans held (Nat.le_add_right _ _)
  unchanged_of_error := (read_accounts parameter buffer position).restores ledger
  bounds := by
    intro copy position' after done
    obtain ⟨header, snapshot, -, stands, -, -, rfl, -⟩ := read_eq_ok_iff.mp done
    exact ⟨stands.headerSize_le, stands.end_le Snapshot.format_lawful⟩

end TransferParameter

/-- Reading untrusted bytes is safe. For every buffer that can be addressed, every position, and
whatever reads there under whatever settings into whatever arena, the read with traps has the answer
of the read without; no account is overdrawn; and where the read succeeds it has moved past a
header, and not past the end of the buffer. -/
theorem reads_are_safe {buffer : List UInt8} (addressable : buffer.length ≤ Wire.sizeMax)
    (position : Nat) :
    (∀ (tablet : Tablet) (settings : Settings) (arena : ArenaId) (ledger : Ledger),
      Charging.Safe (tablet.read settings arena buffer position)
        (tablet.guardedRead settings arena buffer position) (tablet.held.charges DescriptorBody.format)
        buffer position ledger) ∧
    (∀ (parameter : TransferParameter) (ledger : Ledger),
      Charging.Safe (parameter.read buffer position) (parameter.guardedRead buffer position)
        (parameter.held.charges Snapshot.format) buffer position ledger) ∧
    Tablet.guardedReadName buffer position = .ok (Tablet.readName buffer position) ∧
    ∀ name position', Tablet.readName buffer position = .ok (name, position') →
      position + Wire.headerSize ≤ position' ∧ position' ≤ buffer.length :=
  ⟨Tablet.read_safe addressable position, TransferParameter.read_safe addressable position,
    Tablet.guardedReadName_eq addressable position, fun _ _ => Tablet.bounds_of_readName⟩

def garbage : List UInt8 := List.replicate 9 255

theorem reads_are_safe_garbage :
    garbage.length ≤ Wire.sizeMax ∧
      Tablet.uninitialized.guardedRead {} ⟨0⟩ garbage Wire.sizeMax .empty =
        .ok (.error (.malformed (.tooSmall Wire.sizeMax 9)) .empty) ∧
      (TransferParameter.mk ⟨0⟩ {} {}).guardedRead garbage 7 .empty =
        .ok (.error (.malformed (.tooSmall 4 2)) .empty) ∧
      Tablet.guardedReadName garbage 0 = .ok (.error (.malformed (.unexpectedVersion 1 (-1)))) := by
  have addressable : garbage.length ≤ Wire.sizeMax := by decide
  obtain ⟨tablets, -⟩ := reads_are_safe addressable Wire.sizeMax
  obtain ⟨-, parameters, -⟩ := reads_are_safe addressable 7
  obtain ⟨-, -, names, -⟩ := reads_are_safe addressable 0
  refine ⟨addressable, ?_, ?_, ?_⟩
  · exact (tablets .uninitialized {} ⟨0⟩ .empty).answers.trans rfl
  · exact (parameters _ .empty).answers.trans rfl
  · exact names.trans rfl

end TabletRecords
