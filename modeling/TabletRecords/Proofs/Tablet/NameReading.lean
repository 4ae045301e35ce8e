import TabletRecords.Proofs.Damage
import TabletRecords.Proofs.Tablet.Name

/-!
Names and whole tablets. Reading the names alone agrees with reading the tablet: the same names are
found, under a limit of their own on the record, and a record whose names cannot be read is refused
as a tablet with the same fault. The position moves only where the names are found.
-/
namespace TabletRecords

open Arena (Account ArenaId Ledger)
open Outcome
open Wire (Format Header Intake IntakeError IntakeState)

theorem Wire.Record.read_mono {version : Int32} {most most' position : Nat} {buffer body : List UInt8}
    {header : Header} (taken : read version most buffer position = .ok (header, body))
    (higher : most ≤ most') : read version most' buffer position = .ok (header, body) := by
  obtain ⟨⟨known, nonneg, limit, size⟩, found⟩ := read_eq_ok_iff.mp taken
  exact read_eq_ok_iff.mpr ⟨⟨known, nonneg, Nat.le_trans limit higher, size⟩, found⟩

theorem Wire.Format.read_map_pair {α β γ δ : Type} (first : Format α) (second : Format β)
    (rest : Format γ) (pack : α × β × γ → δ) (unpack : δ → α × β × γ) :
    ((first.pair (second.pair rest)).map pack unpack).read =
      (first.pair second).read >>= fun pair =>
        rest.read >>= fun last => pure (pack (pair.1, pair.2, last)) := by
  simp only [map, refine, pair, bind_assoc, pure_bind]

namespace DescriptorBody

theorem namesFormat_read : namesFormat.read =
    Intake.ofReader (do return (⟨← Wire.Reader.int64⟩, ⟨← Wire.Reader.uint64⟩)) := by
  simp only [Intake.ofReader_bind, namesFormat, Format.pair, LogStreamId.format, TabletId.format,
    Format.map, Format.refine, bind_assoc, pure_bind]
  rfl

/-- Whatever is read of a body, its names are read first. -/
theorem read_names_first : ∃ later, format.read = namesFormat.read >>= later :=
  ⟨_, Format.read_map_pair ..⟩

end DescriptorBody

theorem Wire.Intake.ofReader_eq_error_iff {α : Type} {read : Wire.Reader α} {before after : IntakeState}
    {error : IntakeError} :
    ofReader read before = .error error after ↔
      ∃ cause cursor, read before.cursor = .error cause cursor ∧ error = .wire cause ∧
        after = { before with cursor } := by
  unfold ofReader
  cases read before.cursor with
  | ok value cursor => simp
  | error cause cursor =>
    constructor
    · intro h
      cases h
      exact ⟨cause, cursor, rfl, rfl, rfl⟩
    · rintro ⟨_, _, h, rfl, rfl⟩
      cases h
      rfl

theorem DescriptorBody.body_eq_error_of_names {content : List UInt8} {account : Account}
    {error : IntakeError} {state : IntakeState}
    (failed : namesFormat.read { cursor := .start content, account } = .error error state) :
    ∃ cause, error = .wire cause ∧ ∀ account', ∃ after,
      Wire.Record.body format { cursor := .start content, account := account' } =
        .error (.wire cause) after := by
  rw [namesFormat_read, Intake.ofReader_eq_error_iff] at failed
  obtain ⟨cause, cursor, failed, rfl, -⟩ := failed
  refine ⟨cause, rfl, fun account' => ?_⟩
  have names : namesFormat.read { cursor := .start content, account := account' } =
      .error (.wire cause) { cursor, account := account' } := by
    rw [namesFormat_read, Intake.ofReader_eq_error_iff]
    exact ⟨cause, cursor, failed, rfl, rfl⟩
  obtain ⟨later, first⟩ := read_names_first
  rw [Wire.Record.body, first, bind_assoc]
  exact ⟨_, bind_eq_of_error names⟩

namespace Tablet

variable {buffer : List UInt8} {position : Nat}

/-- The names in the record at the position of a buffer, which is moved past them in the end. -/
def passName (buffer : List UInt8) : EStateM Fault Nat TabletName := do
  let position ← get
  match Wire.Record.read Descriptor.currentVersion ({} : Settings).recordLimit buffer position with
  | .error error => throw (.malformed error)
  | .ok (_, body) =>
      match DescriptorBody.namesFormat.read
          { cursor := .start body, account := { label := "" } } with
      | .error error _ => throw (.ofIntake error)
      | .ok (logStreamId, tabletId) state =>
          modify (· + (Wire.headerSize + state.cursor.position))
          return ⟨logStreamId, tabletId⟩

theorem passName_eq (buffer : List UInt8) (position : Nat) :
    passName buffer position =
      match readName buffer position with
      | .ok (name, stop) => .ok name stop
      | .error fault => .error fault position := by
  refine (bind_eq_of_ok (get_apply position)).trans ?_
  unfold readName
  dsimp only
  cases Wire.Record.read Descriptor.currentVersion ({} : Settings).recordLimit buffer position with
  | error error => rfl
  | ok record =>
    obtain ⟨header, body⟩ := record
    dsimp only
    cases DescriptorBody.namesFormat.read { cursor := .start body, account := { label := "" } } with
    | error error state => rfl
    | ok names state =>
      show EStateM.Result.ok _ (position + (Wire.headerSize + state.cursor.position)) = _
      rw [← Nat.add_assoc]
      rfl

theorem read_eq_error_of_readName {fault : Fault} (failed : readName buffer position = .error fault) :
    ∃ cause, fault = .malformed cause ∧ ∀ arena ledger,
      uninitialized.read {} arena buffer position ledger = .error (.malformed cause) ledger := by
  unfold readName at failed
  dsimp only at failed
  cases taken : Wire.Record.read Descriptor.currentVersion ({} : Settings).recordLimit buffer
      position with
  | error cause =>
    rw [taken] at failed
    cases failed
    exact ⟨cause, rfl, fun arena ledger => (congrFun (if_neg Bool.false_ne_true) ledger).trans
      (Charging.readRecord_eq_error_of_read taken)⟩
  | ok record =>
    obtain ⟨header, body⟩ := record
    cases names : DescriptorBody.namesFormat.read
        { cursor := .start body, account := { label := "" } } with
    | ok pair state =>
      simp only [taken, names] at failed
      cases failed
    | error error state =>
      simp only [taken, names] at failed
      cases failed
      obtain ⟨cause, rfl, refused⟩ := DescriptorBody.body_eq_error_of_names names
      refine ⟨cause, rfl, fun arena ledger => ?_⟩
      obtain ⟨after, refused⟩ := refused (ledger.account arena)
      have stopped : uninitialized.read {} arena buffer position ledger =
          .error (.malformed cause) (ledger.set arena after.undone) :=
        (congrFun (if_neg Bool.false_ne_true) ledger).trans
          (Charging.readRecord_eq_error_of_body taken refused)
      have restored := (read_accounts uninitialized {} arena buffer position).restores _ _ _ stopped
      rw [stopped, restored]

theorem record_of_readName {name : TabletName} {stop : Nat}
    (found : readName buffer position = .ok (name, stop)) :
    ∃ header body, Wire.Record.read Descriptor.currentVersion ({} : Settings).recordLimit buffer
      position = .ok (header, body) := by
  unfold readName at found
  dsimp only at found
  cases taken : Wire.Record.read Descriptor.currentVersion ({} : Settings).recordLimit buffer
      position with
  | error cause =>
    rw [taken] at found
    cases found
  | ok record => exact ⟨record.1, record.2, rfl⟩

theorem readName_eq_ok_iff_of_read {settings : Settings} {arena : ArenaId} {tablet result : Tablet}
    {before after : Ledger} {stop stop' : Nat} {name : TabletName}
    (taken : tablet.read settings arena buffer position before = .ok (result, stop) after) :
    readName buffer position = .ok (name, stop') ↔
      result.descriptor.length.toInt ≤ ({} : Settings).recordLimit ∧
        name = result.descriptor.name ∧ stop' = position + Wire.headerSize + namesSize := by
  obtain ⟨-, header, body, account, stands, -, rfl, -⟩ := read_eq_ok_iff.mp taken
  have length : (header.size : Int) = header.length.toInt :=
    Int.toNat_of_nonneg (Int32.le_iff_toInt_le.mp stands.nonneg)
  show _ ↔ header.length.toInt ≤ _ ∧ _
  rw [← length, Int.ofNat_le]
  constructor
  · intro found
    have limit : header.size ≤ ({} : Settings).recordLimit := by
      obtain ⟨header', content, own⟩ := record_of_readName found
      -- Under the higher one of the two limits, both reads find the same record.
      have wide := Wire.Record.read_mono own (Nat.le_max_right settings.recordLimit _)
      rw [(stands.mono (Nat.le_max_left _ _)).read_eq_ok DescriptorBody.format_lawful] at wide
      cases wide
      exact (Wire.Record.read_eq_ok_iff.mp own).1.2.2.1
    rw [readName_of_stands { stands with limit }] at found
    injection found with found
    injection found with names stops
    exact ⟨limit, names.symm, stops.symm⟩
  · rintro ⟨limit, rfl, rfl⟩
    exact readName_of_stands { stands with limit }

end Tablet

theorem Session.step_readName_eq_error {session : Session} {name : String} {buffer : List UInt8}
    {position : Nat} {fault : Fault} (source : session.find? name = some (.buffer buffer))
    (failed : Tablet.readName buffer position = .error fault) :
    session.step (.readName name position) = (.error (.fault fault), session) := by
  have bytes : Script.buffer name session = .ok buffer session := by
    refine Script.want_eq_ok ?_
    rw [source]
    rfl
  have names : Script.ofResult (Tablet.readName buffer position) session =
      .error (.fault fault) session := by
    rw [failed]
    rfl
  have stopped : (Step.readName name position).script session = .error (.fault fault) session :=
    (bind_eq_of_ok bytes).trans (bind_eq_of_error names)
  rw [step, stopped]

/-- Reading names agrees with reading tablets. From the record of a tablet that is read, under
whatever limit and into whatever arena, its names are read just where its length is within the
default limit. Where names cannot be read, no tablet is read either, with the same fault, and the
position stays. -/
theorem Tablet.readName_agrees (buffer : List UInt8) (position : Nat) :
    (∀ (settings : Settings) (arena : ArenaId) (tablet result : Tablet) (before after : Ledger)
      (stop : Nat),
      tablet.read settings arena buffer position before = .ok (result, stop) after →
        ((∃ name stop', readName buffer position = .ok (name, stop')) ↔
          result.descriptor.length.toInt ≤ ({} : Settings).recordLimit) ∧
        ∀ name stop', readName buffer position = .ok (name, stop') →
          name = result.descriptor.name ∧ stop' = position + Wire.headerSize + namesSize) ∧
    (∀ (arena : ArenaId) (tablet result : Tablet) (before after : Ledger) (stop : Nat),
      tablet.read {} arena buffer position before = .ok (result, stop) after →
        readName buffer position =
          .ok (result.descriptor.name, position + Wire.headerSize + namesSize)) ∧
    (∀ name stop, readName buffer position = .ok (name, stop) →
      passName buffer position = .ok name stop) ∧
    ∀ fault, readName buffer position = .error fault →
      fault.kind = .malformed ∧ passName buffer position = .error fault position ∧
        (∀ arena ledger, Refuses {} arena position ledger buffer fault) ∧
        ∀ (session : Session) name, session.find? name = some (.buffer buffer) →
          session.step (.readName name position) = (.error (.fault fault), session) := by
  refine ⟨?_, ?_, ?_, ?_⟩
  · intro settings arena tablet result before after stop taken
    refine ⟨⟨?_, fun limit => ?_⟩, fun name stop' found => ?_⟩
    · rintro ⟨name, stop', found⟩
      exact ((readName_eq_ok_iff_of_read taken).mp found).1
    · exact ⟨_, _, (readName_eq_ok_iff_of_read taken).mpr ⟨limit, rfl, rfl⟩⟩
    · exact ((readName_eq_ok_iff_of_read taken).mp found).2
  · intro arena tablet result before after stop taken
    obtain ⟨-, header, body, account, stands, -, rfl, -⟩ := read_eq_ok_iff.mp taken
    exact readName_of_stands stands
  · intro name stop found
    rw [passName_eq, found]
  · intro fault failed
    obtain ⟨cause, rfl, refused⟩ := read_eq_error_of_readName failed
    refine ⟨rfl, ?_, fun arena ledger => refuses_of_read (refused arena ledger),
      fun session name source => Session.step_readName_eq_error source failed⟩
    rw [passName_eq, failed]

def clipped : List UInt8 := [0, 0, 0, 1, 0, 0, 0, 20] ++ List.replicate 12 0

theorem Tablet.readName_agrees_successor :
    (∃ after, uninitialized.read {} ⟨0⟩ ([9] ++ successor.recordBytes ++ [7, 7]) 1
        ⟨fun _ => { label := "", limit := 24 }, 1⟩ = .ok (successor, 253) after) ∧
    readName ([9] ++ successor.recordBytes ++ [7, 7]) 1 = .ok (successor.descriptor.name, 25) ∧
    passName ([9] ++ successor.recordBytes ++ [7, 7]) 1 = .ok successor.descriptor.name 25 ∧
    readName clipped 0 = .error (.malformed (.tooSmall 8 4)) ∧
    passName clipped 0 = .error (.malformed (.tooSmall 8 4)) 0 ∧
    ∀ arena ledger, uninitialized.read {} arena clipped 0 ledger =
      .error (.malformed (.tooSmall 8 4)) ledger := by
  have sound : Descriptor.Sound successor.descriptor := sound_of_reachable reachable_successor
  obtain ⟨after, taken⟩ : ∃ after, uninitialized.read {} ⟨0⟩ ([9] ++ successor.recordBytes ++ [7, 7]) 1
      ⟨fun _ => { label := "", limit := 24 }, 1⟩ = .ok (successor, 253) after :=
    read_recordBytes sound (by decide) (Nat.le_add_left 1 _) (List.prefix_append _ _) (by decide)
  obtain ⟨-, named, moved, -⟩ := readName_agrees ([9] ++ successor.recordBytes ++ [7, 7]) 1
  have names := named _ _ _ _ _ _ taken
  obtain ⟨-, -, -, refused⟩ := readName_agrees clipped 0
  have failed : readName clipped 0 = .error (.malformed (.tooSmall 8 4)) := rfl
  obtain ⟨-, stays, refuses, -⟩ := refused _ failed
  exact ⟨⟨after, taken⟩, names, moved _ _ names, failed, stays,
    fun arena ledger => (refuses arena ledger).read⟩

end TabletRecords
