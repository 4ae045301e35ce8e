import TabletRecords.Proofs.Safety

/-!
Locality of reads. Once the header of a record is accepted, what comes of reading the record depends
on its own bytes only. Whatever counts and tags its body holds, and whichever of its fields are
missing, the value or the error is that of reading these bytes alone, and no read goes past their
end.
-/
namespace TabletRecords

open Arena (ArenaId Ledger)
open Outcome
open Wire (Cursor Header)

def Wire.Record.Heads (version : Int32) (most : Nat) (header : Header) (buffer : List UInt8)
    (position : Nat) : Prop :=
  ∃ cursor after, Cursor.at? buffer position = .ok cursor ∧
    Header.read version most cursor = .ok header after

def placedAt {α : Type} (start : Nat) (result : α × Nat) : α × Nat := (result.1, start + result.2)

section

variable {f : Type → Type} [Functor f] {α : Type} {version : Int32} {most position : Nat}
  {header : Header} {buffer : List UInt8}

/-- A read at a position of a buffer looks at nothing but the bytes from there on, as many as
`size`. Its outcome is that of reading these bytes alone, and it is the same in every buffer that
agrees along them, whatever else the buffer contains. -/
structure Local (read : List UInt8 → Nat → f (α × Nat)) (buffer : List UInt8) (position size : Nat) :
    Prop where
  alone : read buffer position =
    placedAt position <$> read (buffer.extract position (position + size)) 0
  agree : ∀ other : List UInt8,
    (∀ i, position ≤ i → i < position + size → other[i]? = buffer[i]?) →
      read other position = read buffer position

theorem Wire.Record.Heads.read_eq_ok (heads : Heads version most header buffer position) :
    ∃ body, read version most buffer position = .ok (header, body) := by
  obtain ⟨cursor, after, found, accepted⟩ := heads
  refine ⟨after.rest.take (header.size - headerSize), ?_⟩
  rw [read, found, except_ok_bind]
  simp only [accepted]
  rfl

theorem Wire.Record.Heads.local (heads : Heads version most header buffer position)
    {reads : List UInt8 → Nat → f (α × Nat)}
    (moves : ∀ {bytes other body : List UInt8} {start : Nat},
      read version most bytes start = .ok (header, body) →
      read version most other 0 = .ok (header, body) →
        reads bytes start = placedAt start <$> reads other 0) :
    Local reads buffer position header.size := by
  obtain ⟨body, taken⟩ := heads.read_eq_ok
  have alone := moves taken (read_extract taken)
  refine ⟨alone, fun other agree => ?_⟩
  rw [alone, moves (read_of_agree taken agree) (read_extract taken)]

theorem Wire.Record.Heads.eq_of_stands {β : Type} {format : Wire.Format β} {legal : β → Prop}
    {header' : Header} {value : β} (heads : Heads version most header buffer position)
    (lawful : format.Lawful legal) (stands : Stands format version most header' value buffer position) :
    header' = header := by
  obtain ⟨body, taken⟩ := heads.read_eq_ok
  rw [stands.read_eq_ok lawful] at taken
  cases taken
  rfl

end

theorem Charging.readRecord_eq_of_read {α β : Type} {format : Wire.Format α} {version : Int32}
    {most position : Nat} {header : Header} {buffer body : List UInt8}
    (taken : Wire.Record.read version most buffer position = .ok (header, body)) (arena : ArenaId)
    (next : Header → α → Charging β) :
    readRecord format version most arena buffer position next =
      intake (Wire.Record.body format) arena body (next header) := by
  unfold readRecord
  rw [taken]

variable {header : Header} {buffer : List UInt8} {position : Nat}

namespace Tablet

theorem local_of_heads {settings : Settings}
    (heads : Wire.Record.Heads Descriptor.currentVersion settings.recordLimit header buffer position)
    (tablet : Tablet) (arena : ArenaId) :
    Local (tablet.read settings arena) buffer position header.size := by
  refine heads.local fun {bytes other body start} taken taken' => ?_
  unfold read
  by_cases ready : tablet.isInitialized
  · rw [if_pos ready, if_pos ready]
    rfl
  rw [if_neg ready, if_neg ready, Charging.readRecord_eq_of_read taken,
    Charging.readRecord_eq_of_read taken', ← Charging.intake_map]
  congr 1
  funext body
  rw [Nat.zero_add]
  cases body.isValid <;> rfl

theorem stop_of_read {settings : Settings}
    (heads : Wire.Record.Heads Descriptor.currentVersion settings.recordLimit header buffer position)
    {tablet result : Tablet} {arena : ArenaId} {before after : Ledger} {stop : Nat}
    (taken : tablet.read settings arena buffer position before = .ok (result, stop) after) :
    stop = position + header.size := by
  obtain ⟨-, header', body, account, stands, -, -, stop, -⟩ := read_eq_ok_iff.mp taken
  rw [stop, heads.eq_of_stands DescriptorBody.format_lawful stands]

theorem local_readName_of_heads
    (heads : Wire.Record.Heads Descriptor.currentVersion ({} : Settings).recordLimit header buffer
      position) : Local readName buffer position header.size := by
  refine heads.local fun {bytes other body start} taken taken' => ?_
  unfold readName
  simp only [taken, taken']
  cases DescriptorBody.namesFormat.read { cursor := .start body, account := { label := "" } } with
  | error error state => rfl
  | ok names state =>
    refine congrArg (fun stop => Except.ok (TabletName.mk names.1 names.2, stop)) ?_
    rw [Nat.zero_add, Nat.add_assoc]

theorem stop_le_of_readName
    (heads : Wire.Record.Heads Descriptor.currentVersion ({} : Settings).recordLimit header buffer
      position) {name : TabletName} {stop : Nat}
    (taken : readName buffer position = .ok (name, stop)) : stop ≤ position + header.size := by
  rw [(local_readName_of_heads heads).alone] at taken
  cases own : readName (buffer.extract position (position + header.size)) 0 with
  | error fault =>
    rw [own] at taken
    cases taken
  | ok result =>
    rw [own] at taken
    cases taken
    have within : result.2 ≤ (buffer.extract position (position + header.size)).length :=
      (bounds_of_readName own).2
    have bytes : (buffer.extract position (position + header.size)).length ≤ header.size := by
      rw [List.extract, Nat.add_sub_cancel_left]
      exact List.length_take_le _ _
    exact Nat.add_le_add_left (Nat.le_trans within bytes) position

end Tablet

namespace TransferParameter

theorem local_of_heads {parameter : TransferParameter}
    (heads : Wire.Record.Heads Snapshot.currentVersion parameter.settings.recordLimit header buffer
      position) : Local parameter.read buffer position header.size := by
  refine heads.local fun {bytes other body start} taken taken' => ?_
  rw [read, read, Charging.readRecord_eq_of_read taken, Charging.readRecord_eq_of_read taken',
    ← Charging.intake_map]
  congr 1
  funext snapshot
  rw [Nat.zero_add]
  cases snapshot.isValid <;> rfl

theorem stop_of_read {parameter result : TransferParameter}
    (heads : Wire.Record.Heads Snapshot.currentVersion parameter.settings.recordLimit header buffer
      position) {before after : Ledger} {stop : Nat}
    (taken : parameter.read buffer position before = .ok (result, stop) after) :
    stop = position + header.size := by
  obtain ⟨header', snapshot, account, stands, -, -, stop, -⟩ := read_eq_ok_iff.mp taken
  rw [stop, heads.eq_of_stands Snapshot.format_lawful stands]

end TransferParameter

/-- A record is read from its own bytes only. Where the header of a record is accepted, the reads of
a tablet, of a parameter and of the names alone are local to the bytes of the record, whichever
arenas there are and whatever is held in them; and where they succeed, they stop at the end of the
record, or before it for names. -/
theorem reads_are_local {header : Header} {buffer : List UInt8} {position : Nat} :
    (∀ settings : Settings,
      Wire.Record.Heads Descriptor.currentVersion settings.recordLimit header buffer position →
        ∀ (tablet : Tablet) (arena : ArenaId),
          Local (tablet.read settings arena) buffer position header.size ∧
          ∀ (result : Tablet) (stop : Nat) (before after : Ledger),
            tablet.read settings arena buffer position before = .ok (result, stop) after →
              stop = position + header.size) ∧
    (∀ parameter : TransferParameter,
      Wire.Record.Heads Snapshot.currentVersion parameter.settings.recordLimit header buffer position →
        Local parameter.read buffer position header.size ∧
        ∀ (result : TransferParameter) (stop : Nat) (before after : Ledger),
          parameter.read buffer position before = .ok (result, stop) after →
            stop = position + header.size) ∧
    (Wire.Record.Heads Descriptor.currentVersion ({} : Settings).recordLimit header buffer position →
      Local Tablet.readName buffer position header.size ∧
      ∀ (name : TabletName) (stop : Nat),
        Tablet.readName buffer position = .ok (name, stop) → stop ≤ position + header.size) := by
  refine ⟨?_, ?_, ?_⟩
  · intro settings heads tablet arena
    exact ⟨Tablet.local_of_heads heads tablet arena, fun _ _ _ _ => Tablet.stop_of_read heads⟩
  · intro parameter heads
    exact ⟨TransferParameter.local_of_heads heads, fun _ _ _ _ => TransferParameter.stop_of_read heads⟩
  · intro heads
    exact ⟨Tablet.local_readName_of_heads heads, fun _ _ => Tablet.stop_le_of_readName heads⟩

def curtailed : List UInt8 := [0, 0, 0, 1, 0, 0, 0, 28] ++ List.replicate 20 0

def crowded : List UInt8 := [7, 7] ++ curtailed ++ curtailed

theorem heads_crowded : Wire.Record.Heads 1 ({} : Settings).recordLimit ⟨1, 28⟩ crowded 2 :=
  ⟨_, _, rfl, rfl⟩

/-- Among other bytes, such a record lacks the rest of its third field, though the bytes of the next
record follow. The names before it can be read. -/
theorem reads_are_local_crowded :
    Wire.Record.Heads 1 ({} : Settings).recordLimit ⟨1, 28⟩ crowded 2 ∧
    Tablet.uninitialized.read {} ⟨0⟩ crowded 2 .empty =
      .error (.malformed (.tooSmall 8 4)) .empty ∧
    TransferParameter.read ⟨⟨0⟩, {}, {}⟩ crowded 2 .empty =
      .error (.malformed (.tooSmall 8 4)) .empty ∧
    Tablet.readName crowded 2 = .ok (⟨⟨0⟩, ⟨0⟩⟩, 26) := by
  obtain ⟨tablets, parameters, names⟩ := @reads_are_local ⟨1, 28⟩ crowded 2
  have tablet := (tablets {} heads_crowded .uninitialized ⟨0⟩).1.alone
  have parameter := (parameters ⟨⟨0⟩, {}, {}⟩ heads_crowded).1.alone
  have name := (names heads_crowded).1.alone
  have own : crowded.extract 2 (2 + Header.size ⟨1, 28⟩) = curtailed := rfl
  -- The ledger of a failed read has the account of its arena set to what it was.
  have back {α : Type} (error : Wire.Error) :
      (.error (.malformed error) (Ledger.empty.set ⟨0⟩ (Ledger.empty.account ⟨0⟩)) :
        EStateM.Result Fault Ledger α) = .error (.malformed error) .empty := by
    rw [Ledger.set_account_self]
  rw [tablet, parameter, name, own, ← back, ← back]
  exact ⟨heads_crowded, rfl, rfl, rfl⟩

end TabletRecords
