import TabletRecords.Proofs.Sizes
import TabletRecords.Proofs.Wire.Flat

/-!
Forms that stand alone. Outside of a record, too, each form of a value is written and read by two
functions that invert each other: the bytes of a value are read as that value whatever follows them,
and what is read has been written as just the bytes that were taken.
-/
namespace TabletRecords

open Wire
open Wire.Format (Encodes Flat)
open Arena (Account)

namespace Wire.Format

variable {α : Type} {format : Format α} [format.Encodes] {legal : α → Prop}

/-- A form that is written and read, by an account, in inverse ways. The lists of a value hold
`memory`. -/
structure Inverts (format : Format α) [format.Encodes] (legal : α → Prop) (memory : α → Nat) :
    Prop where
  read_written : ∀ value, legal value → ∃ bytes, Encodes.Written format value bytes ∧
    ∀ (rest : List UInt8) (position : Nat) (account : Account) (charged : Nat),
      account.used + memory value ≤ account.limit →
      format.read ⟨⟨bytes ++ rest, position⟩, account, charged⟩ =
        .ok value ⟨⟨rest, position + bytes.length⟩,
          { account with used := account.used + memory value }, charged + memory value⟩
  written_read : ∀ before value after, format.read before = .ok value after →
    legal value ∧ ∃ bytes, Encodes.Written format value bytes ∧
      before.cursor.Passes bytes after.cursor

structure InvertsFlat (format : Format α) [format.Encodes] [format.Flat] : Prop where
  read_written : ∀ value, ∃ bytes, Encodes.Written format value bytes ∧
    ∀ (rest : List UInt8) (position : Nat),
      Flat.reader format ⟨bytes ++ rest, position⟩ = .ok value ⟨rest, position + bytes.length⟩
  written_read : ∀ before value after, Flat.reader format before = .ok value after →
    ∃ bytes, Encodes.Written format value bytes ∧ before.Passes bytes after

theorem Encodes.lt_of_mem_counts (none : ∀ item, Encodes.counts format item = [])
    (least memory : Nat) {items : List α} (short : items.length < 0x100000000) :
    ∀ n ∈ Encodes.counts (format.counted least memory) items, n < 0x100000000 := by
  intro n inside
  rw [Encodes.counts_counted none] at inside
  rwa [List.mem_singleton.mp inside]

theorem Lawful.inverts {memory : α → Nat} (lawful : format.Lawful legal)
    (counts : ∀ value, legal value → ∀ n ∈ Encodes.counts format value, n < 0x100000000)
    (footprint_eq : ∀ value, format.footprint value = memory value) :
    format.Inverts legal memory where
  read_written value hlegal := by
    refine ⟨_, (Encodes.written_iff format).mpr ⟨counts value hlegal, rfl⟩, ?_⟩
    intro rest position account charged room
    rw [← footprint_eq] at room ⊢
    exact lawful.read_eq_ok_iff.mpr
      ⟨hlegal, ⟨rfl, rfl⟩, Account.chargeAll_of_room room, rfl⟩
  written_read before value after read := by
    obtain ⟨hlegal, taken⟩ := lawful.read_eq_ok_iff.mp read
    exact ⟨hlegal, _, (Encodes.written_iff format).mpr ⟨counts value hlegal, rfl⟩, taken.cursor⟩

theorem Lawful.invertsFlat [format.Flat] (lawful : format.Lawful fun _ => True)
    (counts : ∀ value, Encodes.counts format value = []) : format.InvertsFlat := by
  have written : ∀ value, Encodes.Written format value (format.bytes value) := fun value =>
    (Encodes.written_iff format).mpr ⟨by simp [counts value], rfl⟩
  constructor
  · intro value
    refine ⟨_, written value, fun rest position => ?_⟩
    exact (Flat.exact lawful).eq_ok_iff.mpr ⟨trivial, rfl, rfl⟩
  · intro before value after read
    exact ⟨_, written value, ((Flat.exact lawful).eq_ok_iff.mp read).2⟩

theorem uint32_lawful : uint32.Lawful fun _ => True :=
  .plain Reader.uint32_exact fun _ => BigEndian.length_digits 4 _

inductive Codec : {α : Type} → (format : Format α) → [format.Encodes] → [format.Flat] → Prop
  | int32 : Codec int32
  | int64 : Codec int64
  | uint32 : Codec uint32
  | uint64 : Codec uint64
  | bool : Codec bool
  | tagged {α : Type} [DecidableEq α] [Tagged α] : Codec (tagged α)
  | optional {α : Type} {format : Format α} [format.Encodes] [format.Flat] (each : Codec format) :
      Codec format.optional
  | logStreamId : Codec LogStreamId.format
  | tabletId : Codec TabletId.format
  | scn : Codec Scn.format
  | readiness : Codec Readiness.format
  | storeFlag : Codec StoreFlag.format
  | reportStatus : Codec ReportStatus.format
  | transaction : Codec TransactionState.format
  | interval : Codec Autoincrement.Interval.format
  | rowkeyColumn : Codec RowkeyColumn.format
  | column : Codec Column.format
  | compaction : Codec Compaction.format

namespace Codec

theorem lawful [format.Flat] (codec : Codec format) : format.Lawful fun _ => True := by
  induction codec with
  | int32 => exact int32_lawful
  | int64 => exact int64_lawful
  | uint32 => exact uint32_lawful
  | uint64 => exact uint64_lawful
  | bool => exact bool_lawful
  | tagged => exact tagged_lawful
  | optional each ih => exact ih.optional.congr (by simp)
  | logStreamId => exact LogStreamId.format_lawful
  | tabletId => exact TabletId.format_lawful
  | scn => exact Scn.format_lawful
  | readiness => exact Readiness.format_lawful
  | storeFlag => exact StoreFlag.format_lawful
  | reportStatus => exact ReportStatus.format_lawful
  | transaction => exact TransactionState.format_lawful
  | interval => exact Autoincrement.Interval.format_lawful
  | rowkeyColumn => exact RowkeyColumn.format_lawful
  | column => exact Column.format_lawful
  | compaction => exact Compaction.format_lawful

theorem counts_eq [format.Flat] (codec : Codec format) (value : α) :
    Encodes.counts format value = [] := by
  induction codec with
  | optional each ih => exact Encodes.counts_optional ih value
  | _ => rfl

theorem invertsFlat [format.Flat] (codec : Codec format) : format.InvertsFlat :=
  codec.lawful.invertsFlat codec.counts_eq

end Codec

end Wire.Format

theorem Autoincrement.Sequence.inverts : format.Inverts
    (fun sequence => (sequence.intervals.map (·.columnId)).Nodup ∧
      sequence.intervals.length < 0x100000000)
    (fun sequence => sequence.intervals.length * 16) := by
  refine (format_lawful.congr fun sequence => ⟨?_, ?_⟩).inverts ?_ footprint_eq
  · rintro ⟨valid, short⟩
    exact ⟨of_decide_eq_true valid, short⟩
  · rintro ⟨distinct, short⟩
    exact ⟨decide_eq_true distinct, short⟩
  · rintro sequence ⟨-, short⟩
    exact Encodes.lt_of_mem_counts (fun _ => rfl) 16 16 short

theorem Binding.inverts : format.Inverts
    (fun binding => binding.hiddenTabletIds.length < 0x100000000)
    (fun binding => binding.hiddenTabletIds.length * 8) := by
  refine format_lawful.inverts ?_ footprint_eq
  intro binding short
  exact Encodes.lt_of_mem_counts (fun _ => rfl) 8 8 short

theorem StorageSchema.inverts : format.Inverts
    (fun schema => schema.formatVersion = currentFormatVersion ∧
      schema.rowkeyColumns.length < 0x100000000 ∧ schema.columns.length < 0x100000000)
    (fun schema => schema.rowkeyColumns.length * 16 + schema.columns.length * 16) := by
  refine (format_lawful.congr fun schema => ⟨?_, ?_⟩).inverts ?_ footprint_eq
  · rintro ⟨version, rowkey, columns⟩
    exact ⟨version, rowkey, columns⟩
  · rintro ⟨version, rowkey, columns⟩
    exact ⟨version, rowkey, columns⟩
  · rintro schema ⟨-, rowkey, columns⟩ n inside
    replace inside : n ∈ Encodes.counts (RowkeyColumn.format.counted 10 16) schema.rowkeyColumns ++
        Encodes.counts (Column.format.counted 10 16) schema.columns := inside
    rcases List.mem_append.mp inside with inside | inside
    · exact Encodes.lt_of_mem_counts (fun _ => rfl) 10 16 rowkey n inside
    · exact Encodes.lt_of_mem_counts (fun _ => rfl) 10 16 columns n inside

theorem CompactionQueue.inverts : format.Inverts
    (fun queue => queue.isValid ∧ queue.pending.length < 0x100000000)
    (fun queue => queue.pending.length * 32) := by
  refine (format_lawful.congr fun queue => ⟨?_, ?_⟩).inverts ?_ footprint_eq
  · rintro ⟨valid, short⟩
    exact ⟨valid, short⟩
  · rintro ⟨valid, short⟩
    exact ⟨valid, short⟩
  · rintro queue ⟨-, short⟩
    exact Encodes.lt_of_mem_counts (fun _ => rfl) 26 32 short

/-- Each form that stands alone is written and read in inverse ways: a sequence in which no column
is named twice, any binding, a schema of the known format version (be it valid or not) and a queue
in order, with lists that can be counted; and without an account every form of values without lists.
-/
theorem standalone_forms_invert :
    Autoincrement.Sequence.format.Inverts
      (fun sequence => (sequence.intervals.map (·.columnId)).Nodup ∧
        sequence.intervals.length < 0x100000000)
      (fun sequence => sequence.intervals.length * 16) ∧
    Binding.format.Inverts (fun binding => binding.hiddenTabletIds.length < 0x100000000)
      (fun binding => binding.hiddenTabletIds.length * 8) ∧
    StorageSchema.format.Inverts
      (fun schema => schema.formatVersion = StorageSchema.currentFormatVersion ∧
        schema.rowkeyColumns.length < 0x100000000 ∧ schema.columns.length < 0x100000000)
      (fun schema => schema.rowkeyColumns.length * 16 + schema.columns.length * 16) ∧
    CompactionQueue.format.Inverts
      (fun queue => queue.isValid ∧ queue.pending.length < 0x100000000)
      (fun queue => queue.pending.length * 32) ∧
    ∀ {α : Type} {format : Format α} [format.Encodes] [format.Flat], format.Codec →
      format.InvertsFlat :=
  ⟨Autoincrement.Sequence.inverts, Binding.inverts, StorageSchema.inverts, CompactionQueue.inverts,
    fun codec => codec.invertsFlat⟩

/-- A schema of which nothing is known is read though it is not valid, and the least of the signed
words is read below a mark that it is there. -/
theorem standalone_forms_invert_extremes :
    (¬ StorageSchema.blank.isValid ∧ ∃ bytes, bytes.length = 74 ∧
      ∀ rest, StorageSchema.format.read ⟨⟨bytes ++ rest, 5⟩, ⟨"", 0, 0, false⟩, 0⟩ =
        .ok StorageSchema.blank ⟨⟨rest, 79⟩, ⟨"", 0, 0, false⟩, 0⟩) ∧
    ∃ bytes, bytes = [1, 0x80, 0, 0, 0, 0, 0, 0, 0] ∧
      ∀ rest, Flat.reader Format.int64.optional ⟨bytes ++ rest, 0⟩ =
        .ok (some Int64.minValue) ⟨rest, 9⟩ := by
  obtain ⟨-, -, schemas, -, codecs⟩ := standalone_forms_invert
  constructor
  · obtain ⟨bytes, written, reads⟩ := schemas.read_written .blank ⟨rfl, by decide, by decide⟩
    obtain ⟨-, rfl⟩ := (Encodes.written_iff StorageSchema.format).mp written
    exact ⟨by decide, StorageSchema.format.bytes .blank, by decide,
      fun rest => reads rest 5 ⟨"", 0, 0, false⟩ 0 (by decide)⟩
  · obtain ⟨bytes, written, reads⟩ :=
      (codecs (.optional .int64)).read_written (some Int64.minValue)
    obtain ⟨-, rfl⟩ := (Encodes.written_iff Format.int64.optional).mp written
    exact ⟨Format.int64.optional.bytes (some Int64.minValue), by decide, fun rest => reads rest 0⟩

end TabletRecords
