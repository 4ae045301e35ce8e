import TabletRecords.Proofs.Parameter.RoundTrip
import TabletRecords.Proofs.Tablet.RoundTrip
import TabletRecords.Proofs.Wire.Encoders
import TabletRecords.Proofs.Wire.Writing

/-!
Sizes. Every wire form has a size that is stated as a sum of constants and of the lengths of lists.
It is the number of bytes that are put down, whatever the values are, so a record is put into its
place without a gap and without a byte too many, and the position moves by the size of the record.
-/
namespace TabletRecords

open Wire
open Wire.Format (Encodes)

namespace Wire.Format

/-- The wire forms, each with the size that is stated for it. -/
inductive Stated : {α : Type} → (format : Format α) → [format.Encodes] → (α → Nat) → Prop
  | int32 : Stated int32 fun _ => 4
  | int64 : Stated int64 fun _ => 8
  | uint32 : Stated uint32 fun _ => 4
  | uint64 : Stated uint64 fun _ => 8
  | bool : Stated bool fun _ => 1
  | tagged {α : Type} [DecidableEq α] [Tagged α] : Stated (tagged α) fun _ => 1
  | optional {α : Type} {format : Format α} [format.Encodes] {size : α → Nat}
      (each : Stated format size) :
      Stated format.optional fun value? => 1 + (value?.map size).getD 0
  | counted {α : Type} {format : Format α} [format.Encodes] {size : α → Nat}
      (each : Stated format size) (least memory : Nat) :
      Stated (format.counted least memory) fun items => 4 + Arena.total (items.map size)
  | header : Stated Header.format fun _ => 8
  | logStreamId : Stated LogStreamId.format fun _ => 8
  | tabletId : Stated TabletId.format fun _ => 8
  | scn : Stated Scn.format fun _ => 8
  | readiness : Stated Readiness.format fun _ => 8
  | storeFlag : Stated StoreFlag.format fun _ => 8
  | reportStatus : Stated ReportStatus.format fun _ => 32
  | transaction : Stated TransactionState.format fun _ => 8 + 8 + 1
  | interval : Stated Autoincrement.Interval.format fun _ => 16
  | sequence : Stated Autoincrement.Sequence.format fun sequence =>
      4 + sequence.intervals.length * 16
  | binding : Stated Binding.format fun binding =>
      1 + 8 + 8 + 8 * 3 + (4 + binding.hiddenTabletIds.length * 8)
  | rowkeyColumn : Stated RowkeyColumn.format fun _ => 10
  | column : Stated Column.format fun _ => 10
  | schema : Stated StorageSchema.format fun schema =>
      4 + 8 + 5 + 8 * 6 + 1 + (4 + schema.rowkeyColumns.length * 10) +
        (4 + schema.columns.length * 10)
  | compaction : Stated Compaction.format fun _ => 8 + 1 + 1 + 8 + 8
  | queue : Stated CompactionQueue.format fun queue => 1 + 8 + 1 + (4 + queue.pending.length * 26)
  | descriptor : Stated DescriptorBody.format fun body =>
      220 + body.autoincrement.intervals.length * 16 + body.binding.hiddenTabletIds.length * 8
  | snapshot : Stated Snapshot.format fun snapshot =>
      286 + (if snapshot.ddlCheckpoint?.isSome then 8 else 0) +
        (if snapshot.ddlStartLog?.isSome then 8 else 0) +
        (if snapshot.ddlSnapshotVersion?.isSome then 8 else 0) +
        snapshot.autoincrement.intervals.length * 16 +
        snapshot.binding.hiddenTabletIds.length * 8 +
        snapshot.schema.rowkeyColumns.length * 10 + snapshot.schema.columns.length * 10 +
        snapshot.compactions.pending.length * 26

theorem Lawful.sized {α : Type} {format : Format α} {legal : α → Prop} (lawful : format.Lawful legal)
    {value : α} {size : Nat} (computed : format.size value = size) :
    format.size value = size ∧ (format.bytes value).length = size :=
  ⟨computed, (lawful.length_bytes value).trans computed⟩

theorem optional_sized {α : Type} {format : Format α} {size : α → Nat}
    (each : ∀ value, format.size value = size value ∧ (format.bytes value).length = size value)
    (value? : Option α) :
    format.optional.size value? = 1 + (value?.map size).getD 0 ∧
      (format.optional.bytes value?).length = 1 + (value?.map size).getD 0 := by
  cases value? with
  | none => exact ⟨rfl, rfl⟩
  | some value =>
    obtain ⟨computed, length⟩ := each value
    refine ⟨congrArg (1 + ·) computed, ?_⟩
    show (Format.bool.bytes true ++ format.bytes value).length = 1 + size value
    rw [List.length_append, bool_lawful.length_bytes, length]
    rfl

theorem counted_sized {α : Type} {format : Format α} {size : α → Nat}
    (each : ∀ value, format.size value = size value ∧ (format.bytes value).length = size value)
    (least memory : Nat) (items : List α) :
    (format.counted least memory).size items = 4 + Arena.total (items.map size) ∧
      ((format.counted least memory).bytes items).length = 4 + Arena.total (items.map size) := by
  have sizes : format.size = size := funext fun value => (each value).1
  refine ⟨by rw [counted, sizes], ?_⟩
  rw [counted, List.length_append, BigEndian.length_digits]
  congr 1
  induction items with
  | nil => rfl
  | cons item items ih =>
    rw [List.flatMap_cons, List.length_append, (each item).2, ih, List.map_cons, Arena.total_cons]

theorem Stated.sized {α : Type} {format : Format α} [format.Encodes] {size : α → Nat}
    (stated : Stated format size) (value : α) :
    format.size value = size value ∧ (format.bytes value).length = size value := by
  induction stated with
  | int32 => exact int32_lawful.sized rfl
  | int64 => exact int64_lawful.sized rfl
  | uint32 => exact ⟨rfl, BigEndian.length_digits 4 _⟩
  | uint64 => exact uint64_lawful.sized rfl
  | bool => exact bool_lawful.sized rfl
  | tagged => exact tagged_lawful.sized rfl
  | optional each ih => exact optional_sized ih value
  | counted each least memory ih => exact counted_sized ih least memory value
  | header => exact Header.format_lawful.sized rfl
  | logStreamId => exact LogStreamId.format_lawful.sized rfl
  | tabletId => exact TabletId.format_lawful.sized rfl
  | scn => exact Scn.format_lawful.sized rfl
  | readiness => exact Readiness.format_lawful.sized rfl
  | storeFlag => exact StoreFlag.format_lawful.sized rfl
  | reportStatus => exact ReportStatus.format_lawful.sized rfl
  | transaction => exact TransactionState.format_lawful.sized rfl
  | interval => exact Autoincrement.Interval.format_lawful.sized rfl
  | sequence => exact Autoincrement.Sequence.format_lawful.sized value.size_eq
  | binding =>
    refine Binding.format_lawful.sized (value.size_eq.trans ?_)
    dsimp only
    omega
  | rowkeyColumn => exact RowkeyColumn.format_lawful.sized rfl
  | column => exact Column.format_lawful.sized rfl
  | schema =>
    refine StorageSchema.format_lawful.sized (value.size_eq.trans ?_)
    dsimp only
    omega
  | compaction => exact Compaction.format_lawful.sized rfl
  | queue =>
    refine CompactionQueue.format_lawful.sized (value.size_eq.trans ?_)
    dsimp only
    omega
  | descriptor => exact DescriptorBody.format_lawful.sized value.size_eq
  | snapshot => exact Snapshot.format_lawful.sized value.size_eq

end Wire.Format

namespace Wire.Format.Encodes

variable {α : Type} {format : Format α} [format.Encodes]

theorem counts_counted (none : ∀ item, counts format item = []) (least memory : Nat) (items : List α) :
    counts (format.counted least memory) items = [items.length] := by
  show items.length :: items.flatMap (counts format) = _
  rw [funext none, List.flatMap_def, List.map_const', List.flatten_replicate_nil]

theorem counts_optional (none : ∀ value, counts format value = []) (value? : Option α) :
    counts format.optional value? = [] := by
  cases value? with
  | none => rfl
  | some value => exact none value

end Wire.Format.Encodes

theorem DescriptorBody.counts_eq (body : DescriptorBody) : Encodes.counts format body =
    [body.autoincrement.intervals.length, body.binding.hiddenTabletIds.length] := by
  show Encodes.counts (Autoincrement.Interval.format.counted 16 16) body.autoincrement.intervals ++
    (Encodes.counts (TabletId.format.counted 8 8) body.binding.hiddenTabletIds ++ []) = _
  rw [Encodes.counts_counted fun _ => rfl, Encodes.counts_counted fun _ => rfl]
  rfl

theorem Snapshot.counts_eq (snapshot : Snapshot) : Encodes.counts format snapshot =
    [snapshot.autoincrement.intervals.length, snapshot.binding.hiddenTabletIds.length,
      snapshot.schema.rowkeyColumns.length, snapshot.schema.columns.length,
      snapshot.compactions.pending.length] := by
  have scn : ∀ scn?, Encodes.counts Scn.format.optional scn? = [] :=
    Encodes.counts_optional fun _ => rfl
  have word : ∀ word?, Encodes.counts Format.int64.optional word? = [] :=
    Encodes.counts_optional fun _ => rfl
  show Encodes.counts Scn.format.optional snapshot.ddlCheckpoint? ++
    (Encodes.counts Scn.format.optional snapshot.ddlStartLog? ++
      (Encodes.counts Format.int64.optional snapshot.ddlSnapshotVersion? ++
        (Encodes.counts (Autoincrement.Interval.format.counted 16 16) snapshot.autoincrement.intervals ++
          (Encodes.counts (TabletId.format.counted 8 8) snapshot.binding.hiddenTabletIds ++
            (Encodes.counts (RowkeyColumn.format.counted 10 16) snapshot.schema.rowkeyColumns ++
              Encodes.counts (Column.format.counted 10 16) snapshot.schema.columns ++
              (Encodes.counts (Compaction.format.counted 26 32) snapshot.compactions.pending ++
                [])))))) = _
  rw [scn, scn, word, Encodes.counts_counted fun _ => rfl, Encodes.counts_counted fun _ => rfl,
    Encodes.counts_counted fun _ => rfl, Encodes.counts_counted fun _ => rfl,
    Encodes.counts_counted fun _ => rfl]
  rfl

/-- A write of records whose value has a size. It succeeds where the record fits, it moves the
position by the size of the record, and its puts fill the place of the record in a buffer with
addresses. -/
structure WritesSized {α : Type} (format : Format α) [format.Encodes] (version : Int32) (value : α)
    (most size : Nat) (write : List UInt8 → Nat → Except Fault (List UInt8 × Nat)) : Prop where
  total : size = headerSize + (format.bytes value).length
  accepted : ∀ buffer position, (∃ written, write buffer position = .ok written) ↔
    size < 0x80000000 ∧ size ≤ most ∧ position + size ≤ buffer.length
  moved : ∀ {buffer buffer' position position'},
    write buffer position = .ok (buffer', position') → position' = position + size
  filled : ∀ {buffer buffer' position position'}, buffer.length ≤ sizeMax →
    write buffer position = .ok (buffer', position') →
      ∃ pieces header, (Encodes.puts format value).mapM Put.run = .ok pieces ∧
        Page.write ⟨buffer, position⟩ version (format.size value) pieces most =
          .ok (.ok header, ⟨buffer', position'⟩)

theorem writesSized_of_iff {α : Type} {format : Format α} [format.Encodes] {version : Int32} {value : α}
    {most : Nat} {write : List UInt8 → Nat → Except Fault (List UInt8 × Nat)}
    (sized : (format.bytes value).length = format.size value)
    (counts : ∀ n ∈ Encodes.counts format value, n ≤ format.size value)
    (write_iff : ∀ {buffer buffer' position position'},
      write buffer position = .ok (buffer', position') ↔
        ∃ header, Record.write format version value most buffer position =
          .ok (header, buffer', position')) :
    WritesSized format version value most (headerSize + format.size value) write where
  total := by rw [sized]
  accepted buffer position := by
    constructor
    · rintro ⟨⟨buffer', position'⟩, written⟩
      obtain ⟨header, written⟩ := write_iff.mp written
      exact (Record.write_eq_ok_iff.mp written).1
    · intro fits
      exact ⟨_, write_iff.mpr ⟨_, Record.write_eq_ok_iff.mpr ⟨fits, rfl, rfl, rfl⟩⟩⟩
  moved written := by
    obtain ⟨header, written⟩ := write_iff.mp written
    exact (Record.write_eq_ok_iff.mp written).2.2.2
  filled addressable written := by
    obtain ⟨header, written⟩ := write_iff.mp written
    have small := (Record.write_eq_ok_iff.mp written).1.1
    have fits : ∀ n ∈ Encodes.counts format value, n < 0x100000000 := by
      intro n inside
      have few := counts n inside
      omega
    obtain ⟨pieces, puts, cut⟩ := Encodes.exists_pieces format fits
    exact ⟨pieces, header, puts, Page.write_eq_of_write addressable sized cut written⟩

structure DescriptorBody.SameShape (body other : DescriptorBody) : Prop where
  intervals : body.autoincrement.intervals.length = other.autoincrement.intervals.length
  hiddenTabletIds : body.binding.hiddenTabletIds.length = other.binding.hiddenTabletIds.length

structure Snapshot.SameShape (snapshot other : Snapshot) : Prop where
  ddlCheckpoint : snapshot.ddlCheckpoint?.isSome = other.ddlCheckpoint?.isSome
  ddlStartLog : snapshot.ddlStartLog?.isSome = other.ddlStartLog?.isSome
  ddlSnapshotVersion : snapshot.ddlSnapshotVersion?.isSome = other.ddlSnapshotVersion?.isSome
  intervals : snapshot.autoincrement.intervals.length = other.autoincrement.intervals.length
  hiddenTabletIds : snapshot.binding.hiddenTabletIds.length = other.binding.hiddenTabletIds.length
  rowkeyColumns : snapshot.schema.rowkeyColumns.length = other.schema.rowkeyColumns.length
  columns : snapshot.schema.columns.length = other.schema.columns.length
  pending : snapshot.compactions.pending.length = other.compactions.pending.length

theorem DescriptorBody.SameShape.recordSize_eq {body other : DescriptorBody}
    (same : body.SameShape other) : body.recordSize = other.recordSize := by
  rw [recordSize, recordSize, size_eq, size_eq, same.intervals, same.hiddenTabletIds]

theorem Snapshot.SameShape.recordSize_eq {snapshot other : Snapshot}
    (same : snapshot.SameShape other) : snapshot.recordSize = other.recordSize := by
  rw [recordSize, recordSize, size_eq, size_eq, same.ddlCheckpoint, same.ddlStartLog,
    same.ddlSnapshotVersion, same.intervals, same.hiddenTabletIds, same.rowkeyColumns, same.columns,
    same.pending]

theorem Tablet.writesSized {tablet : Tablet} (valid : tablet.isValid) (settings : Settings) :
    WritesSized DescriptorBody.format Descriptor.currentVersion tablet.descriptor.toDescriptorBody
      settings.recordLimit tablet.recordSize (tablet.write settings) := by
  refine writesSized_of_iff (DescriptorBody.format_lawful.length_bytes _) ?_ ?_
  · intro n inside
    rw [DescriptorBody.counts_eq] at inside
    rw [DescriptorBody.size_eq]
    simp only [List.mem_cons, List.not_mem_nil, or_false] at inside
    omega
  · intro buffer buffer' position position'
    rw [write_eq_ok_iff]
    exact and_iff_right valid

theorem TransferParameter.writesSized {parameter : TransferParameter}
    (valid : parameter.snapshot.isValid) :
    WritesSized Snapshot.format Snapshot.currentVersion parameter.snapshot
      parameter.settings.recordLimit parameter.snapshot.recordSize parameter.write := by
  refine writesSized_of_iff (Snapshot.format_lawful.length_bytes _) ?_ ?_
  · intro n inside
    rw [Snapshot.counts_eq] at inside
    rw [Snapshot.size_eq]
    simp only [List.mem_cons, List.not_mem_nil, or_false] at inside
    omega
  · intro buffer buffer' position position'
    rw [write_eq_ok_iff]
    exact and_iff_right valid

/-- Sizes are exact, and they depend on shape alone. Every wire form puts down as many bytes as it
states, where the counts of its lists fit; so valid tablets and parameters are written by their
sizes, which are the same for the same lengths of lists and the same watermarks. -/
theorem sizes_are_exact :
    (∀ {α : Type} {format : Format α} [format.Encodes] {size : α → Nat}, format.Stated size →
      ∀ value, format.size value = size value ∧
        ((∀ n ∈ Encodes.counts format value, n < 0x100000000) →
          ∃ pieces, (Encodes.puts format value).mapM Put.run = .ok pieces ∧
            pieces.flatten = format.bytes value ∧ pieces.flatten.length = size value)) ∧
    (∀ (tablet : Tablet) (settings : Settings), tablet.isValid →
      WritesSized DescriptorBody.format Descriptor.currentVersion tablet.descriptor.toDescriptorBody
        settings.recordLimit tablet.recordSize (tablet.write settings)) ∧
    (∀ parameter : TransferParameter, parameter.snapshot.isValid →
      WritesSized Snapshot.format Snapshot.currentVersion parameter.snapshot
        parameter.settings.recordLimit parameter.snapshot.recordSize parameter.write) ∧
    (∀ tablet other : Tablet, tablet.descriptor.SameShape other.descriptor.toDescriptorBody →
      tablet.recordSize = other.recordSize) ∧
    ∀ snapshot other : Snapshot, snapshot.SameShape other →
      snapshot.recordSize = other.recordSize := by
  refine ⟨?_, fun tablet settings valid => tablet.writesSized valid settings,
    fun parameter valid => parameter.writesSized valid, fun _ _ same => same.recordSize_eq,
    fun _ _ same => same.recordSize_eq⟩
  intro α format _ size stated value
  obtain ⟨computed, length⟩ := stated.sized value
  refine ⟨computed, fun fits => ?_⟩
  obtain ⟨pieces, done, own⟩ := Encodes.exists_pieces format fits
  exact ⟨pieces, done, own, by rw [own, length]⟩

/-- A tablet with an interval and a hidden tablet is written by 252 bytes, and so is every tablet
with one of each. -/
theorem sizes_are_exact_successor :
    (∀ n ∈ Encodes.counts DescriptorBody.format Tablet.successor.descriptor.toDescriptorBody,
      n < 0x100000000) ∧
    (∃ pieces, (Encodes.puts DescriptorBody.format
        Tablet.successor.descriptor.toDescriptorBody).mapM Put.run = .ok pieces ∧
      pieces.flatten.length = 244) ∧
    Tablet.successor.isValid ∧
    (∃ written, Tablet.successor.write {} (List.replicate 255 0) 2 = .ok written ∧ written.2 = 254) ∧
    ∀ other : Tablet, Tablet.successor.descriptor.SameShape other.descriptor.toDescriptorBody →
      other.recordSize = 252 := by
  obtain ⟨exact_, tablets, -, shapes, -⟩ := sizes_are_exact
  have fits : ∀ n ∈ Encodes.counts DescriptorBody.format
      Tablet.successor.descriptor.toDescriptorBody, n < 0x100000000 := by
    rw [DescriptorBody.counts_eq]
    decide
  obtain ⟨pieces, done, -, length⟩ := (exact_ .descriptor _).2 fits
  have valid : Tablet.successor.isValid := by decide
  have writes := tablets Tablet.successor {} valid
  have room : 2 + Tablet.successor.recordSize ≤ (List.replicate 255 (0 : UInt8)).length := by
    rw [List.length_replicate]
    decide
  obtain ⟨written, accepted⟩ := (writes.accepted (List.replicate 255 0) 2).mpr
    ⟨by decide, by decide, room⟩
  exact ⟨fits, ⟨pieces, done, length⟩, valid, ⟨written, accepted, writes.moved accepted⟩,
    fun other same => (shapes _ other same).symm⟩

end TabletRecords
