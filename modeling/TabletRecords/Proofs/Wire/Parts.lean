import TabletRecords.Compaction.Queue
import TabletRecords.Descriptor.Basic
import TabletRecords.Proofs.Wire.Counted
import TabletRecords.Schema.Basic

/-!
Formats of the parts of a tablet. Each is lawful, and for the parts that own lists this module says
which values are legal: lists are short enough to be counted, and what the read checks holds.
-/
namespace TabletRecords

open Wire (Format Tagged)
open Wire.BigEndian (capacity)

theorem LogStreamId.format_lawful : LogStreamId.format.Lawful (fun _ => True) :=
  Format.int64_lawful.map mk value (fun _ => rfl) (fun _ => rfl)

theorem TabletId.format_lawful : TabletId.format.Lawful (fun _ => True) :=
  Format.uint64_lawful.map mk value (fun _ => rfl) (fun _ => rfl)

theorem Scn.format_lawful : Scn.format.Lawful (fun _ => True) :=
  Format.int64_lawful.map mk value (fun _ => rfl) (fun _ => rfl)

theorem Wire.Tagged.index_of_getElem? {α : Type} [DecidableEq α] [Tagged α] {i : Nat} {value : α}
    (h : Tagged.members[i]? = some value) : Tagged.index value = i := by
  obtain ⟨hlt, rfl⟩ := List.getElem?_eq_some_iff.mp h
  rw [Tagged.index, Tagged.nodup.idxOf_getElem]

namespace Readiness

theorem toNat_pack (readiness : Readiness) :
    readiness.pack.toNat = Tagged.index readiness.restore + 256 * Tagged.index readiness.data := by
  have restore := Tagged.index_lt readiness.restore
  have data := Tagged.index_lt readiness.data
  rw [pack, UInt64.toNat_ofNat_of_lt']
  simp only [UInt64.size]
  omega

theorem unpack_pack (readiness : Readiness) : unpack readiness.pack = .ok readiness := by
  have restore := Tagged.index_lt readiness.restore
  have data := Tagged.index_lt readiness.data
  have restoreCode : (readiness.pack % 256).toNat = Tagged.index readiness.restore := by
    rw [UInt64.toNat_mod, toNat_pack]
    show _ % 256 = _
    omega
  have dataCode : (readiness.pack / 256 % 256).toNat = Tagged.index readiness.data := by
    rw [UInt64.toNat_mod, UInt64.toNat_div, toNat_pack]
    show _ / 256 % 256 = _
    omega
  have reserved : readiness.pack / 65536 = 0 := by
    apply UInt64.toNat_inj.mp
    rw [UInt64.toNat_div, toNat_pack]
    show _ / 65536 = 0
    omega
  simp only [unpack, restoreCode, dataCode, Tagged.members_getElem?_index, reserved, if_true]

theorem pack_of_unpack {packed : UInt64} {readiness : Readiness}
    (h : unpack packed = .ok readiness) : readiness.pack = packed := by
  unfold unpack at h
  cases hrestore : (Tagged.members (α := RestoreStatus))[(packed % 256).toNat]? with
  | none =>
    simp only [hrestore] at h
    cases h
  | some restore =>
    cases hdata : (Tagged.members (α := DataStatus))[(packed / 256 % 256).toNat]? with
    | none =>
      simp only [hrestore, hdata] at h
      cases h
    | some data =>
      simp only [hrestore, hdata] at h
      split at h <;> cases h
      next reserved =>
        apply UInt64.toNat_inj.mp
        rw [toNat_pack, Tagged.index_of_getElem? hrestore, Tagged.index_of_getElem? hdata,
          UInt64.toNat_mod, UInt64.toNat_mod, UInt64.toNat_div]
        have high : packed.toNat / 65536 = 0 := by
          simpa [UInt64.toNat_div] using congrArg UInt64.toNat reserved
        show _ % 256 + 256 * (_ / 256 % 256) = _
        omega

theorem format_lawful : format.Lawful (fun _ => True) := by
  refine (Format.uint64_lawful.refine pack_of_unpack).congr ?_
  simp [unpack_pack]

end Readiness

namespace StoreFlag

theorem format_lawful : format.Lawful (fun _ => True) := by
  refine (Format.uint64_lawful.refine ?_).congr ?_
  · intro bits flag h
    unfold ofBits at h
    split at h
    · next zero =>
      cases h
      exact zero.symm
    · split at h
      · next one =>
        cases h
        exact one.symm
      · cases h
  · rintro ⟨withMajor⟩
    cases withMajor <;> simp [ofBits, toBits]

end StoreFlag

theorem ReportStatus.format_lawful : ReportStatus.format.Lawful (fun _ => True) := by
  refine ((Format.int64_lawful.pair <| Format.int64_lawful.pair <| Format.int64_lawful.pair
    Format.int64_lawful).map _ _ (fun _ => rfl) (fun _ => rfl)).congr ?_
  simp

theorem TransactionState.format_lawful : TransactionState.format.Lawful (fun _ => True) := by
  refine ((Format.int64_lawful.pair <| Scn.format_lawful.pair Format.tagged_lawful).map _ _
    (fun _ => rfl) (fun _ => rfl)).congr ?_
  simp

theorem RowkeyColumn.format_lawful : RowkeyColumn.format.Lawful (fun _ => True) := by
  refine ((Format.uint64_lawful.pair <| Format.tagged_lawful.pair Format.tagged_lawful).map _ _
    (fun _ => rfl) (fun _ => rfl)).congr ?_
  simp

theorem Column.format_lawful : Column.format.Lawful (fun _ => True) := by
  refine ((Format.tagged_lawful.pair <| Format.bool_lawful.pair Format.int64_lawful).map _ _
    (fun _ => rfl) (fun _ => rfl)).congr ?_
  simp

theorem Compaction.format_lawful : Compaction.format.Lawful (fun _ => True) := by
  refine ((Format.int64_lawful.pair <| Format.tagged_lawful.pair <| Format.tagged_lawful.pair <|
    Format.uint64_lawful.pair Format.uint64_lawful).map _ _ (fun _ => rfl) (fun _ => rfl)).congr ?_
  simp

namespace Autoincrement

theorem Interval.format_lawful : Interval.format.Lawful (fun _ => True) := by
  refine ((Format.uint64_lawful.pair Format.uint64_lawful).map _ _ (fun _ => rfl)
    (fun _ => rfl)).congr ?_
  simp

structure Sequence.Legal (sequence : Sequence) : Prop where
  isValid : sequence.isValid
  length_lt : sequence.intervals.length < capacity 4

theorem Sequence.format_lawful : Sequence.format.Lawful Sequence.Legal := by
  have intervals := Interval.format_lawful.counted 16 16 (fun _ => rfl) (fun _ _ => Nat.le_refl 16)
  refine (intervals.refine ?_).congr ?_
  · intro stored sequence h
    split at h <;> cases h
    rfl
  · intro sequence
    constructor
    · rintro ⟨⟨short, -⟩, accepted⟩
      split at accepted
      · next valid => exact ⟨valid, short⟩
      · cases accepted
    · rintro ⟨valid, short⟩
      exact ⟨⟨short, by simp⟩, if_pos valid⟩

end Autoincrement

namespace Binding

def Legal (binding : Binding) : Prop := binding.hiddenTabletIds.length < capacity 4

theorem format_lawful : format.Lawful Legal := by
  have hidden := TabletId.format_lawful.counted 8 8 (fun _ => rfl) (fun _ _ => Nat.le_refl 8)
  refine ((Format.bool_lawful.pair <| Format.int64_lawful.pair <| Format.int64_lawful.pair <|
    TabletId.format_lawful.pair <| TabletId.format_lawful.pair <| TabletId.format_lawful.pair
    hidden).map _ _ (fun _ => rfl) (fun _ => rfl)).congr ?_
  simp [Legal]

end Binding

namespace StorageSchema

structure Legal (schema : StorageSchema) : Prop where
  formatVersion : schema.formatVersion = currentFormatVersion
  rowkeyColumns_lt : schema.rowkeyColumns.length < capacity 4
  columns_lt : schema.columns.length < capacity 4

theorem formatVersion_lawful : (Format.int32.refine acceptFormatVersion id).Lawful
    (· = currentFormatVersion) := by
  refine (Format.int32_lawful.refine ?_).congr ?_
  · intro stored version h
    unfold acceptFormatVersion at h
    split at h <;> cases h
    rfl
  · intro version
    simp [acceptFormatVersion]

theorem format_lawful : format.Lawful Legal := by
  have rowkey := RowkeyColumn.format_lawful.counted 10 16 (fun _ => rfl)
    (fun _ _ => Nat.le_refl 10)
  have columns := Column.format_lawful.counted 10 16 (fun _ => rfl) (fun _ _ => Nat.le_refl 10)
  refine ((formatVersion_lawful.pair <| Format.int64_lawful.pair <|
    Format.tagged_lawful.pair <| Format.tagged_lawful.pair <| Format.tagged_lawful.pair <|
    Format.tagged_lawful.pair <| Format.bool_lawful.pair <| Format.int64_lawful.pair <|
    Format.int64_lawful.pair <| Format.int64_lawful.pair <| Format.int64_lawful.pair <|
    Format.int64_lawful.pair <| Format.uint64_lawful.pair <| Format.bool_lawful.pair <|
    rowkey.pair columns).map _ _ (fun _ => rfl) (fun _ => rfl)).congr ?_
  intro schema
  constructor
  · rintro ⟨version, -, -, -, -, -, -, -, -, -, -, -, -, -, ⟨rowkey, -⟩, columns, -⟩
    exact ⟨version, rowkey, columns⟩
  · rintro ⟨version, rowkey, columns⟩
    simp [version, rowkey, columns]

end StorageSchema

namespace CompactionQueue

structure Legal (queue : CompactionQueue) : Prop where
  isValid : queue.isValid
  length_lt : queue.pending.length < capacity 4

/-- The fields of any queue that can be counted are read from their bytes, in order or not. -/
theorem fields_lawful :
    ((Format.tagged CompactionType).pair <| Format.int64.pair <| Format.bool.pair <|
      Compaction.format.counted 26 32).Lawful (fun stored => stored.2.2.2.length < capacity 4) := by
  have pending := Compaction.format_lawful.counted 26 32 (fun _ => rfl)
    (fun _ _ => Nat.le_refl 26)
  refine (Format.tagged_lawful.pair <| Format.int64_lawful.pair <|
    Format.bool_lawful.pair pending).congr ?_
  simp

theorem format_lawful : format.Lawful Legal := by
  refine (fields_lawful.refine ?_).congr ?_
  · intro stored queue h
    dsimp only at h
    split at h <;> cases h
    rfl
  · intro queue
    constructor
    · rintro ⟨short, accepted⟩
      dsimp only at accepted
      split at accepted
      · next valid => exact ⟨valid, short⟩
      · cases accepted
    · rintro ⟨valid, short⟩
      exact ⟨short, if_pos valid⟩

theorem eq_of_bytes_append {first second : CompactionQueue} {rest rest' : List UInt8}
    (short : first.pending.length < capacity 4) (short' : second.pending.length < capacity 4)
    (same : format.bytes first ++ rest = format.bytes second ++ rest') : first = second := by
  have fields := fields_lawful.eq_of_bytes_append short short' same
  cases first
  cases second
  simp_all

end CompactionQueue

end TabletRecords
