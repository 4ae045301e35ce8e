import TabletRecords.Descriptor.Basic
import TabletRecords.Proofs.Wire.Decoder
import TabletRecords.Snapshot.Basic

/-!
The decoders of the two bodies and of their parts. They follow from how the formats are composed.
-/
namespace TabletRecords

open Wire.Format (Decodes)

instance : LogStreamId.format.Decodes := Decodes.map _ _ _

instance : TabletId.format.Decodes := Decodes.map _ _ _

instance : Scn.format.Decodes := Decodes.map _ _ _

instance : Readiness.format.Decodes := Decodes.refine _ _ _

instance : StoreFlag.format.Decodes := Decodes.refine _ _ _

instance : ReportStatus.format.Decodes := Decodes.map _ _ _

instance : TransactionState.format.Decodes := Decodes.map _ _ _

instance : RowkeyColumn.format.Decodes := Decodes.map _ _ _

instance : Column.format.Decodes := Decodes.map _ _ _

instance : Compaction.format.Decodes := Decodes.map _ _ _

instance : Autoincrement.Interval.format.Decodes := Decodes.map _ _ _

instance : (Autoincrement.Interval.format.counted 16 16).Decodes := .counted _ 16 16 (by decide)

instance : Autoincrement.Sequence.format.Decodes := Decodes.refine _ _ _

instance : (TabletId.format.counted 8 8).Decodes := .counted _ 8 8 (by decide)

instance : Binding.format.Decodes := Decodes.map _ _ _

instance : (RowkeyColumn.format.counted 10 16).Decodes := .counted _ 10 16 (by decide)

instance : (Column.format.counted 10 16).Decodes := .counted _ 10 16 (by decide)

instance : StorageSchema.format.Decodes := Decodes.map _ _ _

instance : (Compaction.format.counted 26 32).Decodes := .counted _ 26 32 (by decide)

instance : CompactionQueue.format.Decodes := Decodes.refine _ _ _

instance : DescriptorBody.format.Decodes := Decodes.map _ _ _

instance : DescriptorBody.namesFormat.Decodes := Decodes.pair _ _

instance : Snapshot.format.Decodes := Decodes.map _ _ _

end TabletRecords
