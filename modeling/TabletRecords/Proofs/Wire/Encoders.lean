import TabletRecords.Descriptor.Basic
import TabletRecords.Proofs.Wire.Encoder
import TabletRecords.Snapshot.Basic

/-!
The encoders of the two bodies and of their parts. They follow from how the formats are composed.
-/
namespace TabletRecords

open Wire.Format (Encodes)

instance : Wire.Header.format.Encodes := Encodes.map _ _ _

instance : LogStreamId.format.Encodes := Encodes.map _ _ _

instance : TabletId.format.Encodes := Encodes.map _ _ _

instance : Scn.format.Encodes := Encodes.map _ _ _

instance : Readiness.format.Encodes := Encodes.refine _ _ _

instance : StoreFlag.format.Encodes := Encodes.refine _ _ _

instance : ReportStatus.format.Encodes := Encodes.map _ _ _

instance : TransactionState.format.Encodes := Encodes.map _ _ _

instance : RowkeyColumn.format.Encodes := Encodes.map _ _ _

instance : Column.format.Encodes := Encodes.map _ _ _

instance : Compaction.format.Encodes := Encodes.map _ _ _

instance : Autoincrement.Interval.format.Encodes := Encodes.map _ _ _

instance : Autoincrement.Sequence.format.Encodes := Encodes.refine _ _ _

instance : Binding.format.Encodes := Encodes.map _ _ _

instance : StorageSchema.format.Encodes := Encodes.map _ _ _

instance : CompactionQueue.format.Encodes := Encodes.refine _ _ _

instance : DescriptorBody.format.Encodes := Encodes.map _ _ _

instance : Snapshot.format.Encodes := Encodes.map _ _ _

end TabletRecords
