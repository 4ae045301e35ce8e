import TabletRecords.Arena.Account
import TabletRecords.Arena.Ledger
import TabletRecords.Autoincrement.Advance
import TabletRecords.Autoincrement.Sequence
import TabletRecords.Binding.Basic
import TabletRecords.Binding.Hidden
import TabletRecords.Charging
import TabletRecords.Compaction.Queue
import TabletRecords.Compaction.Schedule
import TabletRecords.Descriptor.Basic
import TabletRecords.Fault
import TabletRecords.Identifier
import TabletRecords.Parameter.Assign
import TabletRecords.Parameter.Basic
import TabletRecords.Parameter.Record
import TabletRecords.Proofs.Binding.HiddenTablets
import TabletRecords.Proofs.Parameter.RoundTrip
import TabletRecords.Proofs.Parameter.Transfer
import TabletRecords.Proofs.Session.Accounting
import TabletRecords.Proofs.Session.Reachable
import TabletRecords.Proofs.Tablet.Canonical
import TabletRecords.Proofs.Tablet.CreationTime
import TabletRecords.Proofs.Tablet.Reachable
import TabletRecords.Proofs.Tablet.RoundTrip
import TabletRecords.Readiness
import TabletRecords.ReportStatus.Basic
import TabletRecords.ReportStatus.Initial
import TabletRecords.Schema.Basic
import TabletRecords.Schema.Build
import TabletRecords.Schema.Column
import TabletRecords.Session.Edit
import TabletRecords.Session.Object
import TabletRecords.Session.Run
import TabletRecords.Session.Step
import TabletRecords.Settings
import TabletRecords.Snapshot.Basic
import TabletRecords.StoreFlag
import TabletRecords.Tablet.Basic
import TabletRecords.Tablet.Init
import TabletRecords.Tablet.Record
import TabletRecords.Tablet.Update
import TabletRecords.Text.Blank
import TabletRecords.Text.Tree
import TabletRecords.TransactionState
import TabletRecords.Wire.BigEndian
import TabletRecords.Wire.Cursor
import TabletRecords.Wire.Error
import TabletRecords.Wire.Format
import TabletRecords.Wire.Intake
import TabletRecords.Wire.Record
import TabletRecords.Wire.Tagged
import TabletRecords.Proofs.Parameter.Canonical
import TabletRecords.Proofs.Tablet.Generations
import TabletRecords.Proofs.Session.Failure
import TabletRecords.Proofs.Tablet.Name
import TabletRecords.Proofs.Series
import TabletRecords.Proofs.Tablet.Life
import TabletRecords.Proofs.Wire.Decoder
import TabletRecords.Proofs.Wire.Decoders
import TabletRecords.Proofs.Wire.Guarded
import TabletRecords.Proofs.Safety
import TabletRecords.Proofs.Wire.Cutting
import TabletRecords.Proofs.Wire.Damage
import TabletRecords.Proofs.Damage
import TabletRecords.Proofs.Locality
import TabletRecords.Proofs.Tablet.Acceptance
import TabletRecords.Proofs.Tablet.Reception
import TabletRecords.Proofs.Tablet.Standstill
import TabletRecords.Proofs.Wire.Writing
import TabletRecords.Proofs.Wire.Encoder
import TabletRecords.Proofs.Wire.Encoders
import TabletRecords.Proofs.Tablet.NameReading
import TabletRecords.Proofs.Sizes
import TabletRecords.Proofs.Tablet.Merging
import TabletRecords.Proofs.Autoincrement.Advancing
import TabletRecords.Proofs.Compaction.Ordering
import TabletRecords.Proofs.Parameter.Assignment
import TabletRecords.Proofs.Wire.Refusal
import TabletRecords.Proofs.Parameter.Admission
import TabletRecords.Proofs.Settings
import TabletRecords.Proofs.Wire.Flat
import TabletRecords.Proofs.Wire.Inversion
import TabletRecords.Proofs.Wire.CountGuard
import TabletRecords.Proofs.Parameter.Carrying
import TabletRecords.Proofs.Parameter.Placeholder
import TabletRecords.Proofs.Wire.HeaderSize
