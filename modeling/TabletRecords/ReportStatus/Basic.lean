import TabletRecords.Wire.Format

/-!
Report status: what the control plane has last heard of a tablet, against what has happened since.
-/
namespace TabletRecords

structure MajorSummary where
  snapshotVersion : Int64
  dataChecksum : Int64
  rowCount : Int64
deriving DecidableEq

/-- The reports of a tablet to the control plane. -/
structure ReportStatus where
  mergeSnapshotVersion : Int64 := 0
  currentReportVersion : Int64 := 0
  dataChecksum : Int64 := 0
  rowCount : Int64 := 0
deriving DecidableEq

namespace ReportStatus

def needsReport (status : ReportStatus) : Bool :=
  status.currentReportVersion < status.mergeSnapshotVersion

def format : Wire.Format ReportStatus :=
  (Wire.Format.int64.pair <| Wire.Format.int64.pair <| Wire.Format.int64.pair
    Wire.Format.int64).map
    (fun (mergeSnapshotVersion, currentReportVersion, dataChecksum, rowCount) =>
      { mergeSnapshotVersion, currentReportVersion, dataChecksum, rowCount })
    (fun status =>
      (status.mergeSnapshotVersion, status.currentReportVersion, status.dataChecksum,
        status.rowCount))

instance : Inhabited ReportStatus := ⟨{}⟩

instance : Text.Printable ReportStatus :=
  ⟨fun status => .record "TabletReportStatus"
    [("merge_snapshot_version", Text.tree status.mergeSnapshotVersion),
     ("cur_report_version", Text.tree status.currentReportVersion),
     ("data_checksum", Text.tree status.dataChecksum),
     ("row_count", Text.tree status.rowCount)]⟩

end ReportStatus

end TabletRecords
