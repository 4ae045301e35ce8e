import TabletRecords.Fault

/-!
The first report status of a tablet.
-/
namespace TabletRecords.ReportStatus

/-- The status after the given version has been reported, with what there is to say of the latest
major storage unit, if the tablet has one. -/
def initial (major? : Option MajorSummary) (reportVersion : Int64) : Except Fault ReportStatus :=
  if reportVersion < 0 then .error (.argument (.reportVersion reportVersion))
  else
    match major? with
    | none => .ok { currentReportVersion := reportVersion }
    | some major => .ok ⟨major.snapshotVersion, reportVersion, major.dataChecksum, major.rowCount⟩

end TabletRecords.ReportStatus
