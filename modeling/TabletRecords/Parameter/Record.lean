import TabletRecords.Parameter.Basic

/-!
Transfer parameters as records. A valid snapshot is written within the parameter's own limit on
records, and a record is taken in on top of what the parameter holds, which it then replaces.
-/
namespace TabletRecords.TransferParameter

/-- Write the record of a parameter into a buffer, at a position. The answer is the changed buffer
and the position after the record. -/
def write (parameter : TransferParameter) (buffer : List UInt8) (position : Nat) :
    Except Fault (List UInt8 × Nat) :=
  if !parameter.snapshot.isValid then .error (.argument .unwritableSnapshot)
  else
    match Wire.Record.write Snapshot.format Snapshot.currentVersion parameter.snapshot
        parameter.settings.recordLimit buffer position with
    | .ok (_, written) => .ok written
    | .error error => .error (.malformed error)

def toRecord (parameter : TransferParameter) : Except Fault (List UInt8) := do
  let (buffer, _) ← parameter.write (List.replicate parameter.snapshot.recordSize 0) 0
  return buffer

def read (parameter : TransferParameter) (buffer : List UInt8) (position : Nat) :
    Charging (TransferParameter × Nat) :=
  Charging.readRecord Snapshot.format Snapshot.currentVersion parameter.settings.recordLimit
    parameter.arena buffer position fun header snapshot => do
      let ledger ← get
      unless snapshot.isValid do
        throw (.malformed (.corrupt
          (.broken .snapshot (snapshot.treeIn (ledger.account parameter.arena)))))
      Charging.drop Snapshot.format parameter.held
      return ({ parameter with snapshot }, position + header.size)

end TabletRecords.TransferParameter
